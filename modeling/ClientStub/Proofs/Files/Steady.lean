import ClientStub.Proofs.Files.FileSystem

/-!
# What can be done again

A directory that was made is there until the end, and to make it again does nothing. A path that a text was
written to can be written to again. A file that was read is read again with the same text as long as nothing is
written to its place. File trees have these properties, and a run needs no others of its disk to be repeated.
-/

namespace ClientStub

namespace FileTree

variable {tree other : FileTree} {place : Place} {path : String}

/-- Every directory of a tree is one of another tree. -/
def Grows (tree other : FileTree) : Prop :=
  ∀ place, tree.isDirectory place = true → other.isDirectory place = true

theorem grows_of_eq (same : other.isDirectory = tree.isDirectory) : Grows tree other := by
  intro place inside
  rwa [same]

theorem Grows.trans {last : FileTree} (first : Grows tree other) (second : Grows other last) : Grows tree last :=
  fun place inside => second place (first place inside)

theorem Grows.enter (grows : Grows tree other) {start goal : Place} {names : List String}
    (entered : tree.enter start names = .ok goal) : other.enter start names = .ok goal := by
  induction names generalizing start with
  | nil => exact entered
  | cons name names ih =>
    obtain ⟨place, inside, stepped, entered⟩ := enter_cons_eq_ok_iff.1 entered
    rw [step_eq_ok_iff inside] at stepped
    apply enter_cons_eq_ok_iff.2
    refine ⟨place, grows place inside, ?_, ih entered⟩
    rw [step_eq_ok_iff (grows place inside)]
    exact stepped

/-- A path leads to a directory when its steps do, the last one too. -/
theorem leadsToDirectory_iff : tree.leadsToDirectory path = true ↔
    ∃ route, FileTree.route path = .ok route ∧
      ∃ directory, tree.enter route.start route.before = .ok directory ∧
        match route.last with
        | none => tree.isDirectory directory = true
        | some name => ∃ place, tree.isDirectory place = true ∧ tree.step directory name = .ok place := by
  have source : tree.leadsToDirectory path = true ↔
      ∃ place, tree.find path = .ok place ∧ tree.isDirectory place = true := by
    unfold leadsToDirectory
    cases tree.find path with
    | error fault => simp
    | ok place => simp
  rw [source]
  unfold find
  cases FileTree.route path with
  | error fault => simp [bind, Except.bind]
  | ok route =>
    simp only [bind, Except.bind, Except.ok.injEq, exists_eq_left']
    cases tree.enter route.start route.before with
    | error fault => simp
    | ok directory =>
      simp only [Except.ok.injEq, exists_eq_left']
      cases route.last with
      | none => simp [pure, Except.pure]
      | some name =>
        simp only
        cases tree.step directory name with
        | error fault => simp
        | ok place =>
          cases inside : tree.isDirectory place with
          | false => cases route.wantsDirectory <;> simp [inside, pure, Except.pure]
          | true => simp [inside, pure, Except.pure]

theorem Grows.leadsToDirectory (grows : Grows tree other) (leads : tree.leadsToDirectory path = true) :
    other.leadsToDirectory path = true := by
  obtain ⟨route, routed, directory, entered, last⟩ := leadsToDirectory_iff.1 leads
  apply leadsToDirectory_iff.2
  refine ⟨route, routed, directory, grows.enter entered, ?_⟩
  cases named : route.last with
  | none =>
    rw [named] at last
    exact grows directory last
  | some name =>
    rw [named] at last
    obtain ⟨place, inside, stepped⟩ := last
    rw [step_eq_ok_iff inside] at stepped
    refine ⟨place, grows place inside, ?_⟩
    rw [step_eq_ok_iff (grows place inside)]
    exact stepped

/-- A path that leads to a file leads there still when there are more directories and as many files. -/
theorem Grows.place? (grows : Grows tree other) (files : other.contents = tree.contents)
    (held : (tree.contents place).isSome = true) (leads : tree.place? path = some place) :
    other.place? path = some place := by
  obtain ⟨route, routed, directory, entered, name, last, file, short, -, rfl⟩ :=
    target_eq_ok_iff.1 (place?_eq_some.1 leads)
  apply place?_eq_some.2
  apply target_eq_ok_iff.2
  refine ⟨route, routed, directory, grows.enter entered, name, last, file, short, ?_, rfl⟩
  obtain ⟨content, held⟩ := Option.isSome_iff_exists.1 held
  rw [← files] at held
  simp [isDirectory, get?_of_contents held]

theorem grows_put_directory : Grows tree (tree.put place .directory) := by
  intro beside inside
  unfold isDirectory at inside ⊢
  rw [get?_put]
  split
  · rfl
  · exact inside

/-- A directory that could be made was not there, and is there then. -/
theorem makeDirectory_eq_ok (made : tree.makeDirectory path = .ok other) :
    Grows tree other ∧ other.leadsToDirectory path = true := by
  unfold makeDirectory at made
  obtain ⟨route, routed, made⟩ := bind_eq_ok.1 made
  obtain ⟨directory, entered, made⟩ := bind_eq_ok.1 made
  split at made
  · cases made
  · rename_i name last
    split at made
    · cases made
    · rename_i plain
      split at made
      · cases made
      · rename_i short
        dsimp only at made
        split at made
        · cases made
        · rename_i absent
          cases made
          have grows : Grows tree (tree.put (directory ++ [name]) .directory) := grows_put_directory
          refine ⟨grows, leadsToDirectory_iff.2 ⟨route, routed, directory, grows.enter entered, ?_⟩⟩
          have inside : (tree.put (directory ++ [name]) .directory).isDirectory (directory ++ [name]) = true := by
            unfold isDirectory
            rw [get?_put]
            split
            · rfl
            · rename_i given
              simp only [and_true, Bool.not_eq_false] at given
              simp [get?, given]
          rw [last]
          refine ⟨directory ++ [name], inside, ?_⟩
          rw [step_eq_ok_iff inside]
          simp only [Bool.or_eq_true, decide_eq_true_eq, not_or] at plain
          simp [plain, short]

theorem ensureDirectory_eq_ok (made : tree.ensureDirectory path = .ok other) :
    Grows tree other ∧ other.leadsToDirectory path = true := by
  unfold ensureDirectory at made
  split at made
  · rename_i done
    cases made
    exact makeDirectory_eq_ok done
  · split at made
    · rename_i there
      cases made
      exact ⟨grows_of_eq rfl, there⟩
    · cases made
  · cases made

theorem grows_makeAlong (paths : List String) (tree : FileTree) : Grows tree (makeAlong paths tree).2 := by
  induction paths generalizing tree with
  | nil => exact grows_of_eq rfl
  | cons path above ih =>
    unfold makeAlong
    split
    · rename_i made done
      exact (ensureDirectory_eq_ok done).1
    · have along := ih tree
      split
      · rename_i stopped
        rwa [stopped] at along
      · rename_i reached
        rw [reached] at along
        split
        · rename_i done
          exact along.trans (ensureDirectory_eq_ok done).1
        · exact along
    · exact grows_of_eq rfl

theorem leadsToDirectory_makeAlong {above : List String}
    (made : makeAlong (path :: above) tree = (.ok (), other)) : other.leadsToDirectory path = true := by
  unfold makeAlong at made
  split at made
  · rename_i done
    cases made
    exact (ensureDirectory_eq_ok done).2
  · split at made
    · cases made
    · split at made
      · rename_i done
        cases made
        exact (ensureDirectory_eq_ok done).2
      · cases made
  · cases made

/-- To make a directory that is there does nothing. -/
theorem ensureDirectory_of_leadsToDirectory (leads : tree.leadsToDirectory path = true) :
    tree.ensureDirectory path = .ok tree := by
  have there : tree.makeDirectory path = .error .alreadyExists := by
    obtain ⟨route, routed, directory, entered, last⟩ := leadsToDirectory_iff.1 leads
    unfold makeDirectory
    rw [routed]
    dsimp only [bind, Except.bind]
    rw [entered]
    dsimp only
    split
    · rfl
    · rename_i name named
      rw [named] at last
      obtain ⟨place, inside, stepped⟩ := last
      rw [step_eq_ok_iff inside] at stepped
      split
      · rfl
      · rename_i plain
        simp only [Bool.or_eq_true, decide_eq_true_eq, not_or] at plain
        rw [if_neg plain.1, if_neg plain.2] at stepped
        obtain ⟨short, rfl⟩ := stepped
        have present : (tree.get? (directory ++ [name])).isSome = true := by
          rw [of_decide_eq_true inside]
          rfl
        simp [short, present]
  unfold ensureDirectory
  rw [there]
  simp [leads]

/-- A path leads to a directory; the empty path leads to the working directory. -/
def HasDirectory (tree : FileTree) (path : String) : Prop := path = "" ∨ tree.leadsToDirectory path = true

theorem Grows.hasDirectory (grows : Grows tree other) (there : tree.HasDirectory path) : other.HasDirectory path :=
  there.imp_right grows.leadsToDirectory

/-- Writing a text makes no directory and removes none. -/
theorem isDirectory_writeText {text : String} (written : tree.writeText path text = .ok other) :
    other.isDirectory = tree.isDirectory := by
  rw [writeText_eq] at written
  cases leads : tree.target path with
  | error fault => rw [leads] at written; cases written
  | ok place =>
    rw [leads] at written
    cases written
    exact isDirectory_put_file (isDirectory_target leads) _

theorem grows_createDirectories (path : String) (tree : FileTree) :
    Grows tree (tree.createDirectories path).2 := by
  unfold createDirectories
  split
  · exact grows_of_eq rfl
  · exact grows_makeAlong _ tree

theorem hasDirectory_of_createDirectories (made : tree.createDirectories path = (.ok (), other)) :
    other.HasDirectory path := by
  unfold createDirectories at made
  split at made
  · rename_i empty
    exact .inl empty
  · exact .inr (leadsToDirectory_makeAlong made)

theorem createDirectories_of_hasDirectory (there : tree.HasDirectory path) :
    tree.createDirectories path = (.ok (), tree) := by
  unfold createDirectories
  split
  · rfl
  · rename_i named
    have leads := there.resolve_left named
    rw [makeAlong, ensureDirectory_of_leadsToDirectory leads]

theorem isDirectory_of_isGiven (given : isGiven place = true) : tree.isDirectory place = true := by
  simp [isDirectory, get?, given]

/-- A place with directories all along, in which steps up come before all others. -/
def Reached (tree : FileTree) (place : Place) : Prop :=
  ∀ front, front <+: place →
    tree.isDirectory front = true ∧ (front.getLast? = some ".." → isGiven front = true)

theorem Reached.isDirectory (reached : Reached tree place) : tree.isDirectory place = true :=
  (reached place (List.prefix_refl place)).1

theorem Reached.concat {name : String} (reached : Reached tree place)
    (inside : tree.isDirectory (place ++ [name]) = true) (up : name = ".." → isGiven (place ++ [name]) = true) :
    Reached tree (place ++ [name]) := by
  intro front short
  rcases List.prefix_concat_iff.1 short with rfl | short
  · refine ⟨inside, fun last => up ?_⟩
    simpa using last
  · exact reached front short

theorem reached_nil (tree : FileTree) : Reached tree [] := by
  intro front short
  obtain rfl := List.prefix_nil.1 short
  exact ⟨rfl, nofun⟩

theorem reached_root (tree : FileTree) : Reached tree root :=
  (reached_nil tree).concat rfl fun up => absurd up (by decide)

/-- A path starts at the root or at the working directory. -/
theorem reached_start {route : Route} (routed : FileTree.route path = .ok route) : Reached tree route.start := by
  unfold FileTree.route at routed
  split at routed
  · cases routed
  · split at routed
    · cases routed
    · split at routed
      · cases routed
      · cases routed
        dsimp only
        split
        · exact reached_root tree
        · exact reached_nil tree

theorem Reached.above (reached : Reached tree place) : Reached tree (above place) := by
  unfold FileTree.above
  split
  · exact reached_root tree
  · rename_i inner
    split
    · exact (reached_nil tree).concat rfl fun _ => rfl
    · rename_i up
      have given : isGiven (place ++ [".."]) = true := by
        have allUp := (reached place (List.prefix_refl place)).2 up
        simp only [isGiven, inner, decide_false, Bool.false_or] at allUp
        simp [isGiven, List.all_append, allUp]
      exact reached.concat (isDirectory_of_isGiven given) fun _ => given
    · exact fun front short => reached front (short.trans (List.dropLast_prefix place))

theorem Reached.enter {start goal : Place} {names : List String} (reached : Reached tree start)
    (entered : tree.enter start names = .ok goal) : Reached tree goal := by
  induction names generalizing start with
  | nil =>
    cases entered
    exact reached
  | cons name names ih =>
    obtain ⟨place, inside, stepped, entered⟩ := enter_cons_eq_ok_iff.1 entered
    refine ih ?_ entered
    rw [step_eq_ok_iff inside] at stepped
    split at stepped
    · rwa [← stepped]
    · split at stepped
      · rw [← stepped]
        exact reached.above
      · rename_i up
        obtain ⟨-, rfl⟩ := stepped
        exact reached.concat inside fun same => absurd same up

/-- A step that does not lead to a directory leads to an entry of the directory. -/
theorem Reached.step_outside {directory : Place} {name : String} (reached : Reached tree directory)
    (stepped : tree.step directory name = .ok place) (outside : tree.isDirectory place = false) :
    name ≠ "." ∧ name ≠ ".." ∧ isTooLong name = false ∧ directory ++ [name] = place := by
  unfold step at stepped
  split at stepped
  · cases stepped
    rw [reached.isDirectory] at outside
    cases outside
  · rename_i here
    split at stepped
    · cases stepped
      rw [reached.above.isDirectory] at outside
      cases outside
    · rename_i up
      split at stepped
      · cases stepped
      · rename_i short
        split at stepped
        · cases stepped
          exact ⟨here, up, by simpa using short, rfl⟩
        · cases stepped

/-- A path that leads to something else than a directory leads where a text for it would be written. -/
theorem target_of_find (found : tree.find path = .ok place) (outside : tree.isDirectory place = false) :
    tree.target path = .ok place := by
  unfold find at found
  obtain ⟨route, routed, found⟩ := bind_eq_ok.1 found
  obtain ⟨directory, entered, found⟩ := bind_eq_ok.1 found
  have reached := (reached_start routed).enter entered
  cases last : route.last with
  | none =>
    rw [last] at found
    cases found
    rw [reached.isDirectory] at outside
    cases outside
  | some name =>
    rw [last] at found
    obtain ⟨goal, stepped, found⟩ := bind_eq_ok.1 found
    split at found
    · cases found
    · rename_i plain
      cases found
      obtain ⟨here, up, short, rfl⟩ := reached.step_outside stepped outside
      have noSlash : route.wantsDirectory = false := by simpa [outside] using plain
      apply target_eq_ok_iff.2
      exact ⟨route, routed, directory, entered, name, last, by simp [noSlash, here, up], short, outside, rfl⟩

/-- What is read at a path is the text in the file that the path names. -/
theorem readText_eq_ok_iff {text : String} : tree.readText path = .ok text ↔
    ∃ place, tree.place? path = some place ∧ tree.contents place = some (.text text) := by
  constructor
  · intro read
    unfold readText at read
    obtain ⟨place, found, read⟩ := bind_eq_ok.1 read
    have held : tree.get? place = some (.file (.text text)) := by
      split at read
      · cases read
        assumption
      · cases read
      · cases read
      · cases read
    have outside : tree.isDirectory place = false := by
      simp [FileTree.isDirectory, held]
    refine ⟨place, place?_eq_some.2 (target_of_find found outside), ?_⟩
    simp [contents, held]
  · rintro ⟨place, leads, held⟩
    exact readText_eq_ok leads held

theorem grows_writeText {text : String} (written : fileSystem.writeText path text tree = (.ok (), other)) :
    Grows tree other := by
  unfold fileSystem disk at written
  dsimp only at written
  split at written
  · rename_i made done
    cases written
    exact grows_of_eq (isDirectory_writeText done)
  · cases written

/-- A path has a place to write to exactly when texts can be written to it. -/
theorem takesText_iff : fileSystem.TakesText tree path ↔ ∃ place, tree.place? path = some place := by
  constructor
  · intro takes
    obtain ⟨after, written⟩ := takes ""
    obtain ⟨place, leads, -, -⟩ := fileSystem.contents_writeText written
    exact ⟨place, leads⟩
  · rintro ⟨place, leads⟩ text
    refine ⟨tree.put place (.file (.text text)), ?_⟩
    have written : tree.writeText path text = .ok (tree.put place (.file (.text text))) := by
      rw [writeText_eq, place?_eq_some.1 leads]
      rfl
    simp [fileSystem, disk, written]

end FileTree

/-- A file system where what was done once can be done again. Nothing is said of paths that have not been written
to: the file of a path that is read may be one that nobody can write to. -/
structure SteadyFileSystem (σ : Type) extends FileSystem σ where
  createDirectories_again : ∀ {directory state made}, createDirectories directory state = (.ok (), made) →
    createDirectories directory made = (.ok (), made)
  createDirectories_writeText : ∀ {directory path text state after},
    createDirectories directory state = (.ok (), state) → writeText path text state = (.ok (), after) →
    createDirectories directory after = (.ok (), after)
  readText_createDirectories : ∀ {directory path text state}, (readText path state).1 = .ok text →
    (readText path (createDirectories directory state).2).1 = .ok text
  readText_writeText_of_ne : ∀ {path other text new state after}, (readText path state).1 = .ok text →
    writeText other new state = (.ok (), after) → place? state other ≠ place? state path →
    (readText path after).1 = .ok text
  takesText_of_writeText : ∀ {path text state after}, writeText path text state = (.ok (), after) →
    toFileSystem.TakesText after path
  takesText_writeText : ∀ {path other text state after}, toFileSystem.TakesText state path →
    writeText other text state = (.ok (), after) → toFileSystem.TakesText after path

/-- File trees are steady. -/
def FileTree.steady : SteadyFileSystem FileTree where
  toFileSystem := FileTree.fileSystem
  createDirectories_again made :=
    FileTree.createDirectories_of_hasDirectory (FileTree.hasDirectory_of_createDirectories made)
  createDirectories_writeText there written := by
    have made := FileTree.hasDirectory_of_createDirectories there
    exact FileTree.createDirectories_of_hasDirectory ((FileTree.grows_writeText written).hasDirectory made)
  readText_createDirectories := by
    intro directory path text tree read
    obtain ⟨place, leads, held⟩ := FileTree.readText_eq_ok_iff.1 read
    have files := tree.contents_createDirectories directory
    refine FileTree.readText_eq_ok_iff.2 ⟨place, ?_, ?_⟩
    · exact (tree.grows_createDirectories directory).place? files (by rw [held]; rfl) leads
    · exact (congrFun files place).trans held
  readText_writeText_of_ne := by
    intro path other text new tree after read written apart
    obtain ⟨place, leads, held⟩ := FileTree.readText_eq_ok_iff.1 read
    obtain ⟨goal, goes, files, same⟩ := FileTree.fileSystem.contents_writeText written
    rw [FileTree.place?_fileSystem] at goes same apart
    have elsewhere : place ≠ goal := by
      rintro rfl
      exact apart (goes.trans leads.symm)
    refine FileTree.readText_eq_ok_iff.2 ⟨place, by rw [same, leads], ?_⟩
    refine (congrFun files place).trans ?_
    rw [FileTree.withText, if_neg elsewhere]
    exact held
  takesText_of_writeText written := by
    obtain ⟨place, leads, -, same⟩ := FileTree.fileSystem.contents_writeText written
    rw [← same] at leads
    exact FileTree.takesText_iff.2 ⟨place, leads⟩
  takesText_writeText takes written := by
    obtain ⟨place, leads⟩ := FileTree.takesText_iff.1 takes
    have same := FileSystem.place?_of_writeText written
    rw [FileTree.place?_fileSystem] at same
    rw [← same] at leads
    exact FileTree.takesText_iff.2 ⟨place, leads⟩

namespace SteadyFileSystem

variable {σ : Type} {fileSystem : SteadyFileSystem σ} {before after : σ} {writes : List (String × String)}
  {path : String}

theorem createDirectories_of_writes {directory : String} (writing : fileSystem.Writes writes before after)
    (there : fileSystem.createDirectories directory before = (.ok (), before)) :
    fileSystem.createDirectories directory after = (.ok (), after) := by
  induction writing with
  | done state => exact there
  | step written rest ih => exact ih (fileSystem.createDirectories_writeText there written)

/-- A text stays readable while others are written elsewhere. -/
theorem readText_of_writes {text : String} (writing : fileSystem.Writes writes before after)
    (read : (fileSystem.readText path before).1 = .ok text)
    (apart : ∀ write ∈ writes, fileSystem.place? before write.1 ≠ fileSystem.place? before path) :
    (fileSystem.readText path after).1 = .ok text := by
  induction writing with
  | done state => exact read
  | step written rest ih =>
    rw [List.forall_mem_cons] at apart
    apply ih (fileSystem.readText_writeText_of_ne read written apart.1)
    rw [FileSystem.place?_of_writeText written]
    exact apart.2

theorem takesText_of_writes (writing : fileSystem.Writes writes before after)
    (takes : fileSystem.TakesText before path) : fileSystem.TakesText after path := by
  induction writing with
  | done state => exact takes
  | step written rest ih => exact ih (fileSystem.takesText_writeText takes written)

/-- Whatever was written in a run of writes can be written to once more. -/
theorem takesText_of_mem_writes (writing : fileSystem.Writes writes before after) :
    ∀ write ∈ writes, fileSystem.TakesText after write.1 := by
  induction writing with
  | done state => exact nofun
  | step written rest ih =>
    exact List.forall_mem_cons.2 ⟨takesText_of_writes rest (fileSystem.takesText_of_writeText written), ih⟩

theorem exists_writes (state : σ) (takes : ∀ write ∈ writes, fileSystem.TakesText state write.1) :
    ∃ after, fileSystem.Writes writes state after := by
  induction writes generalizing state with
  | nil => exact ⟨state, .done state⟩
  | cons write writes ih =>
    obtain ⟨path, text⟩ := write
    rw [List.forall_mem_cons] at takes
    obtain ⟨next, written⟩ := takes.1 text
    obtain ⟨after, rest⟩ := ih next fun write listed => fileSystem.takesText_writeText (takes.2 write listed) written
    exact ⟨after, .step written rest⟩

end SteadyFileSystem

end ClientStub
