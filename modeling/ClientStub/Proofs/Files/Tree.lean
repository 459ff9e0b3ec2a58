import ClientStub.Files.Tree

/-!
# What operations do to the files of a tree

The files of a tree, apart from its directories. Making directories changes no file. A write changes the file
at one place, and which place a path leads to depends on the directories alone, so a write moves no place.
-/

namespace ClientStub.FileTree

variable {tree other : FileTree} {place : Place} {path : String}

/-- What the file at a place holds, if one is there. -/
def contents (tree : FileTree) (place : Place) : Option Content :=
  match tree.get? place with
  | some (.file content) => some content
  | _ => none

/-- The files after `text` was written to the place `target`. -/
def withText (target : Place) (text : String) (files : Place → Option Content) : Place → Option Content :=
  fun place => if place = target then some (.text text) else files place

theorem lookup_replace (place beside : Place) (entry : FileEntry) (entries : List (Place × FileEntry)) :
    (put.replace place entry entries).lookup beside =
      if beside = place then some entry else entries.lookup beside := by
  induction entries with
  | nil =>
    by_cases same : beside = place
    · simp [put.replace, same]
    · simp [put.replace, List.lookup_cons, beq_false_of_ne same, same]
  | cons first entries ih =>
    obtain ⟨held, content⟩ := first
    by_cases same : held = place
    · subst same
      by_cases found : beside = held
      · simp [put.replace, found]
      · simp [put.replace, List.lookup_cons, beq_false_of_ne found, found]
    · rw [put.replace, if_neg same, List.lookup_cons, List.lookup_cons, ih]
      by_cases found : beside = held
      · subst found
        simp [same]
      · simp [beq_false_of_ne found]

theorem get?_put (tree : FileTree) (place beside : Place) (entry : FileEntry) :
    (tree.put place entry).get? beside =
      if isGiven beside = false ∧ beside = place then some entry else tree.get? beside := by
  unfold get? put
  rw [lookup_replace]
  split
  · simp [*]
  · simp [*]

theorem isGiven_eq_false (absent : tree.isDirectory place = false) : isGiven place = false := by
  cases given : isGiven place with
  | false => rfl
  | true => simp [isDirectory, get?, given] at absent

theorem isDirectory_put_file (absent : tree.isDirectory place = false) (content : Content) :
    (tree.put place (.file content)).isDirectory = tree.isDirectory := by
  funext beside
  unfold isDirectory
  rw [get?_put]
  split
  · rename_i found
    obtain ⟨-, rfl⟩ := found
    exact absent.symm
  · rfl

theorem contents_put_text (absent : tree.isDirectory place = false) (text : String) :
    (tree.put place (.file (.text text))).contents = withText place text tree.contents := by
  funext beside
  unfold contents withText
  rw [get?_put]
  by_cases same : beside = place
  · rw [same, if_pos ⟨isGiven_eq_false absent, rfl⟩, if_pos rfl]
  · rw [if_neg fun found => same found.2, if_neg same]

theorem contents_put_directory (absent : tree.get? place = none) :
    (tree.put place .directory).contents = tree.contents := by
  funext beside
  unfold contents
  rw [get?_put]
  by_cases found : isGiven beside = false ∧ beside = place
  · rw [if_pos found, found.2, absent]
  · rw [if_neg found]

/-- The place of a file with the last name of a route. -/
def fileIn (tree : FileTree) (route : Route) (directory : Place) : Except FileFault Place :=
  match route.last with
  | none => .error .isADirectory
  | some name =>
    if route.wantsDirectory || name = "." || name = ".." then .error .isADirectory
    else if isTooLong name then .error .nameTooLong
    else if tree.isDirectory (directory ++ [name]) then .error .isADirectory
    else .ok (directory ++ [name])

/-- The place that a text for a path is written to. -/
def target (tree : FileTree) (path : String) : Except FileFault Place := do
  let route ← route path
  let directory ← tree.enter route.start route.before
  tree.fileIn route directory

/-- The place of the file that a path names, if it can name one. -/
def place? (tree : FileTree) (path : String) : Option Place := (tree.target path).toOption

theorem place?_eq_some : tree.place? path = some place ↔ tree.target path = .ok place := by
  unfold place?
  cases tree.target path with
  | error fault => simp [Except.toOption]
  | ok place => simp [Except.toOption]

theorem writeText_eq (tree : FileTree) (path text : String) :
    tree.writeText path text = (tree.target path).map fun place => tree.put place (.file (.text text)) := by
  unfold writeText target
  cases route path with
  | error fault => rfl
  | ok route =>
    dsimp only [bind, Except.bind]
    cases tree.enter route.start route.before with
    | error fault => rfl
    | ok directory =>
      dsimp only [fileIn]
      cases route.last with
      | none => rfl
      | some name =>
        dsimp only
        split
        · rfl
        · split
          · rfl
          · split
            · rfl
            · rfl

theorem bind_eq_ok {α β : Type} {first : Except FileFault α} {next : α → Except FileFault β} {result : β} :
    first >>= next = .ok result ↔ ∃ value, first = .ok value ∧ next value = .ok result := by
  cases first with
  | error fault => simp [bind, Except.bind]
  | ok value => simp [bind, Except.bind]

theorem fileIn_eq_ok_iff {route : Route} {directory : Place} : tree.fileIn route directory = .ok place ↔
    ∃ name, route.last = some name ∧ (route.wantsDirectory || name = "." || name = "..") = false ∧
      isTooLong name = false ∧ tree.isDirectory (directory ++ [name]) = false ∧
      directory ++ [name] = place := by
  unfold fileIn
  cases route.last with
  | none => simp
  | some name => grind

/-- A path leads to the place of a file when its last step is a name that a file can have, and all steps
before lead to directories. -/
theorem target_eq_ok_iff : tree.target path = .ok place ↔
    ∃ route, FileTree.route path = .ok route ∧
      ∃ directory, tree.enter route.start route.before = .ok directory ∧
        ∃ name, route.last = some name ∧ (route.wantsDirectory || name = "." || name = "..") = false ∧
          isTooLong name = false ∧ tree.isDirectory (directory ++ [name]) = false ∧
          directory ++ [name] = place := by
  simp only [target, bind_eq_ok, fileIn_eq_ok_iff]

theorem isDirectory_target (leads : tree.target path = .ok place) : tree.isDirectory place = false := by
  obtain ⟨route, -, directory, -, name, -, -, -, absent, rfl⟩ := target_eq_ok_iff.1 leads
  exact absent

/-- Whether a step leads to a directory depends on the directories alone. -/
theorem step_eq_ok_iff {start : Place} {name : String} (inside : tree.isDirectory place = true) :
    tree.step start name = .ok place ↔
      if name = "." then start = place else if name = ".." then above start = place
      else isTooLong name = false ∧ start ++ [name] = place := by
  have there : (tree.get? place).isSome = true := by
    unfold isDirectory at inside
    rw [of_decide_eq_true inside]
    rfl
  unfold step
  split
  · simp
  · split
    · simp
    · split
      · simp [*]
      · by_cases same : start ++ [name] = place
        · obtain ⟨entry, found⟩ := Option.isSome_iff_exists.1 there
          simp [*]
        · cases tree.get? (start ++ [name]) with
          | none => simp [same]
          | some entry => simp [same]

theorem enter_cons_eq_ok_iff {start goal : Place} {name : String} {names : List String} :
    tree.enter start (name :: names) = .ok goal ↔
      ∃ place, tree.isDirectory place = true ∧ tree.step start name = .ok place ∧
        tree.enter place names = .ok goal := by
  rw [enter, bind_eq_ok]
  refine exists_congr fun place => ?_
  cases tree.isDirectory place with
  | false => simp
  | true => simp

theorem enter_eq_ok_iff (same : other.isDirectory = tree.isDirectory) {names : List String}
    {start goal : Place} : other.enter start names = .ok goal ↔ tree.enter start names = .ok goal := by
  induction names generalizing start with
  | nil => rfl
  | cons name names ih =>
    -- A file in the way and a missing entry stop a path with different faults, but both stop it.
    rw [enter_cons_eq_ok_iff, enter_cons_eq_ok_iff, same]
    refine exists_congr fun place => and_congr_right fun inside => ?_
    rw [step_eq_ok_iff inside, step_eq_ok_iff (same ▸ inside), ih]

/-- Trees with the same directories have the same places for paths. -/
theorem place?_eq (same : other.isDirectory = tree.isDirectory) : other.place? = tree.place? := by
  have leads (path : String) (place : Place) : other.target path = .ok place ↔ tree.target path = .ok place := by
    simp only [target_eq_ok_iff, same, enter_eq_ok_iff same]
  funext path
  refine Option.ext fun place => ?_
  rw [place?_eq_some, place?_eq_some, leads]

/-- A write that succeeds changes the file at the place of its path and no other, and moves no place. -/
theorem writeText_eq_ok {text : String} (written : tree.writeText path text = .ok other) :
    ∃ place, tree.place? path = some place ∧ other.contents = withText place text tree.contents ∧
      other.place? = tree.place? := by
  rw [writeText_eq] at written
  cases leads : tree.target path with
  | error fault => rw [leads] at written; cases written
  | ok place =>
    rw [leads] at written
    cases written
    have absent := isDirectory_target leads
    exact ⟨place, place?_eq_some.2 leads, contents_put_text absent text,
      place?_eq (isDirectory_put_file absent _)⟩

theorem get?_of_contents {content : Content} (held : tree.contents place = some content) :
    tree.get? place = some (.file content) := by
  unfold contents at held
  split at held
  · rename_i found
    cases held
    exact found
  · cases held

/-- The text at the place of a path is what is read there. -/
theorem readText_eq_ok {text : String} (leads : tree.place? path = some place)
    (held : tree.contents place = some (.text text)) : tree.readText path = .ok text := by
  obtain ⟨route, routed, directory, entered, name, last, file, short, -, rfl⟩ :=
    target_eq_ok_iff.1 (place?_eq_some.1 leads)
  simp only [Bool.or_eq_false_iff, decide_eq_false_iff_not] at file
  obtain ⟨⟨noSlash, here⟩, up⟩ := file
  have found := get?_of_contents held
  have step : tree.step directory name = .ok (directory ++ [name]) := by
    simp [FileTree.step, here, up, short, found]
  have reached : tree.find path = .ok (directory ++ [name]) := by
    simp [find, routed, entered, last, step, noSlash, bind, Except.bind, pure, Except.pure]
  simp [readText, reached, found, bind, Except.bind, pure, Except.pure]

theorem contents_makeDirectory (made : tree.makeDirectory path = .ok other) :
    other.contents = tree.contents := by
  unfold makeDirectory at made
  obtain ⟨route, -, made⟩ := bind_eq_ok.1 made
  obtain ⟨directory, -, made⟩ := bind_eq_ok.1 made
  split at made
  · cases made
  · split at made
    · cases made
    · split at made
      · cases made
      · dsimp only at made
        split at made
        · cases made
        · rename_i absent
          cases made
          exact contents_put_directory (Option.not_isSome_iff_eq_none.1 absent)

theorem contents_ensureDirectory (made : tree.ensureDirectory path = .ok other) :
    other.contents = tree.contents := by
  unfold ensureDirectory at made
  split at made
  · rename_i done
    cases made
    exact contents_makeDirectory done
  · split at made
    · cases made
      rfl
    · cases made
  · cases made

theorem contents_makeAlong (paths : List String) (tree : FileTree) :
    (makeAlong paths tree).2.contents = tree.contents := by
  induction paths generalizing tree with
  | nil => rfl
  | cons path above ih =>
    unfold makeAlong
    split
    · rename_i made done
      exact contents_ensureDirectory done
    · have along := ih tree
      split
      · rename_i stopped
        rw [stopped] at along
        exact along
      · rename_i reached
        rw [reached] at along
        split
        · rename_i done
          exact (contents_ensureDirectory done).trans along
        · exact along
    · rfl

/-- Making directories changes no file, whether it succeeds or not. -/
theorem contents_createDirectories (path : String) (tree : FileTree) :
    (tree.createDirectories path).2.contents = tree.contents := by
  unfold createDirectories
  split
  · rfl
  · exact contents_makeAlong _ tree

end ClientStub.FileTree
