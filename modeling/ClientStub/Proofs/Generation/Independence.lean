import ClientStub.Proofs.Exposure
import ClientStub.Proofs.Generation.Outputs

/-!
# Services of other classes

The service of a class is made of its first entry in the catalog, its module and the endpoint. Two runs that
agree in these leave the same file for the class, whatever else they write, as long as no other class has that
file.
-/

namespace ClientStub.Generation

variable {σ τ : Type} {fileSystem : FileSystem σ} {otherSystem : FileSystem τ} {config other : Config}
  {before after : σ} {otherBefore otherAfter : τ} {catalog otherCatalog : Catalog} {result otherResult : Run}

/-- A run that read a catalog and wrote the services of all its classes. -/
structure Success (fileSystem : FileSystem σ) (config : Config) (catalog : Catalog) (before : σ) (result : Run)
    (after : σ) : Prop where
  read : ∃ text, (fileSystem.readText config.catalogPath before).1 = .ok text ∧ Catalog.ofText text = .ok catalog
  ran : run fileSystem.toDisk config before = (result, after)
  succeeded : result.failure = none

/-- The classes of a run are those whose paths it returns, in their order. -/
theorem Success.written (success : Success fileSystem config catalog before result after) :
    result.written = (classNames config catalog).map (outputPath config) := by
  obtain ⟨text, read, parsed⟩ := success.read
  obtain ⟨_, _, -, done, readAs, parsedAs, -, names, -, -, written⟩ := run_completed success.ran success.succeeded
  obtain rfl := Except.ok.inj (read.symm.trans readAs)
  obtain rfl := Except.ok.inj (parsed.symm.trans parsedAs)
  rw [written, names, List.map_map, Function.comp_def]

/-- Every class of a run is in the catalog. -/
theorem Success.exists_entry (success : Success fileSystem config catalog before result after) {name : String}
    (listed : name ∈ classNames config catalog) : ∃ entry, catalog.select name = .ok entry := by
  obtain ⟨text, read, parsed⟩ := success.read
  obtain ⟨_, _, -, done, readAs, parsedAs, -, names, entries, -⟩ := run_completed success.ran success.succeeded
  obtain rfl := Except.ok.inj (read.symm.trans readAs)
  obtain rfl := Except.ok.inj (parsed.symm.trans parsedAs)
  rw [names] at listed
  obtain ⟨entry, inDone, rfl⟩ := List.mem_map.1 listed
  exact ⟨entry, entries entry inDone⟩

/-- Two classes have one file. -/
def SameFile (fileSystem : FileSystem σ) (state : σ) (config : Config) (a b : String) : Prop :=
  ∃ place, fileSystem.place? state (outputPath config a) = some place ∧
    fileSystem.place? state (outputPath config b) = some place

theorem SameFile.symm {a b : String} (same : SameFile fileSystem after config a b) :
    SameFile fileSystem after config b a := by
  obtain ⟨place, leads, leadsOther⟩ := same
  exact ⟨place, leadsOther, leads⟩

/-- No other class of a run has the file of a class. -/
def Alone (fileSystem : FileSystem σ) (config : Config) (catalog : Catalog) (after : σ) (name : String) : Prop :=
  ∀ beside ∈ classNames config catalog, beside ≠ name → ¬ SameFile fileSystem after config beside name

/-- A class that is alone with its file has its service there. -/
theorem Success.holds (success : Success fileSystem config catalog before result after) {name : String}
    {entry : ClassEntry} (listed : name ∈ classNames config catalog) (found : catalog.select name = .ok entry)
    (alone : Alone fileSystem config catalog after name) :
    fileSystem.Holds after (outputPath config name) (serviceText config name entry) := by
  obtain ⟨text, read, parsed⟩ := success.read
  obtain ⟨last, place, named, foundLast, leads, leadsLast, held⟩ :=
    exists_last_written read parsed success.ran success.succeeded listed
  have same : last.name = name := by
    by_contra ne
    exact alone last.name named ne ⟨place, leadsLast, leads⟩
  rw [same, found] at foundLast
  cases foundLast
  rw [same] at held
  exact ⟨place, leads, held⟩

theorem holds_unique {path text otherText : String} (holds : fileSystem.Holds after path text)
    (holdsOther : fileSystem.Holds after path otherText) : otherText = text := by
  obtain ⟨place, leads, held⟩ := holds
  obtain ⟨otherPlace, leadsOther, heldOther⟩ := holdsOther
  rw [leads] at leadsOther
  cases leadsOther
  rw [held] at heldOther
  cases heldOther
  rfl

/-- The paths that a run returned for classes that are kept, with the texts in their files. -/
def outputsOf (kept : String → Bool) (fileSystem : FileSystem σ) (config : Config) (catalog : Catalog)
    (result : Run) (after : σ) : Set (String × String) :=
  {pair | ∃ name ∈ classNames config catalog, kept name = true ∧ outputPath config name = pair.1 ∧
    pair.1 ∈ result.written ∧ fileSystem.Holds after pair.1 pair.2}

theorem mem_outputsOf {kept : String → Bool} {path text : String} :
    (path, text) ∈ outputsOf kept fileSystem config catalog result after ↔
      ∃ name ∈ classNames config catalog, kept name = true ∧ outputPath config name = path ∧
        path ∈ result.written ∧ fileSystem.Holds after path text := Iff.rfl

/-- The outputs of classes that are alone with their files are the services of these classes. -/
theorem Success.mem_outputsOf_iff (success : Success fileSystem config catalog before result after)
    {kept : String → Bool}
    (alone : ∀ name ∈ classNames config catalog, kept name = true → Alone fileSystem config catalog after name)
    {pair : String × String} :
    pair ∈ outputsOf kept fileSystem config catalog result after ↔
      ∃ name ∈ classNames config catalog, kept name = true ∧
        ∃ entry, catalog.select name = .ok entry ∧ (outputPath config name, serviceText config name entry) = pair := by
  obtain ⟨path, text⟩ := pair
  rw [mem_outputsOf]
  constructor
  · rintro ⟨name, listed, keep, rfl, -, held⟩
    obtain ⟨entry, found⟩ := success.exists_entry listed
    have own := success.holds listed found (alone name listed keep)
    exact ⟨name, listed, keep, entry, found, by rw [holds_unique held own]⟩
  · rintro ⟨name, listed, keep, entry, found, same⟩
    obtain ⟨rfl, rfl⟩ := Prod.mk.inj same
    have inWritten : outputPath config name ∈ result.written := by
      rw [success.written]
      exact List.mem_map_of_mem listed
    have own := success.holds listed found (alone name listed keep)
    exact ⟨name, listed, keep, rfl, inWritten, own⟩

/-- Runs with one configuration have the same outputs of classes for which their catalogs agree. -/
theorem outputsOf_eq (success : Success fileSystem config catalog before result after)
    (otherSuccess : Success otherSystem config otherCatalog otherBefore otherResult otherAfter)
    {kept : String → Bool}
    (alone : ∀ name ∈ classNames config catalog, kept name = true → Alone fileSystem config catalog after name)
    (otherAlone : ∀ name ∈ classNames config otherCatalog, kept name = true →
      Alone otherSystem config otherCatalog otherAfter name)
    (listed : ∀ name, kept name = true →
      (name ∈ classNames config otherCatalog ↔ name ∈ classNames config catalog))
    (found : ∀ name ∈ classNames config catalog, kept name = true →
      otherCatalog.select name = catalog.select name) :
    outputsOf kept otherSystem config otherCatalog otherResult otherAfter =
      outputsOf kept fileSystem config catalog result after := by
  ext pair
  rw [success.mem_outputsOf_iff alone, otherSuccess.mem_outputsOf_iff otherAlone]
  constructor
  · rintro ⟨name, inOther, keep, entry, selected, same⟩
    have inCatalog := (listed name keep).1 inOther
    exact ⟨name, inCatalog, keep, entry, (found name inCatalog keep).symm.trans selected, same⟩
  · rintro ⟨name, inCatalog, keep, entry, selected, same⟩
    exact ⟨name, (listed name keep).2 inCatalog, keep, entry, (found name inCatalog keep).trans selected, same⟩

theorem select_eq_of_class? {name : String} (same : otherCatalog.class? name = catalog.class? name) :
    otherCatalog.select name = catalog.select name := by
  simp only [Catalog.select, Catalog.lookup, same]

theorem mem_classNames_iff {name : String} :
    name ∈ classNames config catalog ↔
      if config.classes.isEmpty then (catalog.class? name).isSome = true else name ∈ config.classes.names := by
  unfold classNames
  split
  · simp [Catalog.classNames, Catalog.class?]
  · rfl

/-- A class is the same in catalogs with the same classes of certain names, its own among them. -/
theorem class?_eq_of_filter {kept : String → Bool} {name : String} (keep : kept name = true)
    (same : (otherCatalog.classes.filter fun entry => kept entry.name) =
      catalog.classes.filter fun entry => kept entry.name) :
    otherCatalog.class? name = catalog.class? name := by
  have among (entries : List ClassEntry) : (entries.find? fun entry => entry.name == name) =
      (entries.filter fun entry => kept entry.name).find? fun entry => entry.name == name := by
    rw [List.find?_filter]
    congr 1
    funext entry
    by_cases named : entry.name = name
    · simp [named, keep]
    · simp [named]
  rw [Catalog.class?, among, same, ← among, Catalog.class?]

/-- Classes with a file each: no two entries of the catalog have one file. -/
def FileEach (fileSystem : FileSystem σ) (config : Config) (catalog : Catalog) (after : σ) : Prop :=
  catalog.classes.Pairwise fun a b => ¬ SameFile fileSystem after config a.name b.name

theorem FileEach.eq_of_sameFile (each : FileEach fileSystem config catalog after) {a b : ClassEntry}
    (listedA : a ∈ catalog.classes) (listedB : b ∈ catalog.classes)
    (same : SameFile fileSystem after config a.name b.name) : a = b := by
  by_contra ne
  have symmetric : Std.Symm fun a b : ClassEntry => ¬ SameFile fileSystem after config a.name b.name :=
    ⟨fun a b apart beside => apart beside.symm⟩
  exact each.forall listedA listedB ne same

theorem Success.sameFile_self (success : Success fileSystem config catalog before result after) {name : String}
    (listed : name ∈ classNames config catalog) : SameFile fileSystem after config name name := by
  obtain ⟨text, read, parsed⟩ := success.read
  obtain ⟨-, place, -, -, leads, -⟩ := exists_last_written read parsed success.ran success.succeeded listed
  exact ⟨place, leads, leads⟩

/-- Where every class has a file of its own, every class of a run is alone with its file. -/
theorem FileEach.alone (each : FileEach fileSystem config catalog after)
    (success : Success fileSystem config catalog before result after) {name : String}
    (listed : name ∈ classNames config catalog) : Alone fileSystem config catalog after name := by
  intro beside listedBeside ne same
  obtain ⟨entry, found⟩ := success.exists_entry listed
  obtain ⟨entryBeside, foundBeside⟩ := success.exists_entry listedBeside
  obtain rfl := Catalog.name_of_select found
  obtain rfl := Catalog.name_of_select foundBeside
  have one := each.eq_of_sameFile (List.mem_of_find?_eq_some (Catalog.class?_of_select foundBeside))
    (List.mem_of_find?_eq_some (Catalog.class?_of_select found)) same
  exact ne (congrArg ClassEntry.name one)

/-- Where every class has a file of its own, a class is the same in every order of the catalog. -/
theorem FileEach.class?_eq (each : FileEach fileSystem config catalog after)
    (success : Success fileSystem config catalog before result after)
    (perm : otherCatalog.classes.Perm catalog.classes) {name : String}
    (listed : name ∈ classNames config catalog) : otherCatalog.class? name = catalog.class? name := by
  obtain ⟨entry, found⟩ := success.exists_entry listed
  have first := Catalog.class?_of_select found
  have inCatalog : entry ∈ catalog.classes := List.mem_of_find?_eq_some first
  obtain rfl := Catalog.name_of_select found
  have present : (otherCatalog.class? entry.name).isSome = true := by
    rw [Catalog.class?, List.find?_isSome]
    exact ⟨entry, perm.mem_iff.2 inCatalog, beq_self_eq_true _⟩
  obtain ⟨otherEntry, otherFirst⟩ := Option.isSome_iff_exists.1 present
  have otherIn : otherEntry ∈ catalog.classes := perm.mem_iff.1 (List.mem_of_find?_eq_some otherFirst)
  have named : otherEntry.name = entry.name := Catalog.name_of_class? otherFirst
  have same : otherEntry = entry := by
    apply each.eq_of_sameFile otherIn inCatalog
    rw [named]
    exact success.sameFile_self listed
  rw [otherFirst, first, same]

/-- Two runs with one endpoint that succeed leave the same text for a class that has one first entry and one
module in both, if no other class has its file in either. So the order of classes with a file each changes no
output, and neither do other classes: not when they are added, removed or changed. -/
theorem outputs_independent_of_other_classes
    (success : Success fileSystem config catalog before result after)
    (otherSuccess : Success otherSystem other otherCatalog otherBefore otherResult otherAfter)
    (endpoint : other.endpointUrl = config.endpointUrl) :
    (∀ name ∈ classNames config catalog, name ∈ classNames other otherCatalog →
      ∀ entry, FirstNamed name entry catalog.classes → FirstNamed name entry otherCatalog.classes →
        other.moduleFor name = config.moduleFor name →
        Alone fileSystem config catalog after name → Alone otherSystem other otherCatalog otherAfter name →
        ∃ text, fileSystem.Holds after (outputPath config name) text ∧
          otherSystem.Holds otherAfter (outputPath other name) text) ∧
    (other = config → otherCatalog.classes.Perm catalog.classes →
      FileEach fileSystem config catalog after → FileEach otherSystem other otherCatalog otherAfter →
        outputsOf (fun _ => true) otherSystem other otherCatalog otherResult otherAfter =
          outputsOf (fun _ => true) fileSystem config catalog result after) ∧
    (other = config → ∀ kept : String → Bool,
      ((otherCatalog.classes.filter fun entry => kept entry.name) =
        catalog.classes.filter fun entry => kept entry.name) →
      (∀ name ∈ classNames config catalog, kept name = true → Alone fileSystem config catalog after name) →
      (∀ name ∈ classNames other otherCatalog, kept name = true →
        Alone otherSystem other otherCatalog otherAfter name) →
        outputsOf kept otherSystem other otherCatalog otherResult otherAfter =
          outputsOf kept fileSystem config catalog result after) := by
  refine ⟨?_, ?_, ?_⟩
  · intro name listed otherListed entry first otherFirst module_ alone otherAlone
    have class_ := Catalog.class?_eq_some_iff.2 first
    obtain ⟨held, found⟩ := success.exists_entry listed
    obtain rfl : entry = held := Option.some.inj (class_.symm.trans (Catalog.class?_of_select found))
    have otherFound : otherCatalog.select name = .ok entry := by
      rw [select_eq_of_class? (class_.trans (Catalog.class?_eq_some_iff.2 otherFirst).symm).symm, found]
    have same : serviceText other name entry = serviceText config name entry := by
      rw [serviceText, serviceText, endpoint, module_]
    have otherHolds := otherSuccess.holds otherListed otherFound otherAlone
    rw [same] at otherHolds
    exact ⟨_, success.holds listed found alone, otherHolds⟩
  · rintro rfl perm each otherEach
    apply outputsOf_eq success otherSuccess
    · exact fun name listed _ => each.alone success listed
    · exact fun name listed _ => otherEach.alone otherSuccess listed
    · intro name _
      rw [classNames, classNames, Catalog.classNames, Catalog.classNames]
      split
      · exact (perm.map ClassEntry.name).mem_iff
      · rfl
    · exact fun name listed _ => select_eq_of_class? (each.class?_eq success perm listed)
  · rintro rfl kept same alone otherAlone
    apply outputsOf_eq success otherSuccess alone otherAlone
    · intro name keep
      rw [mem_classNames_iff, mem_classNames_iff, class?_eq_of_filter keep same]
    · exact fun name _ keep => select_eq_of_class? (class?_eq_of_filter keep same)

/-- In a file tree a class whose service has a name of its own is alone with its file. -/
theorem alone_of_serviceName {tree : FileTree} {name : String} (slash : '/' ∉ name.toList)
    (slashes : ∀ beside ∈ classNames config catalog, '/' ∉ beside.toList)
    (own : ∀ beside ∈ classNames config catalog, beside ≠ name → serviceName beside ≠ serviceName name) :
    Alone FileTree.fileSystem config catalog tree name := by
  intro beside listed ne same
  obtain ⟨place, leads, leadsOwn⟩ := same
  rw [FileTree.place?_fileSystem] at leads leadsOwn
  exact own beside listed ne (serviceName_eq_of_place? (slashes beside listed) slash leads leadsOwn)

/-- Two runs with a class in common, between other classes and with other directories and modules. -/
theorem outputs_independent_of_users_and_orders :
    let text := "\x7b\"classes\":[\x7b\"name\":\"Items\",\"doc\":\"one\"\x7d,\x7b\"name\":\"Users\"\x7d]\x7d"
    let otherText := "\x7b\"classes\":[\x7b\"name\":\"Orders\"\x7d,\x7b\"name\":\"Users\",\"doc\":\"two\"\x7d," ++
      "\x7b\"name\":\"Items\",\"doc\":\"one\"\x7d]\x7d"
    let tree : FileTree := ⟨[(["c.json"], .file (.text text))]⟩
    let otherTree : FileTree := ⟨[(["c.json"], .file (.text otherText))]⟩
    let config := Config.basic "c.json" "out" "/api"
    let other : Config := ⟨"c.json", "gen", "/api", "shop", [("Items", "app"), ("Users", "shop")]⟩
    let left := (run FileTree.disk config tree).2
    let otherLeft := (run FileTree.disk other otherTree).2
    let catalog : Catalog := ⟨[⟨"Items", some "one", []⟩, ⟨"Users", none, []⟩]⟩
    let otherCatalog : Catalog := ⟨[⟨"Orders", none, []⟩, ⟨"Users", some "two", []⟩, ⟨"Items", some "one", []⟩]⟩
    Success FileTree.fileSystem config catalog tree (run FileTree.disk config tree).1 left ∧
    Success FileTree.fileSystem other otherCatalog otherTree (run FileTree.disk other otherTree).1 otherLeft ∧
    ∃ service, left.readText "out/ItemsService.js" = .ok service ∧
      otherLeft.readText "gen/ItemsService.js" = .ok service := by
  intro text otherText tree otherTree config other left otherLeft catalog otherCatalog
  have read : (FileTree.fileSystem.readText "c.json" tree).1 = .ok text := by rfl
  have otherRead : (FileTree.fileSystem.readText "c.json" otherTree).1 = .ok otherText := by rfl
  have success : Success FileTree.fileSystem config catalog tree (run FileTree.disk config tree).1 left :=
    ⟨⟨text, read, Catalog.ofText_eq [("Items", some "one"), ("Users", none)] (by decide +kernel)⟩,
      run_fileSystem config tree, by decide +kernel⟩
  have otherSuccess : Success FileTree.fileSystem other otherCatalog otherTree
      (run FileTree.disk other otherTree).1 otherLeft :=
    ⟨⟨otherText, otherRead,
      Catalog.ofText_eq [("Orders", none), ("Users", some "two"), ("Items", some "one")] (by decide +kernel)⟩,
      run_fileSystem other otherTree, by decide +kernel⟩
  refine ⟨success, otherSuccess, ?_⟩
  have first : FirstNamed "Items" ⟨"Items", some "one", []⟩ catalog.classes :=
    ⟨[], [⟨"Users", none, []⟩], rfl, rfl, nofun⟩
  have otherFirst : FirstNamed "Items" ⟨"Items", some "one", []⟩ otherCatalog.classes :=
    ⟨[⟨"Orders", none, []⟩, ⟨"Users", some "two", []⟩], [], rfl, rfl, by simp⟩
  have alone : Alone FileTree.fileSystem config catalog left "Items" := by
    apply alone_of_serviceName
    · decide
    · decide
    · decide +kernel
  have otherAlone : Alone FileTree.fileSystem other otherCatalog otherLeft "Items" := by
    apply alone_of_serviceName
    · decide
    · decide
    · decide +kernel
  obtain ⟨service, held, otherHeld⟩ := (outputs_independent_of_other_classes success otherSuccess rfl).1 "Items"
    (by decide) (by decide) _ first otherFirst rfl alone otherAlone
  have path : outputPath config "Items" = "out/ItemsService.js" := by decide +kernel
  have otherPath : outputPath other "Items" = "gen/ItemsService.js" := by decide +kernel
  rw [path] at held
  rw [otherPath] at otherHeld
  exact ⟨service, FileTree.readText_of_holds held, FileTree.readText_of_holds otherHeld⟩

end ClientStub.Generation
