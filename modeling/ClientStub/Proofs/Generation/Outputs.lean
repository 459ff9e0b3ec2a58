import ClientStub.Proofs.Files.Below
import ClientStub.Proofs.Generation.Prefix
import ClientStub.Proofs.Stub.ServiceHead

/-!
# Services and the files they are in

After a run that wrote the services of all its classes, a file holds the service that was written to it last.
Every class has its service in its file exactly when classes whose paths lead to one place have one text. For
names without slashes these are the classes with one service name.
-/

namespace ClientStub.Generation

/-- The classes that a run writes services of: all of the catalog, or the configured ones. -/
def selected (config : Config) (catalog : Catalog) : List ClassEntry :=
  if config.classes = [] then catalog.classes else config.classes.names.filterMap catalog.class?

theorem name_mem_classNames {config : Config} {catalog : Catalog} {entry : ClassEntry}
    (listed : entry ∈ selected config catalog) : entry.name ∈ classNames config catalog := by
  unfold selected at listed
  unfold classNames
  simp only [List.isEmpty_iff]
  split at listed
  · rename_i empty
    rw [if_pos empty]
    exact List.mem_map_of_mem listed
  · rename_i filled
    rw [if_neg filled]
    obtain ⟨name, configured, found⟩ := List.mem_filterMap.1 listed
    rwa [Catalog.name_of_class? found]

theorem mem_selected {config : Config} {catalog : Catalog} {entry : ClassEntry}
    (named : entry.name ∈ classNames config catalog) (found : catalog.select entry.name = .ok entry) :
    entry ∈ selected config catalog := by
  have first := Catalog.class?_of_select found
  unfold classNames at named
  unfold selected
  simp only [List.isEmpty_iff] at named
  split
  · exact List.mem_of_find?_eq_some first
  · rename_i filled
    rw [if_neg filled] at named
    exact List.mem_filterMap.2 ⟨entry.name, named, first⟩

variable {σ : Type} {fileSystem : FileSystem σ} {config : Config} {before after : σ} {result : Run}

/-- A run that succeeded has read its catalog, made its directory, found every class of its names, and written
one after the other. -/
theorem run_completed (ran : run fileSystem.toDisk config before = (result, after))
    (succeeded : result.failure = none) :
    ∃ (text : String) (catalog : Catalog) (made : σ) (done : List ClassEntry),
      (fileSystem.readText config.catalogPath before).1 = .ok text ∧ Catalog.ofText text = .ok catalog ∧
      fileSystem.createDirectories config.targetDir before = (.ok (), made) ∧
      classNames config catalog = done.map ClassEntry.name ∧
      (∀ entry ∈ done, catalog.select entry.name = .ok entry) ∧
      fileSystem.Writes (done.map (output config)) made after ∧
      result.written = done.map fun entry => outputPath config entry.name := by
  rw [run_eq] at ran
  cases reading : (fileSystem.readText config.catalogPath before).1 with
  | error fault =>
    rw [fileSystem.readText_eq reading] at ran
    cases ran
    cases succeeded
  | ok text =>
    rw [fileSystem.readText_eq reading] at ran
    cases parsed : Catalog.ofText text with
    | error error =>
      simp only [parsed] at ran
      cases ran
      cases succeeded
    | ok catalog =>
      simp only [parsed] at ran
      cases making : fileSystem.createDirectories config.targetDir before with
      | mk created made =>
        rw [making] at ran
        cases created with
        | error fault =>
          cases ran
          cases succeeded
        | ok =>
          obtain ⟨done, rest, reached, progress⟩ := exists_progress ran
          have ending := progress.ending
          rw [succeeded] at ending
          cases ending with
          | complete =>
            have names := progress.names_eq
            rw [List.append_nil] at names
            exact ⟨text, catalog, made, done, rfl, parsed, rfl, names, progress.entries, progress.writes,
              progress.written⟩

/-- The file of a class holds the service of the class that was written to it last. -/
theorem exists_last_written {text : String} {catalog : Catalog} {name : String}
    (read : (fileSystem.readText config.catalogPath before).1 = .ok text)
    (parsed : Catalog.ofText text = .ok catalog)
    (ran : run fileSystem.toDisk config before = (result, after)) (succeeded : result.failure = none)
    (listed : name ∈ classNames config catalog) :
    ∃ last place, last.name ∈ classNames config catalog ∧ catalog.select last.name = .ok last ∧
      fileSystem.place? after (outputPath config name) = some place ∧
      fileSystem.place? after (outputPath config last.name) = some place ∧
      fileSystem.contents after place = some (.text (serviceText config last.name last)) := by
  obtain ⟨_, _, made, done, readAs, parsedAs, -, names, entries, writes, -⟩ := run_completed ran succeeded
  obtain rfl := Except.ok.inj (read.symm.trans readAs)
  obtain rfl := Except.ok.inj (parsed.symm.trans parsedAs)
  obtain ⟨files, places⟩ := writes.contents
  rw [names] at listed
  obtain ⟨first, inDone, rfl⟩ := List.mem_map.1 listed
  obtain ⟨place, leads⟩ := writes.exists_place _ (List.mem_map_of_mem inDone)
  obtain ⟨write, inWrites, same, held⟩ := FileSystem.exists_write_of_mem
    ⟨_, List.mem_map_of_mem inDone, leads⟩ (fileSystem.contents made)
  obtain ⟨last, lastDone, rfl⟩ := List.mem_map.1 inWrites
  dsimp only [output] at leads same held
  refine ⟨last, place, ?_, entries last lastDone, ?_, ?_, ?_⟩
  · rw [names]
    exact List.mem_map_of_mem lastDone
  · rw [places]
    exact leads
  · rw [places]
    exact same
  · rw [files]
    exact held

/-- Where selected classes with one file have one service, every class has its service in its file. -/
theorem holds_of_agree {text : String} {catalog : Catalog}
    (read : (fileSystem.readText config.catalogPath before).1 = .ok text)
    (parsed : Catalog.ofText text = .ok catalog)
    (ran : run fileSystem.toDisk config before = (result, after)) (succeeded : result.failure = none)
    (agree : ∀ entry ∈ selected config catalog, ∀ other ∈ selected config catalog, ∀ place,
      fileSystem.place? after (outputPath config entry.name) = some place →
      fileSystem.place? after (outputPath config other.name) = some place →
      serviceText config entry.name entry = serviceText config other.name other) :
    ∀ entry ∈ selected config catalog,
      fileSystem.Holds after (outputPath config entry.name) (serviceText config entry.name entry) := by
  intro entry listed
  obtain ⟨last, place, named, found, leads, same, held⟩ :=
    exists_last_written read parsed ran succeeded (name_mem_classNames listed)
  have beside : last ∈ selected config catalog := mem_selected named found
  refine ⟨place, leads, ?_⟩
  rw [agree entry listed last beside place leads same]
  exact held

theorem not_mem_outputFileName {name : String} (absent : '/' ∉ name.toList) :
    '/' ∉ (outputFileName name).toList := by
  rw [outputFileName, String.toList_append, List.mem_append, not_or]
  exact ⟨not_mem_serviceName (by decide) absent, by decide⟩

/-- Classes with names without slashes have one file only when they have one service name. -/
theorem serviceName_eq_of_place? {tree : FileTree} {a b : String} {place : Place}
    (absentA : '/' ∉ a.toList) (absentB : '/' ∉ b.toList)
    (leadsA : tree.place? (outputPath config a) = some place)
    (leadsB : tree.place? (outputPath config b) = some place) : serviceName a = serviceName b := by
  have named (name : String) (absent : '/' ∉ name.toList)
      (leads : tree.place? (outputPath config name) = some place) :
      place.getLast? = some (outputFileName name) := by
    rw [FileTree.getLast?_of_place? leads, outputPath,
      Path.getLast?_steps_below _ (by simp [outputFileName]) (not_mem_outputFileName absent)]
  have same : outputFileName a = outputFileName b :=
    Option.some.inj ((named a absentA leadsA).symm.trans (named b absentB leadsB))
  rw [outputFileName, outputFileName, ← String.toList_inj, String.toList_append, String.toList_append] at same
  exact String.toList_inj.1 (List.append_cancel_right same)

/-- After a run that succeeded, every selected class has its service in the file of its path exactly when no
two of them with different services have the same file. -/
theorem selected_have_outputs_iff {text : String} {catalog : Catalog}
    (read : (fileSystem.readText config.catalogPath before).1 = .ok text)
    (parsed : Catalog.ofText text = .ok catalog)
    (ran : run fileSystem.toDisk config before = (result, after)) (succeeded : result.failure = none) :
    let path (entry : ClassEntry) : String := Path.below config.targetDir (serviceName entry.name ++ ".js")
    let service (entry : ClassEntry) : String :=
      Layout.builtin.service entry.name config.endpointUrl entry.describe (config.moduleFor entry.name)
    (∀ entry ∈ selected config catalog, fileSystem.Holds after (path entry) (service entry)) ↔
    ∀ entry ∈ selected config catalog, ∀ other ∈ selected config catalog, ∀ place,
      fileSystem.place? after (path entry) = some place → fileSystem.place? after (path other) = some place →
      service entry = service other := by
  intro path service
  refine ⟨fun outputs entry listed other beside place leads leadsOther => ?_,
    holds_of_agree read parsed ran succeeded⟩
  obtain ⟨one, leadsOne, held⟩ := outputs entry listed
  obtain ⟨two, leadsTwo, heldTwo⟩ := outputs other beside
  obtain rfl : one = place := Option.some.inj (leadsOne.symm.trans leads)
  obtain rfl : two = one := Option.some.inj (leadsTwo.symm.trans leadsOther)
  rw [held] at heldTwo
  exact Content.text.inj (Option.some.inj heldTwo)

/-- The system of a file tree runs as the tree's disk does. -/
theorem run_fileSystem (config : Config) (tree : FileTree) :
    run FileTree.fileSystem.toDisk config tree =
      ((run FileTree.disk config tree).1, (run FileTree.disk config tree).2) := by
  have disk : FileTree.fileSystem.toDisk = FileTree.disk := rfl
  rw [disk]
  exact (Prod.eta _).symm

/-- Two classes with services of different names. -/
theorem selected_have_outputs_of_items_and_users :
    let text := "\x7b\"classes\":[\x7b\"name\":\"ItemsController\",\"methods\":[]\x7d," ++
      "\x7b\"name\":\"Users\",\"methods\":[]\x7d]\x7d"
    let tree : FileTree := ⟨[(["c.json"], .file (.text text))]⟩
    let config := Config.basic "c.json" "out" "/api"
    let left := (run FileTree.disk config tree).2
    let catalog : Catalog := ⟨[⟨"ItemsController", none, []⟩, ⟨"Users", none, []⟩]⟩
    Catalog.ofText text = .ok catalog ∧ (run FileTree.disk config tree).1.failure = none ∧
    ∀ entry ∈ selected config catalog,
      FileTree.fileSystem.Holds left (Path.below config.targetDir (serviceName entry.name ++ ".js"))
        (Layout.builtin.service entry.name config.endpointUrl entry.describe (config.moduleFor entry.name)) := by
  intro text tree config left catalog
  have read : (FileTree.fileSystem.readText "c.json" tree).1 = .ok text := by rfl
  have parsed : Catalog.ofText text = .ok catalog :=
    Catalog.ofText_eq [("ItemsController", none), ("Users", none)] (by decide +kernel)
  have succeeded : (run FileTree.disk config tree).1.failure = none := by decide +kernel
  have ran := run_fileSystem config tree
  have clear : ∀ entry ∈ catalog.classes, '/' ∉ entry.name.toList := by decide
  have differ : serviceName "ItemsController" ≠ serviceName "Users" := by decide +kernel
  refine ⟨parsed, succeeded, (selected_have_outputs_iff read parsed ran succeeded).2 ?_⟩
  intro entry listed other beside place leads leadsOther
  rw [FileTree.place?_fileSystem] at leads leadsOther
  have named := serviceName_eq_of_place? (clear entry listed) (clear other beside) leads leadsOther
  have both : ∀ entry ∈ catalog.classes, entry = ⟨"ItemsController", none, []⟩ ∨ entry = ⟨"Users", none, []⟩ := by
    simp [catalog]
  rcases both entry listed with rfl | rfl
  · rcases both other beside with rfl | rfl
    · rfl
    · exact absurd named differ
  · rcases both other beside with rfl | rfl
    · exact absurd named.symm differ
    · rfl

/-- A run that succeeds and tells of two classes, but has written one file for both. -/
theorem two_classes_share_an_output :
    let text := "\x7b\"classes\":[\x7b\"name\":\"ItemsController\",\"doc\":\"one\",\"methods\":[]\x7d," ++
      "\x7b\"name\":\"Items\",\"doc\":\"two\",\"methods\":[]\x7d]\x7d"
    let tree : FileTree := ⟨[(["c.json"], .file (.text text))]⟩
    let config := Config.basic "c.json" "out" "/api"
    let path := "out/ItemsService.js"
    let one : ClassEntry := ⟨"ItemsController", some "one", []⟩
    let two : ClassEntry := ⟨"Items", some "two", []⟩
    Catalog.ofText text = .ok ⟨[one, two]⟩ ∧
    (run FileTree.disk config tree).1 =
      ⟨[path, path], [.written "ItemsController" 0 path, .written "Items" 0 path], none⟩ ∧
    ¬ ∀ entry ∈ selected config ⟨[one, two]⟩,
      (run FileTree.disk config tree).2.readText (Path.below config.targetDir (serviceName entry.name ++ ".js")) =
        .ok (Layout.builtin.service entry.name config.endpointUrl entry.describe (config.moduleFor entry.name)) := by
  intro text tree config path one two
  have parsed : Catalog.ofText text = .ok ⟨[one, two]⟩ :=
    Catalog.ofText_eq [("ItemsController", some "one"), ("Items", some "two")] (by decide +kernel)
  have outcome : (run FileTree.disk config tree).1 =
      ⟨[path, path], [.written "ItemsController" 0 path, .written "Items" 0 path], none⟩ := by decide +kernel
  refine ⟨parsed, outcome, fun outputs => ?_⟩
  have first := outputs one List.mem_cons_self
  have second := outputs two (List.mem_cons_of_mem _ List.mem_cons_self)
  have shared : Path.below config.targetDir (serviceName one.name ++ ".js") =
      Path.below config.targetDir (serviceName two.name ++ ".js") := by decide +kernel
  rw [shared, second] at first
  exact absurd (Layout.className_eq_of_service_eq (by decide) (by decide) (Except.ok.inj first)) (by decide)

/-- After a run that succeeded, where names have no slashes and no line feeds: every selected class has its own
service exactly when classes of one service name have one name and one service. -/
theorem readText_outputs_iff {tree left : FileTree} {text : String} {catalog : Catalog}
    (read : tree.readText config.catalogPath = .ok text) (parsed : Catalog.ofText text = .ok catalog)
    (ran : run FileTree.disk config tree = (result, left)) (succeeded : result.failure = none)
    (slashes : ∀ entry ∈ selected config catalog, '/' ∉ entry.name.toList)
    (feeds : ∀ entry ∈ selected config catalog, '\n' ∉ entry.name.toList) :
    (∀ entry ∈ selected config catalog,
      left.readText (outputPath config entry.name) = .ok (serviceText config entry.name entry)) ↔
    ∀ entry ∈ selected config catalog, ∀ other ∈ selected config catalog,
      serviceName entry.name = serviceName other.name →
      entry.name = other.name ∧ serviceText config entry.name entry = serviceText config other.name other := by
  constructor
  · intro outputs entry listed other beside named
    have shared : outputPath config entry.name = outputPath config other.name := by
      rw [outputPath, outputFileName, named, ← outputFileName, ← outputPath]
    have read := outputs entry listed
    rw [shared, outputs other beside] at read
    have same : serviceText config other.name other = serviceText config entry.name entry := Except.ok.inj read
    exact ⟨(Layout.className_eq_of_service_eq (feeds other beside) (feeds entry listed) same).symm, same.symm⟩
  · intro agree
    have opened : (FileTree.fileSystem.readText config.catalogPath tree).1 = .ok text := read
    have wrote : run FileTree.fileSystem.toDisk config tree = (result, left) := ran
    have apart : ∀ entry ∈ selected config catalog, ∀ other ∈ selected config catalog, ∀ place,
        FileTree.fileSystem.place? left (outputPath config entry.name) = some place →
        FileTree.fileSystem.place? left (outputPath config other.name) = some place →
        serviceText config entry.name entry = serviceText config other.name other := by
      intro entry listed other beside place leads leadsOther
      rw [FileTree.place?_fileSystem] at leads leadsOther
      have named := serviceName_eq_of_place? (slashes entry listed) (slashes other beside) leads leadsOther
      exact (agree entry listed other beside named).2
    have holds := holds_of_agree opened parsed wrote succeeded apart
    exact fun entry listed => FileTree.readText_of_holds (holds entry listed)

end ClientStub.Generation
