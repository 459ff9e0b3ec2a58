import ClientStub.Generation
import ClientStub.Proofs.Catalog
import ClientStub.Proofs.Files.FileSystem
import ClientStub.Proofs.Stub.ServiceLines
import ClientStub.Proofs.Text.ByteOrder

/-!
# What a run leaves behind

A run writes the services of its classes up to the first class that fails. Whatever the files were before,
they are changed by the writes of the classes before that one and by nothing else.
-/

namespace ClientStub

open ClientStub.Text

namespace Generation

/-- The path and the text of the service of a class. -/
def output (config : Config) (entry : ClassEntry) : String × String :=
  (outputPath config entry.name, serviceText config entry.name entry)

/-- The line of the log about the service of a class. -/
def wrote (config : Config) (entry : ClassEntry) : Notice :=
  .written entry.name entry.describe.methods.length (outputPath config entry.name)

variable {σ : Type}

/-- How a run ends that has come to `reached` with some names left: with none of them, at a blank name, at a name
of no class, or at an output that cannot be written. -/
inductive Ending (fileSystem : FileSystem σ) (catalog : Catalog) (output : ClassEntry → String × String)
    (reached : σ) : List String → Option Error → σ → Prop
  | complete : Ending fileSystem catalog output reached [] none reached
  | noName {name : String} {names : List String} (blank : isBlankText name.toList = true) :
      Ending fileSystem catalog output reached (name :: names) (some .blankClassName) reached
  | noClass {name : String} {names : List String} (written : isBlankText name.toList = false)
      (absent : ∀ entry ∈ catalog.classes, entry.name ≠ name) :
      Ending fileSystem catalog output reached (name :: names) (some (.unknownClass name)) reached
  | noFile {entry : ClassEntry} {names : List String} {fault : FileFault} {after : σ}
      (written : isBlankText entry.name.toList = false) (first : FirstNamed entry.name entry catalog.classes)
      (failed : fileSystem.writeText (output entry).1 (output entry).2 reached = (.error fault, after)) :
      Ending fileSystem catalog output reached (entry.name :: names) (some (.file fault)) after

theorem Ending.of_select {fileSystem : FileSystem σ} {catalog : Catalog} {output : ClassEntry → String × String}
    {reached : σ} {name : String} {error : Error} (refused : catalog.select name = .error error)
    (names : List String) : Ending fileSystem catalog output reached (name :: names) (some error) reached := by
  rcases Catalog.select_eq_error_iff.1 refused with ⟨blank, rfl⟩ | ⟨written, absent, rfl⟩
  · exact .noName blank
  · exact .noClass written absent

theorem Ending.contents {fileSystem : FileSystem σ} {catalog : Catalog} {output : ClassEntry → String × String}
    {reached after : σ} {rest : List String} {failure : Option Error}
    (ending : Ending fileSystem catalog output reached rest failure after) :
    fileSystem.contents after = fileSystem.contents reached := by
  cases ending with
  | complete => rfl
  | noName _ => rfl
  | noClass _ _ => rfl
  | noFile _ _ failed => exact fileSystem.contents_writeText_error failed

/-- What is done for one class, before all others. -/
theorem writeClasses_cons (disk : Disk (StateM σ)) (config : Config) (catalog : Catalog) (name : String)
    (names : List String) (before : σ) :
    writeClasses disk config catalog (name :: names) before =
      match catalog.select name with
      | .error error => (.failed error, before)
      | .ok entry =>
        match disk.writeText (outputPath config name) (serviceText config name entry) before with
        | (.error fault, after) => (.after entry.notices (.failed (.file fault)), after)
        | (.ok (), next) =>
          let (run, after) := writeClasses disk config catalog names next
          (.after (entry.notices ++ [.written name entry.describe.methods.length (outputPath config name)])
            (.afterWriting (outputPath config name) run), after) := by
  rw [writeClasses]
  cases catalog.select name with
  | error error => rfl
  | ok entry =>
    dsimp only [bind, StateT.bind]
    cases disk.writeText (outputPath config name) (serviceText config name entry) before with
    | mk result next =>
      cases result with
      | error fault => rfl
      | ok done => rfl

/-- What a run over classes has done at its end: the services of `done`, written up to the state `reached`. -/
structure Progress (fileSystem : FileSystem σ) (config : Config) (catalog : Catalog) (names : List String)
    (before after : σ) (run : Run) (done : List ClassEntry) (rest : List String) (reached : σ) : Prop where
  names_eq : names = done.map ClassEntry.name ++ rest
  entries : ∀ entry ∈ done, catalog.select entry.name = .ok entry
  writes : fileSystem.Writes (done.map (output config)) before reached
  ending : Ending fileSystem catalog (output config) reached rest run.failure after
  written : run.written = done.map fun entry => outputPath config entry.name
  told : run.notices.filter (·.level = "info") = done.map (wrote config)

section

variable {fileSystem : FileSystem σ} {config : Config} {catalog : Catalog} {names rest : List String}
  {before next after reached : σ} {run : Run} {done : List ClassEntry}

/-- A run that ends before its first class. -/
theorem Progress.ended {notices : List Notice} {failure : Option Error}
    (ending : Ending fileSystem catalog (output config) before names failure after)
    (quiet : notices.filter (·.level = "info") = []) :
    Progress fileSystem config catalog names before after ⟨[], notices, failure⟩ [] names before :=
  ⟨rfl, nofun, .done before, ending, rfl, quiet⟩

/-- A class that is found and written goes before what the run does then. -/
theorem Progress.step {entry : ClassEntry}
    (progress : Progress fileSystem config catalog names next after run done rest reached)
    (selected : catalog.select entry.name = .ok entry)
    (put : fileSystem.writeText (outputPath config entry.name) (serviceText config entry.name entry) before =
      (.ok (), next)) :
    Progress fileSystem config catalog (entry.name :: names) before after
      (.after (entry.notices ++ [wrote config entry]) (.afterWriting (outputPath config entry.name) run))
      (entry :: done) rest reached where
  names_eq := by rw [progress.names_eq, List.map_cons, List.cons_append]
  entries := List.forall_mem_cons.2 ⟨selected, progress.entries⟩
  writes := .step put progress.writes
  ending := progress.ending
  written := by
    rw [List.map_cons, ← progress.written]
    rfl
  told := by
    rw [Run.after, List.filter_append, List.filter_append, entry.filter_notices, Run.afterWriting, progress.told]
    rfl

theorem exists_progress (ran : writeClasses fileSystem.toDisk config catalog names before = (run, after)) :
    ∃ done rest reached,
      Progress fileSystem config catalog names before after run done rest reached := by
  -- Over the names, from any state: a class is written before the next one is looked at.
  induction names generalizing before run with
  | nil =>
    cases ran
    exact ⟨[], [], _, .ended .complete rfl⟩
  | cons name names ih =>
    rw [writeClasses_cons] at ran
    cases selected : catalog.select name with
    | error error =>
      rw [selected] at ran
      cases ran
      exact ⟨[], name :: names, _, .ended (.of_select selected names) rfl⟩
    | ok entry =>
      obtain rfl := Catalog.name_of_select selected
      rw [selected] at ran
      dsimp only at ran
      cases put : fileSystem.writeText (outputPath config entry.name)
        (serviceText config entry.name entry) before with
      | mk result next =>
        rw [put] at ran
        cases result with
        | error fault =>
          cases ran
          have quiet : (entry.notices ++ ([] : List Notice)).filter (·.level = "info") = [] := by
            rw [List.append_nil, entry.filter_notices]
          obtain ⟨written, first⟩ := Catalog.select_eq_ok_iff.1 selected
          have failed : fileSystem.writeText (output config entry).1 (output config entry).2 before =
              (.error fault, after) := by
            dsimp only [output]
            exact put
          exact ⟨[], entry.name :: names, before, .ended (.noFile written first failed) quiet⟩
        | ok =>
          dsimp only at ran
          cases others : writeClasses fileSystem.toDisk config catalog names next with
          | mk run after =>
            rw [others] at ran
            cases ran
            obtain ⟨done, rest, reached, progress⟩ := ih others
            exact ⟨entry :: done, rest, reached, progress.step selected put⟩

end

/-- What is done around the classes. -/
theorem run_eq (disk : Disk (StateM σ)) (config : Config) (before : σ) :
    run disk config before =
      match disk.readText config.catalogPath before with
      | (.error fault, next) => (.failed (.file fault), next)
      | (.ok text, next) =>
        match Catalog.ofText text with
        | .error error => (.after [.unreadCatalog config.catalogPath error.text] (.failed error), next)
        | .ok catalog =>
          match disk.createDirectories config.targetDir next with
          | (.error fault, made) => (.failed (.file fault), made)
          | (.ok (), made) => writeClasses disk config catalog (classNames config catalog) made := by
  dsimp only [run, readCatalog, bind, StateT.bind]
  cases disk.readText config.catalogPath before with
  | mk result next =>
    cases result with
    | error fault => rfl
    | ok text =>
      dsimp only
      cases Catalog.ofText text with
      | error error => rfl
      | ok catalog =>
        dsimp only [Except.mapError, pure, StateT.pure, StateT.bind]
        cases disk.createDirectories config.targetDir next with
        | mk result made =>
          cases result with
          | error fault => rfl
          | ok => rfl

/-- A run leaves the services of the classes before the first that fails. Without a catalog nothing changes, and a
text that is no catalog is told of; without a directory no file changes. Otherwise the classes are taken in the
order of the catalog, or in the order of the configured names' bytes. Those in `done` were found, each as the first
of its name, and their services were written one after the other; the run ended at the first name of `rest`, or with
none left. The files are those from before with the services of `done` in the places that their paths lead to. The
paths and the log tell of the same classes in the same order. -/
theorem run_writes_until_failure (fileSystem : FileSystem σ) (config : Config) (before : σ) :
    let path (entry : ClassEntry) : String := Path.below config.targetDir (serviceName entry.name ++ ".js")
    let service (entry : ClassEntry) : String :=
      Layout.builtin.service entry.name config.endpointUrl entry.describe (config.moduleFor entry.name)
    let output (entry : ClassEntry) : String × String := (path entry, service entry)
    (config.classes.IsSorted → config.classes.names.Pairwise fun a b => Text.octets a < Text.octets b) ∧
    (∀ fault, (fileSystem.readText config.catalogPath before).1 = .error fault →
      run fileSystem.toDisk config before = (⟨[], [], some (.file fault)⟩, before)) ∧
    ∀ text, (fileSystem.readText config.catalogPath before).1 = .ok text →
      (∀ error, Catalog.ofText text = .error error →
        run fileSystem.toDisk config before =
          (⟨[], [.unreadCatalog config.catalogPath error.text], some error⟩, before)) ∧
      ∀ catalog, Catalog.ofText text = .ok catalog →
        (∀ fault made, fileSystem.createDirectories config.targetDir before = (.error fault, made) →
          run fileSystem.toDisk config before = (⟨[], [], some (.file fault)⟩, made) ∧
          fileSystem.contents made = fileSystem.contents before) ∧
        ∀ made, fileSystem.createDirectories config.targetDir before = (.ok (), made) →
          ∃ (result : Run) (reached after : σ) (done : List ClassEntry) (rest : List String),
            run fileSystem.toDisk config before = (result, after) ∧
            (if config.classes = [] then catalog.classes.map ClassEntry.name else config.classes.names) =
              done.map ClassEntry.name ++ rest ∧
            (∀ entry ∈ done,
              isBlankText entry.name.toList = false ∧ FirstNamed entry.name entry catalog.classes) ∧
            fileSystem.Writes (done.map output) made reached ∧
            Ending fileSystem catalog output reached rest result.failure after ∧
            fileSystem.contents after =
              fileSystem.withTexts made (done.map output) (fileSystem.contents before) ∧
            result.written = done.map path ∧
            result.notices.filter (·.level = "info") =
              done.map fun entry => .written entry.name entry.describe.methods.length (path entry) := by
  intro path service output
  have ran := run_eq fileSystem.toDisk config before
  refine ⟨Text.pairwise_octets_names, fun fault unread => ?_, fun text read => ⟨fun error failed => ?_, ?_⟩⟩
  · rw [fileSystem.readText_eq unread] at ran
    exact ran
  · rw [fileSystem.readText_eq read] at ran
    simp only [failed] at ran
    exact ran
  intro catalog parsed
  rw [fileSystem.readText_eq read] at ran
  simp only [parsed] at ran
  refine ⟨fun fault made unmade => ?_, fun made there => ?_⟩
  · rw [unmade] at ran
    exact ⟨ran, fileSystem.contents_of_createDirectories unmade⟩
  · rw [there] at ran
    cases others : writeClasses fileSystem.toDisk config catalog (classNames config catalog) made with
    | mk result after =>
      obtain ⟨done, rest, reached, progress⟩ := exists_progress others
      have files : fileSystem.contents after =
          fileSystem.withTexts made (done.map output) (fileSystem.contents before) := by
        rw [progress.ending.contents, progress.writes.contents.1, fileSystem.contents_of_createDirectories there]
        rfl
      have names : (if config.classes = [] then catalog.classes.map ClassEntry.name else config.classes.names) =
          done.map ClassEntry.name ++ rest := by
        rw [← progress.names_eq, classNames]
        simp only [List.isEmpty_iff]
        rfl
      have found : ∀ entry ∈ done,
          isBlankText entry.name.toList = false ∧ FirstNamed entry.name entry catalog.classes :=
        fun entry listed => Catalog.select_eq_ok_iff.1 (progress.entries entry listed)
      exact ⟨result, reached, after, done, rest, ran.trans others, names, found, progress.writes, progress.ending,
        files, progress.written, progress.told⟩

/-- A run that fails at its second class leaves the service of the first. -/
theorem run_writes_until_failure_of_unknown_class :
    let text := "\x7b\"classes\":[\x7b\"name\":\"Items\",\"methods\":[]\x7d]\x7d"
    let tree : FileTree := ⟨[(["c.json"], .file (.text text))]⟩
    let made : FileTree := ⟨[(["c.json"], .file (.text text)), (["out"], .directory)]⟩
    let config : Config := ⟨"c.json", "out", "/api", "app", [("Items", "app"), ("Zoo", "app")]⟩
    let script := ["/*", " * THIS FILE IS GENERATED AUTOMATICALLY. DO NOT EDIT IT BY HAND.", " * Source class: Items",
      " */", "", "/**", " * Client for the remote API exposed by this class.", " *",
      " * @param \x7bApiClient\x7d apiClient", " * @constructor", " */", "function ItemsServiceImpl(apiClient) \x7b",
      "    var service = this;", "", "\x7d", "",
      "angular.module('app').service('ItemsService', ['apiClient', ItemsServiceImpl]);"]
    let service := String.ofList (endLines (script.map String.toList))
    tree.readText "c.json" = .ok text ∧ tree.createDirectories "out" = (.ok (), made) ∧
    ∃ after : FileTree,
      run FileTree.disk config tree =
        (⟨["out/ItemsService.js"], [.written "Items" 0 "out/ItemsService.js"], some (.unknownClass "Zoo")⟩, after) ∧
      after.contents =
        FileTree.fileSystem.withTexts made [("out/ItemsService.js", service)] tree.contents := by
  intro text tree made config script service
  have read : tree.readText "c.json" = .ok text := by rfl
  have there : tree.createDirectories "out" = (.ok (), made) := by rfl
  have created : FileTree.fileSystem.createDirectories "out" tree = (.ok (), made) := there
  have outcome : (run FileTree.disk config tree).1 =
      ⟨["out/ItemsService.js"], [.written "Items" 0 "out/ItemsService.js"], some (.unknownClass "Zoo")⟩ := by
    decide +kernel
  have parsed : Catalog.ofText text = .ok ⟨[⟨"Items", none, []⟩]⟩ :=
    Catalog.ofText_eq [("Items", none)] (by decide +kernel)
  obtain ⟨result, reached, after, done, rest, ran, names, found, -, -, files, paths, -⟩ :=
    ((run_writes_until_failure FileTree.fileSystem config tree).2.2 text read).2 _ parsed |>.2 made created
  have same : result = (run FileTree.disk config tree).1 := congrArg Prod.fst ran.symm
  have one : done.length = 1 := by
    rw [same, outcome] at paths
    simpa using (congrArg List.length paths).symm
  obtain ⟨entry, rfl⟩ := List.length_eq_one_iff.1 one
  obtain rfl : entry = ⟨"Items", none, []⟩ := by
    obtain ⟨front, behind, split, -⟩ := (found entry List.mem_cons_self).2
    have listed : entry ∈ front ++ entry :: behind := by simp
    rw [← split] at listed
    exact List.mem_singleton.1 listed
  have whole : Layout.builtin.service "Items" config.endpointUrl (ClassEntry.describe ⟨"Items", none, []⟩)
      (config.moduleFor "Items") = service := by
    have described : ClassEntry.describe ⟨"Items", none, []⟩ = ⟨defaultClassDescription, []⟩ := rfl
    have registered : config.moduleFor "Items" = "app" := rfl
    rw [described, registered, ← String.toList_inj, String.toList_ofList]
    refine (Layout.toList_service_of_no_methods (by decide) (by decide) (by decide)).trans ?_
    exact congrArg endLines rfl
  have path : Path.below config.targetDir (serviceName "Items" ++ ".js") = "out/ItemsService.js" := by decide +kernel
  refine ⟨read, there, after, ?_, ?_⟩
  · rw [← outcome, ← same]
    exact ran
  · refine files.trans ?_
    rw [List.map_singleton]
    dsimp only
    rw [path, whole]
    rfl

end Generation

end ClientStub
