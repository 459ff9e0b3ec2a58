import ClientStub.Proofs.Files.Steady
import ClientStub.Proofs.Generation.Outputs

/-!
# Running twice

A run that succeeds is made of its catalog and its configuration alone. The files that it leaves hold the same
catalog, unless it wrote over it, and let every service be written again, so a second run does and tells the
same and leaves the files as they are.
-/

namespace ClientStub.Generation

variable {σ : Type} {config : Config} {catalog : Catalog} {done : List ClassEntry} {before made after : σ}
  {result : Run}

/-- What a run has done that wrote the services of classes and of no others. -/
def completed (config : Config) (done : List ClassEntry) : Run :=
  ⟨done.map fun entry => outputPath config entry.name,
    done.flatMap fun entry => entry.notices ++ [wrote config entry], none⟩

/-- Classes that are in the catalog and can be written are all written. -/
theorem writeClasses_of_writes {fileSystem : FileSystem σ}
    (selected : ∀ entry ∈ done, catalog.select entry.name = .ok entry)
    (writing : fileSystem.Writes (done.map (output config)) before after) :
    writeClasses fileSystem.toDisk config catalog (done.map ClassEntry.name) before =
      (completed config done, after) := by
  induction done generalizing before with
  | nil =>
    cases writing
    rfl
  | cons entry done ih =>
    rw [List.forall_mem_cons] at selected
    rw [List.map_cons, FileSystem.writes_cons_iff] at writing
    obtain ⟨next, written, rest⟩ := writing
    dsimp only [output] at written
    rw [List.map_cons, writeClasses_cons, selected.1]
    dsimp only
    rw [written]
    dsimp only
    rw [ih selected.2 rest]
    simp [completed, Run.after, Run.afterWriting, wrote]

/-- A run that reads a catalog, makes its directory and can write all services succeeds. -/
theorem run_of_writes {fileSystem : FileSystem σ} {text : String}
    (read : (fileSystem.readText config.catalogPath before).1 = .ok text)
    (parsed : Catalog.ofText text = .ok catalog)
    (making : fileSystem.createDirectories config.targetDir before = (.ok (), made))
    (names : classNames config catalog = done.map ClassEntry.name)
    (selected : ∀ entry ∈ done, catalog.select entry.name = .ok entry)
    (writing : fileSystem.Writes (done.map (output config)) made after) :
    run fileSystem.toDisk config before = (completed config done, after) := by
  rw [run_eq, fileSystem.readText_eq read]
  simp only [parsed]
  rw [making]
  dsimp only
  rw [names]
  exact writeClasses_of_writes selected writing

/-- After a run that succeeded without writing over its catalog, the same run succeeds again: it returns the
same paths, tells the same, and changes no file. -/
theorem run_again_changes_nothing (fileSystem : SteadyFileSystem σ)
    (ran : run fileSystem.toDisk config before = (result, after)) (succeeded : result.failure = none)
    (kept : ∀ path ∈ result.written,
      fileSystem.place? after path ≠ fileSystem.place? after config.catalogPath) :
    ∃ again, run fileSystem.toDisk config after = (result, again) ∧
      fileSystem.contents again = fileSystem.contents after := by
  obtain ⟨text, catalog, made, done, read, parsed, making, names, selected, writing, written⟩ :=
    run_completed ran succeeded
  obtain ⟨files, places⟩ := writing.contents
  have unmoved : fileSystem.contents made = fileSystem.contents before :=
    fileSystem.contents_of_createDirectories making
  have same : result = completed config done := by
    have whole := run_of_writes read parsed making names selected writing
    rw [ran] at whole
    exact congrArg Prod.fst whole
  -- The catalog was there before the directories, and no service went to its place.
  have readMade : (fileSystem.readText config.catalogPath made).1 = .ok text := by
    have stays : (fileSystem.readText config.catalogPath
        (fileSystem.createDirectories config.targetDir before).2).1 = .ok text :=
      fileSystem.readText_createDirectories read
    rwa [making] at stays
  have apart : ∀ write ∈ done.map (output config),
      fileSystem.place? made write.1 ≠ fileSystem.place? made config.catalogPath := by
    intro write listed
    obtain ⟨entry, inDone, rfl⟩ := List.mem_map.1 listed
    have apart := kept (outputPath config entry.name) (by rw [written]; exact List.mem_map_of_mem inDone)
    rw [places] at apart
    dsimp only [output]
    exact apart
  have readAfter : (fileSystem.readText config.catalogPath after).1 = .ok text :=
    SteadyFileSystem.readText_of_writes writing readMade apart
  -- The directory is there, and the files of the services can be written to as they could before.
  have makingAfter : fileSystem.createDirectories config.targetDir after = (.ok (), after) :=
    SteadyFileSystem.createDirectories_of_writes writing (fileSystem.createDirectories_again making)
  obtain ⟨again, writingAgain⟩ :=
    SteadyFileSystem.exists_writes after (SteadyFileSystem.takesText_of_mem_writes writing)
  refine ⟨again, ?_, ?_⟩
  · rw [same]
    exact run_of_writes readAfter parsed makingAfter names selected writingAgain
  · rw [writingAgain.contents.1, FileSystem.withTexts_eq places, files, FileSystem.withTexts_withTexts]

/-- Two classes with one file, which holds the service of the second after either run. -/
theorem run_again_with_shared_output :
    let text := "\x7b\"classes\":[\x7b\"name\":\"ItemsController\",\"doc\":\"one\"\x7d," ++
      "\x7b\"name\":\"Items\",\"doc\":\"two\"\x7d]\x7d"
    let tree : FileTree := ⟨[(["c.json"], .file (.text text))]⟩
    let config := Config.basic "c.json" "out" "/api"
    let path := "out/ItemsService.js"
    let result : Run := ⟨[path, path], [.written "ItemsController" 0 path, .written "Items" 0 path], none⟩
    let left := (run FileTree.disk config tree).2
    run FileTree.disk config tree = (result, left) ∧
    ∃ again, run FileTree.disk config left = (result, again) ∧ again.contents = left.contents := by
  intro text tree config path result left
  have outcome : (run FileTree.disk config tree).1 = result := by decide +kernel
  have ran : run FileTree.disk config tree = (result, left) := Prod.ext outcome rfl
  have apart : left.place? path ≠ left.place? "c.json" := by decide +kernel
  refine ⟨ran, run_again_changes_nothing FileTree.steady ran rfl ?_⟩
  intro written listed
  have one : written = path := by simpa [result] using listed
  rw [one]
  exact apart

end ClientStub.Generation
