import ClientStub.Config.File
import ClientStub.Proofs.Config.Toml
import ClientStub.Proofs.Config.Yaml
import ClientStub.Proofs.Files.FileSystem

/-!
# Saved configurations

A configuration that was saved is loaded again as it was, whatever texts it holds and whichever format its path
selects. A saved configuration with a blank path is no configuration to load.
-/

namespace ClientStub.Config

/-- The paths that must not be blank, in the order in which they are looked at. -/
def requiredPaths : List RequiredPath := [.catalog, .target]

def requiredPath (config : Config) : RequiredPath → String
  | .catalog => config.catalogPath
  | .target => config.targetDir

/-- The first path of a configuration that is blank. -/
def firstBlank? (config : Config) : Option RequiredPath :=
  requiredPaths.find? fun path => Text.isBlankText (config.requiredPath path).toList

theorem validated_eq (config : Config) : config.validated =
    match config.firstBlank? with
    | none => .ok config
    | some blank => .error (.blankPath blank) := by
  unfold validated firstBlank? requiredPaths
  cases catalog : Text.isBlankText config.catalogPath.toList <;>
    cases target : Text.isBlankText config.targetDir.toList <;> simp [List.find?, requiredPath, catalog, target]

/-- Both formats are read back, and writing and reading choose one of them by the same rule. -/
theorem ofTextFor_textFor {config : Config} (sorted : config.classes.IsSorted) (path : String) :
    ofTextFor path (config.textFor path) = config.validated := by
  unfold ofTextFor textFor
  cases isTomlPath path with
  | true =>
    simp only [if_true, ofToml_toToml sorted]
    rfl
  | false =>
    simp only [Bool.false_eq_true, if_false, ofYaml_toYaml sorted]
    rfl

variable {σ : Type} {fileSystem : FaithfulFileSystem σ} {path : String} {before after : σ} {config : Config}

theorem writeText_of_save (saved : config.save fileSystem.toDisk path before = (.ok (), after)) :
    fileSystem.writeText path (config.textFor path) before = (.ok (), after) := by
  unfold save at saved
  dsimp only [bind, StateT.bind] at saved
  cases written : fileSystem.writeText path (config.textFor path) before with
  | mk result next =>
    rw [written] at saved
    cases result with
    | error fault => cases saved
    | ok done =>
      cases saved
      rfl

/-- A saved configuration is loaded as it was, or refused by the name of the first of its paths that is blank. -/
theorem load_of_save (sorted : config.classes.IsSorted)
    (saved : config.save fileSystem.toDisk path before = (.ok (), after)) :
    match config.firstBlank? with
    | none => load fileSystem.toDisk path after = (.ok config, after)
    | some blank => ∃ error, load fileSystem.toDisk path after = (.error error, after) ∧ error.kind = "Config" ∧
        error.message = "Configuration error: " ++ blank.name ++ " must not be empty" := by
  have loaded : load fileSystem.toDisk path after = (config.validated, after) := by
    unfold load
    dsimp only [bind, StateT.bind]
    rw [fileSystem.readText_eq (fileSystem.readText_writeText (writeText_of_save saved))]
    dsimp only
    rw [ofTextFor_textFor sorted]
    rfl
  rw [validated_eq] at loaded
  cases first : config.firstBlank? with
  | none =>
    rw [first] at loaded
    exact loaded
  | some blank =>
    rw [first] at loaded
    exact ⟨.blankPath blank, loaded, rfl, rfl⟩

/-- Texts that look like something else in either format, and a map of classes with such names. -/
theorem load_of_save_of_awkward_texts :
    let config : Config := ⟨"- c.json", "out\n  dir ", "null", "", [("", "#"), ("a: b\n", "\"'\\")]⟩
    let refused : Config := { config with targetDir := " \n" }
    let left := (config.save FileTree.disk "stub.yaml" ⟨[]⟩).2
    let leftRefused := (refused.save FileTree.disk "stub.toml" ⟨[]⟩).2
    config.save FileTree.disk "stub.yaml" ⟨[]⟩ = (.ok (), left) ∧
    load FileTree.disk "stub.yaml" left = (.ok config, left) ∧
    refused.save FileTree.disk "stub.toml" ⟨[]⟩ = (.ok (), leftRefused) ∧
    ∃ error, load FileTree.disk "stub.toml" leftRefused = (.error error, leftRefused) ∧ error.kind = "Config" ∧
      error.message = "Configuration error: target_dir must not be empty" := by
  intro config refused left leftRefused
  have sorted : config.classes.IsSorted := by
    simp only [config, Entries.IsSorted]
    decide
  have saved : config.save FileTree.faithful.toDisk "stub.yaml" ⟨[]⟩ = (.ok (), left) := rfl
  have savedRefused : refused.save FileTree.faithful.toDisk "stub.toml" ⟨[]⟩ = (.ok (), leftRefused) := rfl
  have loaded := load_of_save sorted saved
  have loadedRefused := load_of_save (show refused.classes.IsSorted from sorted) savedRefused
  have whole : config.firstBlank? = none := by decide
  have blank : refused.firstBlank? = some .target := by decide
  rw [whole] at loaded
  rw [blank] at loadedRefused
  exact ⟨saved, loaded, savedRefused, loadedRefused⟩

end ClientStub.Config
