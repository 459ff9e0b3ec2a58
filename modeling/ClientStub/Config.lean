import ClientStub.Entries
import ClientStub.Error
import ClientStub.Files.Path
import ClientStub.Text.Blank

/-!
# Configurations

Where the catalog lies, where services are written, which endpoint they call, and which client modules they
register with.
-/

namespace ClientStub

structure Config where
  catalogPath : String
  targetDir : String
  endpointUrl : String
  /-- The module of every class that `classes` does not list. -/
  defaultModule : String
  /-- The classes that are wanted, with their modules; none stands for all classes of the catalog. -/
  classes : Entries String
  deriving DecidableEq, Repr

namespace Config

def builtinModule : String := "app"

/-- The configuration of a run without a configuration file. -/
def basic (catalogPath targetDir endpointUrl : String) : Config :=
  ⟨catalogPath, targetDir, endpointUrl, builtinModule, []⟩

/-- The module that the service of a class registers with. -/
def moduleFor (config : Config) (className : String) : String :=
  (config.classes.get? className).getD config.defaultModule

/-- A configuration whose paths are not blank. -/
def validated (config : Config) : Except Error Config :=
  if Text.isBlankText config.catalogPath.toList then .error (.blankPath .catalog)
  else if Text.isBlankText config.targetDir.toList then .error (.blankPath .target)
  else .ok config

/-- Whether the configuration at a path is TOML, which the path's extension tells. All others are YAML. -/
def isTomlPath (path : String) : Bool := Path.extension? path = some "toml"

end Config

/-- The fields of a configuration that have been read. -/
structure ConfigFields where
  catalogPath : Option String
  targetDir : Option String
  endpointUrl : Option String
  defaultModule : Option String
  classes : Option (Entries String)
  deriving DecidableEq, Repr

namespace ConfigFields

def none : ConfigFields := ⟨.none, .none, .none, .none, .none⟩

def complete (fields : ConfigFields) : Except Mismatch Config := do
  pure ⟨← requiredField "catalog_path" fields.catalogPath, ← requiredField "target_dir" fields.targetDir,
    ← requiredField "endpoint_url" fields.endpointUrl, fields.defaultModule.getD Config.builtinModule,
    fields.classes.getD []⟩

end ConfigFields

end ClientStub
