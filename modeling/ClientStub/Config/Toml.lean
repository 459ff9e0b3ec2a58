import ClientStub.Config.Yaml
import ClientStub.Toml.Document
import ClientStub.Toml.Printer

/-!
# Configurations in TOML

The TOML form of a configuration, written and read: its fields, and a table of the classes.
-/

namespace ClientStub.Config

open ClientStub.Toml

/-- The TOML text of a configuration. -/
def toToml (config : Config) : String :=
  String.ofList
    (config.textFields.flatMap (fun (key, value) => assignmentText key value) ++ "\n[classes]\n".toList
      ++ config.classes.flatMap fun (name, module_) => assignmentText name module_)

/-- What a TOML value is called in a message. -/
def foundInToml : Value → Found
  | .string text => .text text
  | .integer value => .integer value
  | .real value => .number value.positional
  | .infinite negative => .number (if negative then "-inf" else "inf")
  | .notANumber => .number "NaN"
  | .bool value => .bool value
  | .datetime _ => .map
  | .array _ => .sequence
  | .table _ _ => .map
  | .tables _ => .sequence

def tomlText : Value → Except Mismatch String
  | .string text => .ok text
  | other => .error (.wrongType (foundInToml other) .text)

/-- The key under which a datetime holds its text when it is taken for a table. -/
def datetimeKey : String := "$__toml_private_datetime"

def tomlTexts : Value → Except Mismatch (ClientStub.Entries String)
  | .table _ entries => do
    let pairs ← entries.mapM fun (name, value) => do pure (name, ← tomlText value)
    pure (.ofList pairs)
  | .datetime text => .ok [(datetimeKey, text)]
  | other => .error (.wrongType (foundInToml other) .map)

def tomlField (held : ConfigFields) (name : String) (value : Value) :
    Except Mismatch ConfigFields := do
  match name with
  | "catalog_path" => pure { held with catalogPath := some (← tomlText value) }
  | "target_dir" => pure { held with targetDir := some (← tomlText value) }
  | "endpoint_url" => pure { held with endpointUrl := some (← tomlText value) }
  | "default_module" => pure { held with defaultModule := some (← tomlText value) }
  | "classes" => pure { held with classes := some (← tomlTexts value) }
  | _ => pure held

/-- The configuration that a TOML text holds. A text that is not TOML has no mismatch to tell. -/
def ofToml (text : String) : Except (Option Mismatch) Config :=
  match Toml.ofText? text with
  | none => .error none
  | some entries =>
    let fields := entries.foldlM (fun held (name, value) => tomlField held name value) ConfigFields.none
    (fields.bind ConfigFields.complete).mapError some

end ClientStub.Config
