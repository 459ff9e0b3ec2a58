import ClientStub.Files.Fault
import ClientStub.Json.Reader
import ClientStub.Yaml.Shape

/-!
# Errors

Why a run fails: a file that cannot be read or written, a document that cannot be read, or a class or a
configuration that is of no use.
-/

namespace ClientStub

/-- A path of a configuration that must not be blank. -/
inductive RequiredPath where
  | catalog
  | target
  deriving DecidableEq, Repr

def RequiredPath.name : RequiredPath → String
  | catalog => "catalog_path"
  | target => "target_dir"

inductive Error where
  | file (fault : FileFault)
  | json (failure : Json.Failure)
  | yaml (failure : Yaml.Failure)
  /-- A TOML document that could not be read; without a mismatch, it is malformed. -/
  | toml (fault : Option Mismatch)
  | blankClassName
  | unknownClass (name : String)
  | blankPath (path : RequiredPath)
  deriving DecidableEq, Repr

namespace Error

/-- The kind of an error. -/
def kind : Error → String
  | file _ => "Io"
  | json _ => "Json"
  | yaml _ => "Yaml"
  | toml _ => "Toml"
  | blankClassName => "InvalidInput"
  | unknownClass _ => "Introspection"
  | blankPath _ => "Config"

/-- What an error says. Of a document that could not be read only the format is told. -/
def message : Error → String
  | file fault => "I/O error: " ++ fault.message
  | json _ => "JSON parsing error"
  | yaml _ => "YAML parsing error"
  | toml _ => "TOML parsing error"
  | blankClassName => "Invalid input: class name must not be empty"
  | unknownClass name => "Introspection error: Unknown class '" ++ name ++ "'"
  | blankPath path => "Configuration error: " ++ path.name ++ " must not be empty"

/-- What a document's fault is called where its format tells nothing more. -/
def malformedText : String := "the document is malformed"

/-- What stands behind an error. -/
def detail? : Error → Option String
  | file fault => some fault.message
  | json (.mismatch fault) => some fault.message
  | json _ => some malformedText
  | yaml (.mismatch fault) => some fault.message
  | yaml .malformed => some malformedText
  | toml fault => some ((fault.map Mismatch.message).getD malformedText)
  | _ => none

/-- What an error says in full: of a document also what is wrong with it. -/
def text (error : Error) : String :=
  match error, error.detail? with
  | file _, _ => error.message
  | _, some detail => error.message ++ ": " ++ detail
  | _, none => error.message

end Error

end ClientStub
