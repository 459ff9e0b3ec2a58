import ClientStub.Catalog.Json
import ClientStub.Catalog.Yaml
import ClientStub.Description
import ClientStub.Error

/-!
# Catalog texts and the classes in them

A catalog's text is JSON if its first character that is not white space is an opening brace, and YAML
otherwise.
-/

namespace ClientStub.Catalog

/-- Whether a catalog's text is JSON. -/
def isJsonText (text : String) : Bool := (Text.trimStart text.toList).head? = some '\x7b'

/-- The catalog that a text holds. -/
def ofText (text : String) : Except Error Catalog :=
  if isJsonText text then (ofJson text).mapError .json else (ofYaml text).mapError .yaml

/-- The class of a name, which must be in the catalog. -/
def lookup (catalog : Catalog) (name : String) : Except Error ClassEntry :=
  match catalog.class? name with
  | some entry => .ok entry
  | none => .error (.unknownClass name)

/-- The class that a client is wanted for; a blank name never names one. -/
def select (catalog : Catalog) (name : String) : Except Error ClassEntry :=
  if Text.isBlankText name.toList then .error .blankClassName else catalog.lookup name

end ClientStub.Catalog
