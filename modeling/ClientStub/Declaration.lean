import ClientStub.Text.Word

/-!
# Declarations in tag bodies

The body of a tag may declare a parameter, `type name description`, or a field, `name:type description`.
Parts that are missing are empty.
-/

namespace ClientStub

structure Declaration where
  type : String
  name : String
  description : String
  deriving DecidableEq, Repr

namespace Declaration

open ClientStub.Text

/-- The declaration of a parameter: the body's first two words and what follows them. -/
def ofTag (body : String) : Declaration :=
  let (type, rest) := nextWord body
  let (name, description) := nextWord rest
  ⟨type, name, description⟩

/-- The declaration of a field: the body's first word, cut at its first colon, and what follows it. -/
def ofField (body : String) : Declaration :=
  let (head, description) := nextWord body
  let (name, type) := splitAtFirst ':' head.toList
  ⟨String.ofList type, String.ofList name, description⟩

/-- The name that a parameter is known by: without the dollar signs it begins with. -/
def parameterName (declaration : Declaration) : String :=
  String.ofList (declaration.name.toList.dropWhile (· = '$'))

end Declaration

/-- The client-side type that the body of a payload tag asks for. -/
def payloadType (body : String) : String :=
  match (Text.nextWord body).1 with
  | "" => "Object"
  | "array" => "Object"
  | "array[]" => "Object[]"
  | other => other

end ClientStub
