import ClientStub.Declaration
import ClientStub.DocComment
import ClientStub.Stub.Call
import ClientStub.Stub.Layout

/-!
# The documentation of a stub

The comment above the generated function, and the types that its declared output gives: a result type of
the declared properties and a promise of it. A method without declared output returns a plain promise.
-/

namespace ClientStub

/-- What the stub of a method needs from its documentation. `typecast` stands before the remote call;
it is empty and there are no output types where no output is declared. -/
structure MethodDoc where
  comment : String
  typecast : String
  outputTypes : Option String
  deriving DecidableEq, Repr

def payloadDescription : String := "Request body sent with the call."

def queryParamsDescription : String := "Query parameters encoded into the request URL."

/-- The return type of a method that declares no output. -/
def plainPromise : String := "Promise"

namespace Layout

variable (layout : Layout)

/-- A description behind a declaration. -/
def described (description : String) : String := if description = "" then "" else " " ++ description

/-- A type between braces, as comments write it. -/
def braced (type : String) : String := "\x7b" ++ type ++ "\x7d"

/-- The fields that tags of a name declare; those without a name are left out. -/
def fields (tags : TagMap) (name : String) : List Declaration :=
  ((tags.all name).map Declaration.ofField).filter fun field => field.name != ""

/-- A parameter's name as its line writes it: between brackets, with the default, if it is optional. -/
def parameterHead (parameter : RouteParameter) : String :=
  if parameter.required then parameter.name
  else match parameter.default with
    | some default => "[" ++ parameter.name ++ "=" ++ default ++ "]"
    | none => "[" ++ parameter.name ++ "]"

def parameterLine (parameter : RouteParameter) : String :=
  "@param " ++ braced (layout.types.translate (parameter.type.getD "")) ++ " " ++ parameterHead parameter
    ++ described parameter.description

/-- The request body as a parameter, if a tag asks for one. -/
def payloadParameter? (tags : TagMap) : Option RouteParameter :=
  (tags.first? "payload").map fun body =>
    ⟨payloadName, some (payloadType body), true, none, payloadDescription⟩

def payloadFieldLine (field : Declaration) : String :=
  "@param " ++ braced (layout.types.translate field.type) ++ " " ++ payloadName ++ "." ++ field.name
    ++ described field.description

def queryLine (query : QueryParameter) : String :=
  "@param " ++ braced (layout.types.translate query.type) ++ " [" ++ queryParamsName ++ "." ++ query.name
    ++ "]" ++ described query.description

def queryIntroduction : String :=
  "@param " ++ braced "Object" ++ " [" ++ queryParamsName ++ "] " ++ queryParamsDescription

/-- The description of a method and the empty line behind it. -/
def descriptionLines (tags : TagMap) : List String :=
  if tags.description = "" then [] else [tags.description, ""]

def parameterLines (method : MethodDescriptor) : List String :=
  ((payloadParameter? method.tags).toList ++ method.route).map layout.parameterLine

def payloadFieldLines (tags : TagMap) : List String :=
  match fields tags "payload-field" with
  | [] => []
  | declared => "" :: declared.map layout.payloadFieldLine

def queryLines (method : MethodDescriptor) : List String :=
  match method.query with
  | [] => []
  | declared => queryIntroduction :: declared.map layout.queryLine

/-- One property of the result type. -/
def propertyLine (field : Declaration) : String :=
  DocComment.line
    ("@property " ++ braced (layout.types.translate field.type) ++ " " ++ field.name
      ++ described field.description)

def resultName (typeName : String) : String := typeName ++ "Result"

def promiseName (typeName : String) : String := typeName ++ "Promise"

def outputTypesBindings (typeName : String) (declared : List Declaration) : Entries String :=
  .ofList
    [("RESULT", resultName typeName),
      ("PROPERTIES", Text.join "\n" (declared.map layout.propertyLine)),
      ("PROMISE", promiseName typeName)]

/-- The declarations of the result type and of its promise, if any output is declared. -/
def outputTypes? (tags : TagMap) (typeName : String) : Option String :=
  match fields tags "output" with
  | [] => none
  | declared =>
    some (Template.render layout.templates.outputTypes (layout.outputTypesBindings typeName declared))

/-- The type that a method returns. -/
def returnType (tags : TagMap) (typeName : String) : String :=
  if (fields tags "output").isEmpty then plainPromise else promiseName typeName

/-- The type assertion before the remote call. -/
def typecast (tags : TagMap) (typeName : String) : String :=
  if (fields tags "output").isEmpty then "" else "/** @type " ++ braced (promiseName typeName) ++ " */ "

/-- What the tag of the return value says behind the type. -/
def returnDescription (tags : TagMap) : String :=
  ((tags.first? "returns").map fun body => (Text.nextWord body).2).getD ""

def returnsLine (tags : TagMap) (typeName : String) : String :=
  "@returns " ++ braced (returnType tags typeName) ++ described (returnDescription tags)

/-- The logical lines of a method's comment. -/
def commentLines (method : MethodDescriptor) (typeName : String) : List String :=
  descriptionLines method.tags ++ layout.parameterLines method ++ layout.payloadFieldLines method.tags
    ++ layout.queryLines method ++ [returnsLine method.tags typeName]

/-- The documentation of a method; `typeName` is what the names of its output types begin with. -/
def methodDoc (method : MethodDescriptor) (typeName : String) : MethodDoc where
  comment := DocComment.block (layout.commentLines method typeName)
  typecast := typecast method.tags typeName
  outputTypes := layout.outputTypes? method.tags typeName

end Layout

end ClientStub
