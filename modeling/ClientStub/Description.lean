import ClientStub.Catalog
import ClientStub.Declaration
import ClientStub.Descriptor
import ClientStub.DocBlock
import ClientStub.Notice
import ClientStub.Text.Quoted

/-!
# From catalog to descriptor

The facts of a catalog are merged with the tags of its documentation blocks. A method is exposed to
clients when it is not static and its block has the tag `api`.
-/

namespace ClientStub

/-- The client-side literal of a default. A collection is written as an empty one whatever it holds. -/
def Json.defaultLiteral : Json → String
  | .null => "null"
  | .bool value => toString value
  | .number value => value.literal
  | .string value => Text.quote value
  | .array _ => "[]"
  | .object _ => "[]"

/-- The declaration of a parameter: the last tag that names it. -/
def TagMap.declaration? (tags : TagMap) (name : String) : Option Declaration :=
  ((tags.all "param").map Declaration.ofTag).reverse.find? fun d => d.parameterName == name

/-- A declared type, unless it is empty. -/
def Declaration.type? (declaration : Declaration) : Option String :=
  if declaration.type = "" then none else some declaration.type

def Parameter.describe (parameter : Parameter) (tags : TagMap) : RouteParameter where
  name := parameter.name
  type := (tags.declaration? parameter.name).bind Declaration.type?
  required := parameter.default.isNone
  default := parameter.default.map Json.defaultLiteral
  description := ((tags.declaration? parameter.name).map Declaration.description).getD ""

/-- The query parameters that tags declare, in the order of the tags. -/
def TagMap.queryParameters (tags : TagMap) : List QueryParameter :=
  (tags.all "query").map fun body =>
    let declaration := Declaration.ofTag body
    ⟨declaration.name, declaration.type, declaration.description⟩

/-- The name that clients call a method by: its alias, unless that is empty, or its own name. -/
def Method.clientName (method : Method) (tags : TagMap) : String :=
  match tags.first? "alias" with
  | some "" => method.name
  | some name => name
  | none => method.name

/-- The descriptor of a method whose block has the given tags. -/
def Method.describeWith (method : Method) (tags : TagMap) : MethodDescriptor where
  serverName := method.name
  clientName := method.clientName tags
  verb := Verb.infer method.name
  route := method.parameters.map fun parameter => parameter.describe tags
  query := tags.queryParameters
  tags := tags

def Method.describe (method : Method) : MethodDescriptor := method.describeWith (DocBlock.tags method.doc)

def Method.isMarked (method : Method) : Bool := (DocBlock.tag? "api" method.doc).isSome

def Method.isExposed (method : Method) : Bool := !method.isStatic && method.isMarked

/-- The description of a class whose block has none. -/
def defaultClassDescription : String := "Client for the remote API exposed by this class."

def ClassEntry.description (entry : ClassEntry) : String :=
  match (DocBlock.tags entry.doc).description with
  | "" => defaultClassDescription
  | text => text

/-- The descriptor of a class: its exposed methods in the order of the catalog. -/
def ClassEntry.describe (entry : ClassEntry) : ClassDescriptor :=
  ⟨entry.description, (entry.methods.filter Method.isExposed).map Method.describe⟩

/-- What is told of the tags of a block when its map is made. -/
def DocBlock.notices (block : Option String) : List Notice :=
  List.replicate (DocBlock.namelessCount block) .namelessTag

/-- What is told of one method of a class while the class is described. -/
def Method.notices (className : String) (method : Method) : List Notice :=
  if method.isStatic then [.staticMethod className method.name]
  else if method.isMarked then DocBlock.notices method.doc
  else [.unmarkedMethod className method.name]

/-- What is told while a class is described: of its methods in their order, and of its own block. -/
def ClassEntry.notices (entry : ClassEntry) : List Notice :=
  entry.methods.flatMap (Method.notices entry.name) ++ DocBlock.notices entry.doc

end ClientStub
