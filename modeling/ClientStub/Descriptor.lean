import ClientStub.Json.Value
import ClientStub.TagMap
import ClientStub.Verb

/-!
# Descriptors

What is known of a class and its exposed methods when a client is written for them: the catalog's facts
merged with the tags of the documentation.
-/

namespace ClientStub

/-- A parameter of the route. It is required if it has no default; `default` is the literal of the
default, and `type` is absent where no tag names the parameter. -/
structure RouteParameter where
  name : String
  type : Option String
  required : Bool
  default : Option String
  description : String
  deriving DecidableEq, Repr

/-- A parameter of the query, which is always optional. -/
structure QueryParameter where
  name : String
  type : String
  description : String
  deriving DecidableEq, Repr

structure MethodDescriptor where
  serverName : String
  clientName : String
  verb : Verb
  route : List RouteParameter
  query : List QueryParameter
  tags : TagMap
  deriving DecidableEq, Repr

structure ClassDescriptor where
  description : String
  methods : List MethodDescriptor
  deriving DecidableEq, Repr

def TagSlot.json : TagSlot → Json
  | single body => .string body
  | many first second more => .array ((first :: second :: more).map Json.string)

def TagMap.json (tags : TagMap) : Json := .object (tags.slots.map fun (name, slot) => (name, slot.json))

def RouteParameter.json (parameter : RouteParameter) : Json :=
  .object
    [("name", .string parameter.name), ("type", Json.optional parameter.type),
      ("required", .bool parameter.required), ("default", Json.optional parameter.default),
      ("description", .string parameter.description)]

def QueryParameter.json (parameter : QueryParameter) : Json :=
  .object
    [("name", .string parameter.name), ("type", .string parameter.type),
      ("description", .string parameter.description)]

def MethodDescriptor.json (method : MethodDescriptor) : Json :=
  .object
    [("server_side_name", .string method.serverName), ("client_side_name", .string method.clientName),
      ("http_verb", .string method.verb.name),
      ("ordered_parameters", .array (method.route.map RouteParameter.json)),
      ("query_parameters", .array (method.query.map QueryParameter.json)), ("tags", method.tags.json)]

def ClassDescriptor.json (descriptor : ClassDescriptor) : Json :=
  .object
    [("description", .string descriptor.description),
      ("methods", .array (descriptor.methods.map MethodDescriptor.json))]

end ClientStub
