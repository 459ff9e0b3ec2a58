import ClientStub.Descriptor
import ClientStub.Text.Casing
import ClientStub.Text.Lines

/-!
# The remote call of a method

The URL of a method with its placeholders, the parameters of the generated function, and the arguments
that it passes on. A route placeholder carries a parameter's name; a query placeholder carries the
position of its value in the list of arguments.
-/

namespace ClientStub

/-- The generated function's parameter for the request body. -/
def payloadName : String := "payload"

/-- The generated function's parameter for the query. -/
def queryParamsName : String := "queryParams"

/-- What is passed in the place of the values when there are none and a body follows. -/
def emptyRouteMarker : String := "null"

namespace MethodDescriptor

def hasPayload (method : MethodDescriptor) : Bool := method.tags.contains "payload"

private def withoutTrailingSlashes (url : String) : String :=
  String.ofList (Text.dropEndWhile (· = '/') url.toList)

/-- The segment that names the method: its server-side name without the verb, in kebab case. -/
def segment (method : MethodDescriptor) : String := Text.kebabCase (Verb.strip method.serverName)

/-- The part of the URL that names the method; nothing for a name that is a verb alone. -/
def segmentPath (method : MethodDescriptor) : String :=
  if method.segment = "" then "" else "/" ++ method.segment

def routePath (method : MethodDescriptor) : String :=
  String.join (method.route.map fun parameter => "/:" ++ parameter.name)

/-- The pairs of the query. Their positions go on from those of the route's parameters. -/
def queryPairs (method : MethodDescriptor) : List String :=
  method.query.mapIdx fun i parameter =>
    parameter.name ++ "=:" ++ toString (method.route.length + i)

def queryPath (method : MethodDescriptor) : String :=
  if method.query.isEmpty then "" else "?" ++ Text.join "&" method.queryPairs

/-- The URL of a method below the base URL of its endpoint. -/
def url (method : MethodDescriptor) (base : String) : String :=
  withoutTrailingSlashes base ++ method.segmentPath ++ method.routePath ++ method.queryPath

/-- The names of the generated function's parameters; nameless ones are left out. -/
def formalNames (method : MethodDescriptor) : List String :=
  ((if method.hasPayload then [payloadName] else [])
    ++ method.route.map RouteParameter.name
    ++ (if method.query.isEmpty then [] else [queryParamsName])).filter fun name => name != ""

def formalArguments (method : MethodDescriptor) : String := Text.join ", " method.formalNames

/-- The values of the URL's placeholders, in the order of their positions. -/
def placeholderValues (method : MethodDescriptor) : List String :=
  method.route.map RouteParameter.name
    ++ method.query.map fun parameter => queryParamsName ++ "." ++ parameter.name

/-- The arguments of the call behind the URL: the list of values, and the body. -/
def remoteArgumentList (method : MethodDescriptor) : List String :=
  let values := method.placeholderValues
  (if values.isEmpty then [] else ["[" ++ Text.join ", " values ++ "]"])
    ++ if method.hasPayload then (if values.isEmpty then [emptyRouteMarker] else []) ++ [payloadName] else []

def remoteArguments (method : MethodDescriptor) : String := Text.join ", " method.remoteArgumentList

/-- The URL as a quoted literal. Quotes in it are escaped; backslashes are left as they are. -/
def urlLiteral (method : MethodDescriptor) (base : String) : String :=
  "'" ++ String.ofList ((method.url base).toList.flatMap fun c => if c = '\'' then ['\\', '\''] else [c])
    ++ "'"

/-- All arguments of the call. -/
def callArguments (method : MethodDescriptor) (base : String) : String :=
  method.urlLiteral base
    ++ if method.remoteArguments = "" then "" else ", " ++ method.remoteArguments

end MethodDescriptor

end ClientStub
