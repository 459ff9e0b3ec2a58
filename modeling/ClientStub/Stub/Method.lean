import ClientStub.Stub.Doc

/-!
# The stub of a method

The generated function with its documentation.
-/

namespace ClientStub.Layout

variable (layout : Layout)

/-- The statement before the call that makes an absent query an empty one. -/
def prelude (method : MethodDescriptor) : String :=
  if method.query.isEmpty then ""
  else "    " ++ queryParamsName ++ " = " ++ queryParamsName ++ " || \x7b\x7d;\n"

/-- What the names of a method's output types begin with. -/
def typeName (method : MethodDescriptor) : String := Text.upperFirst method.clientName

def methodBindings (method : MethodDescriptor) (base : String) : Entries String :=
  let doc := layout.methodDoc method (typeName method)
  .ofList
    [("DOC", doc.comment), ("NAME", method.clientName), ("ARGS", method.formalArguments),
      ("PRELUDE", prelude method), ("TYPECAST", doc.typecast), ("VERB", method.verb.name),
      ("CALL", method.callArguments base), ("TYPES", doc.outputTypes.getD "")]

/-- The stub of a method, without white space behind it. -/
def methodStub (method : MethodDescriptor) (base : String) : String :=
  String.ofList (Text.trimEnd
    (Template.render layout.templates.method (layout.methodBindings method base)).toList)

end ClientStub.Layout
