import ClientStub.Stub.Method

/-!
# Service files

The client of one class: a constructor function that holds the stubs of the class's methods, and its
registration with a module.
-/

namespace ClientStub

/-- The name of a class's service: the suffix `Controller`, if it has one, gives way to `Service`. -/
def serviceName (className : String) : String :=
  String.ofList ((Text.dropEnd? "Controller".toList className.toList).getD className.toList) ++ "Service"

def constructorName (service : String) : String := service ++ "Impl"

/-- The name of the file that a class's service is written to. -/
def outputFileName (className : String) : String := serviceName className ++ ".js"

/-- Cuts every run of line feeds down to two; `run` of them have just passed. -/
def shortenRuns : Nat → List Char → List Char
  | _, [] => []
  | run, c :: rest =>
    if c = '\n' then
      if run < 2 then c :: shortenRuns (run + 1) rest else shortenRuns run rest
    else c :: shortenRuns 0 rest

/-- A text with one blank line at most between two lines, and with one line feed at its end. -/
def finishedText (text : String) : String :=
  String.ofList (Text.trimEnd (shortenRuns 0 text.toList) ++ ['\n'])

namespace Layout

variable (layout : Layout)

/-- The stubs of a class, set off by the constructor's margin and with a blank line between each two. -/
def stubs (descriptor : ClassDescriptor) (base : String) : String :=
  Text.join "\n\n" (descriptor.methods.map fun method => Text.indent "    " (layout.methodStub method base))

def serviceBindings (className base : String) (descriptor : ClassDescriptor) (module_ : String) :
    Entries String :=
  let service := serviceName className
  .ofList
    [("CLASS", className), ("DESCRIPTION", DocComment.line descriptor.description),
      ("CONSTRUCTOR", constructorName service), ("METHODS", layout.stubs descriptor base),
      ("MODULE", module_), ("SERVICE", service)]

/-- The text of a class's service file. -/
def service (className base : String) (descriptor : ClassDescriptor) (module_ : String) : String :=
  finishedText
    (Template.render layout.templates.service
      (layout.serviceBindings className base descriptor module_))

end Layout

end ClientStub
