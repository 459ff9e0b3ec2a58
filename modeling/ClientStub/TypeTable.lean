import ClientStub.Entries

/-!
# Type names

Client-side names of the server's scalar types. A name that the table does not list stays as it is.
-/

namespace ClientStub

structure TypeTable where
  names : Entries String
  deriving DecidableEq, Repr

namespace TypeTable

/-- The client-side name of a type nothing is known of. -/
def unknown : String := "*"

def builtin : TypeTable :=
  ⟨.ofList
    [("int", "number"), ("integer", "number"), ("double", "number"), ("float", "number"),
      ("bool", "boolean")]⟩

/-- The client-side name of a type; an empty name is one that nothing is known of. -/
def translate (table : TypeTable) (type : String) : String :=
  if type = "" then unknown else (table.names.get? type).getD type

end TypeTable

instance : Inhabited TypeTable := ⟨.builtin⟩

end ClientStub
