/-!
# Notices

What a run tells about its course: what it could not make out, what it skipped and what it wrote.
-/

namespace ClientStub

inductive Notice where
  | unreadCatalog (path reason : String)
  | namelessTag
  | staticMethod (className method : String)
  | unmarkedMethod (className method : String)
  | written (className : String) (methods : Nat) (path : String)
  deriving DecidableEq, Repr

namespace Notice

/-- How much a notice matters: what was written matters to every reader, everything else only to one who
looks for a fault. -/
def level : Notice → String
  | unreadCatalog _ _ => "debug"
  | namelessTag => "debug"
  | staticMethod _ _ => "debug"
  | unmarkedMethod _ _ => "debug"
  | written _ _ _ => "info"

def message : Notice → String
  | unreadCatalog path reason => String.join ["failed to parse class catalog at ", path, ": ", reason]
  | namelessTag => "skipping tag span without a name"
  | staticMethod className method => className ++ "::" ++ method ++ " is static, skipping"
  | unmarkedMethod className method => className ++ "::" ++ method ++ " has no @api marker, skipping"
  | written className methods path =>
    "wrote " ++ className ++ " (" ++ toString methods ++ " methods) to " ++ path

/-- A notice as a line of the log. -/
def line (notice : Notice) : String := notice.level ++ ": " ++ notice.message

end Notice

end ClientStub
