import ClientStub.Json.Value

/-!
# Catalogs

A catalog lists the server's classes with their public methods, as they were found in the annotated
sources: names, documentation blocks, parameters and their defaults.
-/

namespace ClientStub

/-- A formal parameter. A parameter whose default is null has a default. -/
structure Parameter where
  name : String
  default : Option Json
  deriving Repr

structure Method where
  name : String
  isStatic : Bool
  doc : Option String
  parameters : List Parameter
  deriving Repr

structure ClassEntry where
  name : String
  doc : Option String
  methods : List Method
  deriving Repr

structure Catalog where
  classes : List ClassEntry
  deriving Repr

namespace Catalog

/-- The first class of a name. -/
def class? (catalog : Catalog) (name : String) : Option ClassEntry :=
  catalog.classes.find? fun entry => entry.name == name

/-- The names of all classes, in the order of the catalog. -/
def classNames (catalog : Catalog) : List String := catalog.classes.map ClassEntry.name

end Catalog

end ClientStub
