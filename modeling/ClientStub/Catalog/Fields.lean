import ClientStub.Catalog
import ClientStub.Mismatch

/-!
# Fields of catalog records

The records of a catalog while their fields are being read. A record must have a name; every other field
has a value of its own for a field that is not there.
-/

namespace ClientStub

structure ParameterFields where
  name : Option String
  default : Option Json

namespace ParameterFields

def none : ParameterFields := ⟨.none, .none⟩

def complete (fields : ParameterFields) : Except Mismatch Parameter := do
  pure ⟨← requiredField "name" fields.name, fields.default⟩

end ParameterFields

structure MethodFields where
  name : Option String
  isStatic : Option Bool
  doc : Option (Option String)
  parameters : Option (List Parameter)

namespace MethodFields

def none : MethodFields := ⟨.none, .none, .none, .none⟩

def complete (fields : MethodFields) : Except Mismatch Method := do
  pure ⟨← requiredField "name" fields.name, fields.isStatic.getD false, fields.doc.getD .none,
    fields.parameters.getD []⟩

end MethodFields

structure ClassFields where
  name : Option String
  doc : Option (Option String)
  methods : Option (List Method)

namespace ClassFields

def none : ClassFields := ⟨.none, .none, .none⟩

def complete (fields : ClassFields) : Except Mismatch ClassEntry := do
  pure ⟨← requiredField "name" fields.name, fields.doc.getD .none, fields.methods.getD []⟩

end ClassFields

structure CatalogFields where
  classes : Option (List ClassEntry)

namespace CatalogFields

def none : CatalogFields := ⟨.none⟩

def complete (fields : CatalogFields) : Except Mismatch Catalog := pure ⟨fields.classes.getD []⟩

end CatalogFields

end ClientStub
