import ClientStub.Catalog.Fields
import ClientStub.Json.Document

/-!
# Catalogs in JSON

The JSON form of a catalog, written and read. A class is an object of `name`, `doc` and `methods`, a method
one of `name`, `static`, `doc` and `parameters`, and a parameter one of `name` and `default`; all but the
names may be left out. Unknown members are skipped. Each object may also be the array of its fields.
-/

namespace ClientStub

open ClientStub.Json

/-- A parameter has the member `default` only if it has a default. -/
def Parameter.json (parameter : Parameter) : Json :=
  .object (("name", .string parameter.name) :: match parameter.default with
    | none => []
    | some value => [("default", value)])

def Method.json (method : Method) : Json :=
  .object
    [("name", .string method.name), ("static", .bool method.isStatic), ("doc", Json.optional method.doc),
      ("parameters", .array (method.parameters.map Parameter.json))]

def ClassEntry.json (entry : ClassEntry) : Json :=
  .object
    [("name", .string entry.name), ("doc", Json.optional entry.doc),
      ("methods", .array (entry.methods.map Method.json))]

def Catalog.json (catalog : Catalog) : Json :=
  .object [("classes", .array (catalog.classes.map ClassEntry.json))]

/-- Puts what is read into a field of a record that must not have been read before. -/
private def once {α σ : Type} (name : String) (held : Option α) (read : Reader α) (put : α → σ) : Reader σ :=
  fun text =>
    if held.isSome then .error (.mismatch (.duplicateField name))
    else do
      let (value, rest) ← read text
      pure (put value, rest)

theorem once_eq_ok {α σ : Type} {name : String} {read : Reader α} {put : α → σ} {value : α} {text rest : List Char}
    (reads : read text = .ok (value, rest)) : once name none read put text = .ok (put value, rest) := by
  simp [once, reads, bind, Except.bind, pure, Except.pure]

private def skip {σ : Type} (held : σ) : Reader σ := fun text => do
  let (_, rest) ← skipValue text
  pure (held, rest)

theorem skip_eq_ok {σ : Type} {held : σ} {text rest : List Char} (skips : skipValue text = .ok ((), rest)) :
    skip held text = .ok (held, rest) := by
  simp [skip, skips, bind, Except.bind, pure, Except.pure]

private def finish {σ α : Type} (complete : σ → Except Mismatch α) (held : σ) : Except Failure α :=
  (complete held).mapError .mismatch

theorem finish_eq_ok {σ α : Type} {complete : σ → Except Mismatch α} {held : σ} {value : α}
    (completes : complete held = .ok value) : finish complete held = .ok value := by
  rw [finish, completes]
  rfl

/-- A required field of a record that is written as an array; it is the field at position `index`. -/
private def leadingField {α : Type} (record : String) (fields index : Nat) (read : Reader α) : Reader α :=
  fun text => do
    match ← nextField (index = 0) read text with
    | (some value, rest) => pure (value, rest)
    | (none, _) => throw (.mismatch (.wrongLength index record fields))

/-- The defaults of parameters lie seven levels deep in a catalog, which counts against the nesting limit. -/
def defaultNesting : Nat := nestingLimit - 7

def readParameter : Reader Parameter :=
  readRecord "ParameterInfo"
    (readObjectBody ParameterFields.none
      (fun held name => match name with
        | "name" => once "name" held.name readString fun v => { held with name := some v }
        | "default" =>
          once "default" held.default (readValue defaultNesting) fun v => { held with default := some v }
        | _ => skip held)
      (finish ParameterFields.complete))
    (fun text => do
      let (name, text) ← leadingField "ParameterInfo" 2 0 readString text
      let (default, text) ← nextField false (readValue defaultNesting) text
      pure (⟨name, default⟩, text))

def readMethod : Reader Method :=
  readRecord "MethodInfo"
    (readObjectBody MethodFields.none
      (fun held name => match name with
        | "name" => once "name" held.name readString fun v => { held with name := some v }
        | "static" => once "static" held.isStatic readBool fun v => { held with isStatic := some v }
        | "doc" => once "doc" held.doc readOptionalString fun v => { held with doc := some v }
        | "parameters" =>
          once "parameters" held.parameters (readArray readParameter) fun v =>
            { held with parameters := some v }
        | _ => skip held)
      (finish MethodFields.complete))
    (fun text => do
      let (name, text) ← leadingField "MethodInfo" 4 0 readString text
      let (isStatic, text) ← nextField false readBool text
      let (doc, text) ← nextField false readOptionalString text
      let (parameters, text) ← nextField false (readArray readParameter) text
      pure (⟨name, isStatic.getD false, doc.getD none, parameters.getD []⟩, text))

def readClass : Reader ClassEntry :=
  readRecord "ClassInfo"
    (readObjectBody ClassFields.none
      (fun held name => match name with
        | "name" => once "name" held.name readString fun v => { held with name := some v }
        | "doc" => once "doc" held.doc readOptionalString fun v => { held with doc := some v }
        | "methods" =>
          once "methods" held.methods (readArray readMethod) fun v => { held with methods := some v }
        | _ => skip held)
      (finish ClassFields.complete))
    (fun text => do
      let (name, text) ← leadingField "ClassInfo" 3 0 readString text
      let (doc, text) ← nextField false readOptionalString text
      let (methods, text) ← nextField false (readArray readMethod) text
      pure (⟨name, doc.getD none, methods.getD []⟩, text))

def readCatalog : Reader Catalog :=
  readRecord "Catalog"
    (readObjectBody CatalogFields.none
      (fun held name => match name with
        | "classes" =>
          once "classes" held.classes (readArray readClass) fun v => { held with classes := some v }
        | _ => skip held)
      (finish CatalogFields.complete))
    (fun text => do
      let (classes, text) ← nextField true (readArray readClass) text
      pure (⟨classes.getD []⟩, text))

/-- The catalog that a JSON text holds. -/
def Catalog.ofJson (text : String) : Except Failure Catalog := readDocument readCatalog text.toList

end ClientStub
