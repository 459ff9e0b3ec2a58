import ClientStub.Catalog.Lookup
import ClientStub.Proofs.Json.Skipping
import ClientStub.Proofs.Json.Values

/-!
# The JSON forms of a catalog

A catalog has many JSON forms: the members of an object come in any order, a field with its usual value may be
left out, and members without a field may be added to every object. A record is read from every text of every
form that it has, because what is held of it depends on the names read so far and not on their order.
-/

namespace ClientStub

open Json

/-- Members that a record has no field for, with whatever values. -/
def Unknown (fields : List String) (others : List (String × Json)) : Prop := ∀ other ∈ others, other.1 ∉ fields

/-- The member of a field that may be left out if it has its usual value. -/
inductive FieldForm (name : String) (usual : Prop) (form : Json → Prop) : List (String × Json) → Prop where
  | written {value : Json} (right : form value) : FieldForm name usual form [(name, value)]
  | omitted (same : usual) : FieldForm name usual form []

def ArrayForm {α : Type} (form : α → Json → Prop) (values : List α) (value : Json) : Prop :=
  ∃ items, List.Forall₂ form values items ∧ value = .array items

/-- An object with the fields of a record and unknown members, in any order. -/
def RecordForm (known : List String) (fields : List (String × Json)) (value : Json) : Prop :=
  ∃ members others, members.Perm (fields ++ others) ∧ Unknown known others ∧ value = .object members

/-- A parameter has the member `default` exactly if it has a default, which may be null. -/
def Parameter.Form (parameter : Parameter) (value : Json) : Prop :=
  ∃ default, FieldForm "default" (parameter.default = none) (parameter.default = some ·) default ∧
    RecordForm ["name", "default"] (("name", .string parameter.name) :: default) value

def Method.Form (method : Method) (value : Json) : Prop :=
  ∃ isStatic doc parameters,
    FieldForm "static" (method.isStatic = false) (· = .bool method.isStatic) isStatic ∧
    FieldForm "doc" (method.doc = none) (· = Json.optional method.doc) doc ∧
    FieldForm "parameters" (method.parameters = []) (ArrayForm Parameter.Form method.parameters) parameters ∧
    RecordForm ["name", "static", "doc", "parameters"]
      (("name", .string method.name) :: (isStatic ++ doc ++ parameters)) value

def ClassEntry.Form (entry : ClassEntry) (value : Json) : Prop :=
  ∃ doc methods,
    FieldForm "doc" (entry.doc = none) (· = Json.optional entry.doc) doc ∧
    FieldForm "methods" (entry.methods = []) (ArrayForm Method.Form entry.methods) methods ∧
    RecordForm ["name", "doc", "methods"] (("name", .string entry.name) :: (doc ++ methods)) value

def Catalog.Form (catalog : Catalog) (value : Json) : Prop :=
  ∃ classes, FieldForm "classes" (catalog.classes = []) (ArrayForm ClassEntry.Form catalog.classes) classes ∧
    RecordForm ["classes"] classes value

theorem RecordForm.of_fields (known : List String) (fields : List (String × Json)) :
    RecordForm known fields (.object fields) :=
  ⟨fields, [], by simp, by simp [Unknown], rfl⟩

theorem ArrayForm.of_map {α : Type} {form : α → Json → Prop} {print : α → Json}
    (each : ∀ value, form value (print value)) (values : List α) :
    ArrayForm form values (.array (values.map print)) := by
  refine ⟨_, ?_, rfl⟩
  rw [List.forall₂_map_right_iff, List.forall₂_same]
  exact fun value _ => each value

theorem Parameter.form_json (parameter : Parameter) : parameter.Form parameter.json := by
  obtain ⟨name, default⟩ := parameter
  cases default with
  | none => exact ⟨[], .omitted rfl, .of_fields _ _⟩
  | some value => exact ⟨[("default", value)], .written rfl, .of_fields _ _⟩

theorem Method.form_json (method : Method) : method.Form method.json :=
  ⟨_, _, _, .written rfl, .written rfl, .written (.of_map Parameter.form_json method.parameters), .of_fields _ _⟩

theorem ClassEntry.form_json (entry : ClassEntry) : entry.Form entry.json :=
  ⟨_, _, .written rfl, .written (.of_map Method.form_json entry.methods), .of_fields _ _⟩

/-- What is written of a catalog is one of its forms. -/
theorem Catalog.form_json (catalog : Catalog) : catalog.Form catalog.json :=
  ⟨_, .written (.of_map ClassEntry.form_json catalog.classes), .of_fields _ _⟩

section

variable {name : String} {usual : Prop} {form : Json → Prop} {members : List (String × Json)}

theorem FieldForm.sublist (field : FieldForm name usual form members) :
    (members.map Prod.fst).Sublist [name] := by
  cases field <;> simp

theorem FieldForm.of_mem (field : FieldForm name usual form members) {member : String × Json}
    (listed : member ∈ members) : member.1 = name ∧ form member.2 := by
  cases field with
  | written right =>
    rw [List.mem_singleton] at listed
    rw [listed]
    exact ⟨rfl, right⟩
  | omitted => contradiction

theorem FieldForm.mem_or (field : FieldForm name usual form members) :
    name ∈ members.map Prod.fst ∨ usual := by
  cases field with
  | written => simp
  | omitted same => exact .inr same

end

namespace Json

variable {α σ : Type}

/-- What is held of a field when the members of some names have been read. -/
def held (seen : List String) (name : String) (value : Option α) : Option α := if name ∈ seen then value else none

theorem held_of_mem {seen : List String} {name : String} (read : name ∈ seen) (value : Option α) :
    held seen name value = value := if_pos read

theorem held_of_not_mem {seen : List String} {name : String} (unread : name ∉ seen) (value : Option α) :
    held seen name value = none := if_neg unread

theorem held_cons (other : String) (seen : List String) (name : String) (value : Option α) :
    held (other :: seen) name value = if name = other then value else held seen name value := by
  by_cases same : name = other <;> simp [held, same]

/-- A field that is left out has its usual value. -/
theorem getD_held {seen : List String} {name : String} {value usual : α} (read : name ∈ seen ∨ value = usual) :
    (held seen name (some value)).getD usual = value := by
  by_cases present : name ∈ seen
  · rw [held_of_mem present, Option.getD_some]
  · rw [held_of_not_mem present, read.resolve_left present, Option.getD_none]

section

variable {member : σ → String → Reader σ} {hold : List String → σ} {known : List String}
  {shown : List ((String × Json) × List Char)}

/-- Whether a field of the record is not read yet. -/
def Unread (known seen : List String) (name : String) : Prop := name ∈ known → name ∉ seen

theorem takes_of_pairwise (each : ∀ piece ∈ shown, ValueText piece.1.2 piece.2)
    (distinct : (shown.map Prod.fst).Pairwise fun a b => a.1 ∈ known → a.1 ≠ b.1)
    (read : ∀ field ∈ shown.map Prod.fst, ∀ {seen : List String} {text : List Char}, Unread known seen field.1 →
      ValueText field.2 text → Reads (member (hold seen) field.1) (hold (field.1 :: seen)) text)
    (seen : List String) (fresh : ∀ field ∈ shown.map Prod.fst, Unread known seen field.1) :
    Takes member (hold seen) (shown.map fun piece => (piece.1.1, piece.2))
      (hold ((shown.map fun piece => piece.1.1).reverse ++ seen)) := by
  induction shown generalizing seen with
  | nil => exact .none
  | cons piece shown ih =>
    rw [List.forall_mem_cons] at each
    rw [List.map_cons, List.pairwise_cons] at distinct
    rw [List.map_cons, List.forall_mem_cons] at read fresh
    rw [List.map_cons, List.map_cons, List.reverse_cons, List.append_assoc, List.singleton_append]
    refine .next (read.1 fresh.1 each.1) (ih each.2 distinct.2 read.2 (piece.1.1 :: seen) ?_)
    intro field listed isKnown
    rw [List.mem_cons, not_or]
    exact ⟨fun same => distinct.1 field listed (same ▸ isKnown) same.symm, fresh.2 field listed isKnown⟩

/-- The members of a record are read one after the other in whatever order they come. -/
theorem takes_of_perm {fields others : List (String × Json)} (order : (shown.map Prod.fst).Perm (fields ++ others))
    (each : ∀ piece ∈ shown, ValueText piece.1.2 piece.2) (named : (fields.map Prod.fst).Sublist known)
    (distinct : known.Nodup) (unknown : Unknown known others)
    (read : ∀ field ∈ fields ++ others, ∀ {seen : List String} {text : List Char}, Unread known seen field.1 →
      ValueText field.2 text → Reads (member (hold seen) field.1) (hold (field.1 :: seen)) text) :
    ∃ seen, (∀ name ∈ known, name ∈ seen ↔ name ∈ fields.map Prod.fst) ∧
      Takes member (hold []) (shown.map fun piece => (piece.1.1, piece.2)) (hold seen) := by
  have apart : (fields ++ others).Pairwise fun a b => a.1 ∈ known → a.1 ≠ b.1 := by
    refine List.pairwise_append.2 ⟨?_, ?_, ?_⟩
    · refine (List.pairwise_map.1 (distinct.sublist named)).imp ?_
      intro _ _ ne _
      exact ne
    · apply List.pairwise_of_forall_mem_list
      intro other listed _ _ isKnown
      exact absurd isKnown (unknown other listed)
    · intro field _ other listed isKnown same
      exact unknown other listed (same ▸ isKnown)
  have shownApart : (shown.map Prod.fst).Pairwise fun a b => a.1 ∈ known → a.1 ≠ b.1 := by
    refine (order.pairwise_iff fun ne isKnown same => ?_).2 apart
    exact ne (same ▸ isKnown) same.symm
  have taken := takes_of_pairwise each shownApart (fun field listed => read field (order.mem_iff.1 listed)) []
    fun _ _ _ => List.not_mem_nil
  refine ⟨_, fun name isKnown => ?_, taken⟩
  have listed := (order.map Prod.fst).mem_iff (a := name)
  rw [List.map_map, List.map_append, List.mem_append] at listed
  rw [List.append_nil, List.mem_reverse]
  refine listed.trans ⟨fun either => either.resolve_right fun inOthers => ?_, .inl⟩
  obtain ⟨other, isOther, rfl⟩ := List.mem_map.1 inOthers
  exact unknown other isOther isKnown

/-- A record is read from every text of every form that it has. -/
theorem reads_record {record : String} {array : Reader α} {start : σ} {finish : σ → Except Failure α}
    {fields : List (String × Json)} {value : α} {shape : Json} {text : List Char} (hold : List String → σ)
    (starts : hold [] = start) (form : RecordForm known fields shape) (shown : ValueText shape text)
    (named : (fields.map Prod.fst).Sublist known) (distinct : known.Nodup)
    (read : ∀ field ∈ fields, ∀ {seen : List String} {text : List Char}, field.1 ∉ seen → ValueText field.2 text →
      Reads (member (hold seen) field.1) (hold (field.1 :: seen)) text)
    (skip : ∀ {name : String}, name ∉ known → ∀ {seen : List String} {text : List Char}, Reads skipValue () text →
      Reads (member (hold seen) name) (hold (name :: seen)) text)
    (finished : ∀ {seen : List String}, (∀ name ∈ known, name ∈ seen ↔ name ∈ fields.map Prod.fst) →
      finish (hold seen) = .ok value) :
    Reads (readRecord record (readObjectBody start member finish) array) value text := by
  obtain ⟨members, others, anyOrder, unknown, rfl⟩ := form
  cases shown with
  | object order each whole =>
    have eachRead : ∀ field ∈ fields ++ others, ∀ {seen : List String} {text : List Char},
        Unread known seen field.1 → ValueText field.2 text →
          Reads (member (hold seen) field.1) (hold (field.1 :: seen)) text := by
      intro field listed seen text unread shown
      rcases List.mem_append.1 listed with isField | isOther
      · exact read field isField (unread (named.subset (List.mem_map_of_mem isField))) shown
      · exact skip (unknown field isOther) (reads_skipValue shown)
    obtain ⟨seen, complete, taken⟩ := takes_of_perm (order.trans anyOrder) each named distinct unknown eachRead
    rw [starts] at taken
    exact reads_readRecord taken (finished complete) whole

end

theorem reads_readArray_of_form {form : α → Json → Prop} {item : Reader α} {values : List α} {value : Json}
    {text : List Char} (array : ArrayForm form values value) (shown : ValueText value text)
    (each : ∀ value ∈ values, ∀ {shape : Json} {text : List Char}, form value shape → ValueText shape text →
      Reads item value text) :
    Reads (readArray item) values text := by
  obtain ⟨items, forms, rfl⟩ := array
  cases shown with
  | @array pieces _ shown whole =>
    refine reads_readArray ?_ whole
    rw [List.forall₂_map_right_iff] at forms ⊢
    clear whole
    induction forms with
    | nil => exact .nil
    | cons form _ ih =>
      rw [List.forall_mem_cons] at shown each
      exact .cons (each.1 form shown.1) (ih each.2 shown.2)

end Json

end ClientStub
