import ClientStub.Catalog.Lookup

/-!
# Classes of a catalog

The class that a name selects is the first one of the name; a blank name selects none. What is told while a class
is described matters to those alone who look for a fault.
-/

namespace ClientStub

open ClientStub.Text

/-- Whether an entry is the first of its name in a list. -/
def FirstNamed (name : String) (entry : ClassEntry) (entries : List ClassEntry) : Prop :=
  ∃ front behind, entries = front ++ entry :: behind ∧ entry.name = name ∧ ∀ other ∈ front, other.name ≠ name

namespace Catalog

/-- A catalog of classes without methods is known by their names and blocks. -/
theorem ofText_eq {text : String} (classes : List (String × Option String))
    (shown : (ofText text).toOption.map
      (fun catalog => catalog.classes.map fun entry => ((entry.name, entry.doc), entry.methods.isEmpty)) =
        some (classes.map fun listed => (listed, true))) :
    ofText text = .ok ⟨classes.map fun listed => ⟨listed.1, listed.2, []⟩⟩ := by
  have known (entries : List ClassEntry) (listed : List (String × Option String))
      (same : (entries.map fun entry => ((entry.name, entry.doc), entry.methods.isEmpty)) =
        listed.map fun listed => (listed, true)) :
      entries = listed.map fun listed => ⟨listed.1, listed.2, []⟩ := by
    induction entries generalizing listed with
    | nil =>
      cases listed with
      | nil => rfl
      | cons first others => cases same
    | cons entry entries ih =>
      cases listed with
      | nil => cases same
      | cons first others =>
        obtain ⟨name, doc, methods⟩ := entry
        simp only [List.map_cons, List.cons.injEq, Prod.mk.injEq, List.isEmpty_iff] at same
        obtain ⟨⟨rfl, rfl⟩, rest⟩ := same
        rw [List.map_cons, ← ih others rest]
  cases parsed : ofText text with
  | error error => rw [parsed] at shown; cases shown
  | ok catalog =>
    rw [parsed] at shown
    obtain ⟨entries⟩ := catalog
    rw [known entries classes (Option.some.inj shown)]

theorem class?_of_select {catalog : Catalog} {name : String} {entry : ClassEntry}
    (selected : catalog.select name = .ok entry) : catalog.class? name = some entry := by
  unfold select lookup at selected
  split at selected
  · cases selected
  · split at selected
    · rename_i found
      cases selected
      exact found
    · cases selected

theorem name_of_class? {catalog : Catalog} {name : String} {entry : ClassEntry}
    (found : catalog.class? name = some entry) : entry.name = name := by
  unfold class? at found
  exact beq_iff_eq.1 (List.find?_some found :)

theorem name_of_select {catalog : Catalog} {name : String} {entry : ClassEntry}
    (selected : catalog.select name = .ok entry) : entry.name = name :=
  name_of_class? (class?_of_select selected)

variable {catalog : Catalog} {name : String} {entry : ClassEntry}

theorem class?_eq_some_iff : catalog.class? name = some entry ↔ FirstNamed name entry catalog.classes := by
  rw [class?, List.find?_eq_some_iff_append, FirstNamed]
  constructor
  · rintro ⟨named, front, behind, split, others⟩
    exact ⟨front, behind, split, beq_iff_eq.1 named, fun other listed => by simpa using others other listed⟩
  · rintro ⟨front, behind, split, named, others⟩
    exact ⟨beq_iff_eq.2 named, front, behind, split, fun other listed => by simpa using others other listed⟩

theorem class?_eq_none_iff : catalog.class? name = none ↔ ∀ entry ∈ catalog.classes, entry.name ≠ name := by
  simp [class?]

theorem select_eq_ok_iff :
    catalog.select name = .ok entry ↔
      isBlankText name.toList = false ∧ FirstNamed name entry catalog.classes := by
  rw [← class?_eq_some_iff, select, lookup]
  split
  · rename_i blank
    simp [blank]
  · rename_i written
    rw [Bool.not_eq_true] at written
    cases catalog.class? name <;> simp [written]

/-- A class is refused for a blank name, or for a name that no class has. -/
theorem select_eq_error_iff {error : Error} :
    catalog.select name = .error error ↔
      (isBlankText name.toList = true ∧ error = .blankClassName) ∨
      (isBlankText name.toList = false ∧ (∀ entry ∈ catalog.classes, entry.name ≠ name) ∧
        error = .unknownClass name) := by
  rw [← class?_eq_none_iff, select, lookup]
  cases isBlankText name.toList with
  | true => simp [eq_comm]
  | false => cases catalog.class? name <;> simp [eq_comm]

theorem select_of_isBlankText (blank : isBlankText name.toList = true) :
    catalog.select name = .error .blankClassName :=
  select_eq_error_iff.2 (.inl ⟨blank, rfl⟩)

theorem select_of_forall_ne (written : isBlankText name.toList = false)
    (absent : ∀ entry ∈ catalog.classes, entry.name ≠ name) :
    catalog.select name = .error (.unknownClass name) :=
  select_eq_error_iff.2 (.inr ⟨written, absent, rfl⟩)

end Catalog

namespace ClassEntry

theorem level_of_mem_notices {entry : ClassEntry} {notice : Notice} (told : notice ∈ entry.notices) :
    notice.level = "debug" := by
  have nameless (block : Option String) (told : notice ∈ DocBlock.notices block) : notice.level = "debug" := by
    rw [List.eq_of_mem_replicate told]
    rfl
  rcases List.mem_append.1 told with inMethods | inBlock
  · obtain ⟨method, -, inMethod⟩ := List.mem_flatMap.1 inMethods
    unfold Method.notices at inMethod
    split at inMethod
    · rw [List.mem_singleton.1 inMethod]
      rfl
    · split at inMethod
      · exact nameless _ inMethod
      · rw [List.mem_singleton.1 inMethod]
        rfl
  · exact nameless _ inBlock

theorem filter_notices (entry : ClassEntry) : entry.notices.filter (·.level = "info") = [] := by
  rw [List.filter_eq_nil_iff]
  intro notice told
  rw [level_of_mem_notices told]
  decide

end ClassEntry

end ClientStub
