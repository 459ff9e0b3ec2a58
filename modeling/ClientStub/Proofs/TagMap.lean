import ClientStub.TagMap

/-!
# What a tag map holds

Slots hold one body or several, never none, so the bodies under a name decide whether the name is a key,
which body is first and which form the slot has. Bodies that are added one after the other are each held
once, under their names and in their order.
-/

namespace ClientStub

namespace TagSlot

theorem first_eq_head? (slot : TagSlot) : slot.all.head? = some slot.first := by
  cases slot <;> rfl

theorem eq_single_iff {slot : TagSlot} {body : String} : slot = .single body ↔ slot.all = [body] := by
  cases slot <;> simp [all]

theorem eq_many_iff {slot : TagSlot} {first second : String} {more : List String} :
    slot = .many first second more ↔ slot.all = first :: second :: more := by
  cases slot <;> simp [all]

end TagSlot

namespace TagMap

variable {tags : TagMap} {name : String}

theorem get?_eq_none_iff : tags.get? name = none ↔ tags.all name = [] := by
  unfold all
  cases tags.get? name with
  | none => simp
  | some slot => simpa using slot.all_ne_nil

theorem contains_iff : tags.contains name = true ↔ tags.all name ≠ [] := by
  rw [contains, Option.isSome_iff_ne_none, Ne, get?_eq_none_iff]

theorem get?_eq_single_iff {body : String} :
    tags.get? name = some (.single body) ↔ tags.all name = [body] := by
  unfold all
  cases tags.get? name with
  | none => simp
  | some slot => simpa using TagSlot.eq_single_iff

theorem get?_eq_many_iff {first second : String} {more : List String} :
    tags.get? name = some (.many first second more) ↔ tags.all name = first :: second :: more := by
  unfold all
  cases tags.get? name with
  | none => simp
  | some slot => simpa using TagSlot.eq_many_iff

theorem first?_eq_head? : tags.first? name = (tags.all name).head? := by
  unfold first? all
  cases tags.get? name with
  | none => rfl
  | some slot => exact slot.first_eq_head?.symm

theorem mem_names_iff : name ∈ tags.slots.names ↔ tags.contains name = true := by
  rw [contains, get?, Entries.get?, List.lookup_isSome_iff, Entries.names, List.mem_map]
  simp

/-- The number of bodies under all names together. -/
def bodyCount (tags : TagMap) : Nat := (tags.slots.flatMap fun entry => entry.2.all).length

theorem bodyCount_ofDescription (text : String) : (ofDescription text).bodyCount = 1 := rfl

theorem bodyCount_insert (tags : TagMap) (name body : String) :
    (tags.insert name body).bodyCount = tags.bodyCount + 1 := by
  unfold bodyCount insert
  induction tags.slots with
  | nil => rfl
  | cons entry entries ih =>
    obtain ⟨other, held⟩ := entry
    simp only [Entries.update]
    split
    · rw [List.flatMap_cons, List.length_append, TagSlot.all, List.length_singleton]
      omega
    · split
      · simp only [List.flatMap_cons, List.length_append, TagSlot.all_push, List.length_singleton]
        omega
      · rw [List.flatMap_cons, List.flatMap_cons, List.length_append, List.length_append, ih]
        omega

/-- Adds bodies under their names, from the first to the last. -/
def insertAll (tags : TagMap) (bodies : List (String × String)) : TagMap :=
  bodies.foldl (fun tags body => tags.insert body.1 body.2) tags

theorem isSorted_ofDescription (text : String) : (ofDescription text).slots.IsSorted :=
  List.pairwise_singleton _ _

theorem all_ofDescription_eq (text name : String) :
    (ofDescription text).all name = if name = descriptionName then [text] else [] := by
  split
  · subst_vars
    exact all_ofDescription text
  · rename_i other
    simp [all, get?, Entries.get?, ofDescription, List.lookup_cons, beq_false_of_ne other]

theorem all_insertAll (sorted : tags.slots.IsSorted) (bodies : List (String × String)) (name : String) :
    (tags.insertAll bodies).all name =
      tags.all name ++ (bodies.filter fun body => body.1 = name).map Prod.snd := by
  unfold insertAll
  induction bodies generalizing tags with
  | nil => simp
  | cons body bodies ih =>
    rw [List.foldl_cons, ih (isSorted_insert sorted), List.filter_cons]
    by_cases same : body.1 = name
    · subst same
      rw [all_insert sorted]
      simp
    · rw [all_insert_of_ne (Ne.symm same)]
      simp [same]

theorem bodyCount_insertAll (tags : TagMap) (bodies : List (String × String)) :
    (tags.insertAll bodies).bodyCount = tags.bodyCount + bodies.length := by
  unfold insertAll
  induction bodies generalizing tags with
  | nil => rfl
  | cons body bodies ih =>
    rw [List.foldl_cons, ih, bodyCount_insert, List.length_cons]
    omega

/-- The map of a description and of bodies that are added to it, name by name. -/
theorem all_ofDescription_insertAll (text : String) (bodies : List (String × String)) (name : String) :
    ((ofDescription text).insertAll bodies).all name =
      (if name = descriptionName then [text] else []) ++
        (bodies.filter fun body => body.1 = name).map Prod.snd := by
  rw [all_insertAll (isSorted_ofDescription text), all_ofDescription_eq]

end TagMap

end ClientStub
