import ClientStub.Entries

/-!
# Entries by their names

What an entry list holds under a name, and which list it is when its entries come in any order.
-/

namespace ClientStub.Entries

variable {α : Type} {name : String} {entries : Entries α}

theorem isSome_get?_iff : (entries.get? name).isSome = true ↔ name ∈ entries.names := by
  simp [get?, names]

theorem mem_of_get? {value : α} (found : entries.get? name = some value) : (name, value) ∈ entries := by
  obtain ⟨front, behind, rfl, -⟩ := List.lookup_eq_some_iff.1 found
  exact List.mem_append_right _ List.mem_cons_self

theorem mem_names_ofList_iff {pairs : List (String × α)} :
    name ∈ (ofList pairs).names ↔ name ∈ pairs.map Prod.fst := by
  have listed : (get? name pairs.reverse).isSome = true ↔ name ∈ pairs.map Prod.fst := by
    rw [isSome_get?_iff, names, List.map_reverse, List.mem_reverse]
  rw [← isSome_get?_iff, get?_ofList, ← listed]
  rfl

theorem get?_set_of_get?_eq_none {value : α} (absent : entries.get? name = none) :
    (entries.set name value).get? name = some value := by
  induction entries with
  | nil => simp [set, update, get?]
  | cons first entries ih =>
    obtain ⟨other, held⟩ := first
    have apart : name ≠ other := by
      rintro rfl
      simp [get?] at absent
    have rest : get? name entries = none := by
      simpa [get?, List.lookup_cons, beq_false_of_ne apart] using absent
    have ih := ih rest
    simp only [set, update, get?] at ih ⊢
    rw [if_neg apart]
    split
    · simp
    · simpa [List.lookup_cons, beq_false_of_ne apart] using ih

theorem set_perm (value : α) (absent : name ∉ entries.names) :
    (set name value entries).Perm ((name, value) :: entries) := by
  induction entries with
  | nil => exact .refl _
  | cons first entries ih =>
    obtain ⟨other, held⟩ := first
    rw [names, List.map_cons, List.mem_cons, not_or] at absent
    simp only [set, update] at ih ⊢
    rw [if_neg absent.1]
    split
    · exact .refl _
    · exact ((ih absent.2).cons _).trans (.swap _ _ _)

theorem foldl_set_perm (entries : Entries α) {pairs : List (String × α)} (distinct : (pairs.map Prod.fst).Nodup)
    (absent : ∀ pair ∈ pairs, pair.1 ∉ entries.names) :
    (pairs.foldl (fun entries (name, value) => set name value entries) entries).Perm (pairs ++ entries) := by
  induction pairs generalizing entries with
  | nil => exact .refl _
  | cons pair pairs ih =>
    obtain ⟨name, value⟩ := pair
    rw [List.map_cons, List.nodup_cons] at distinct
    rw [List.forall_mem_cons] at absent
    have added := set_perm value absent.1
    refine (ih _ distinct.2 fun other listed held => ?_).trans ((added.append_left pairs).trans List.perm_middle)
    rcases List.mem_cons.1 ((added.map Prod.fst).mem_iff.1 held) with same | listedBefore
    · exact distinct.1 (same ▸ List.mem_map_of_mem listed)
    · exact absent.2 other listed listedBefore

theorem IsSorted.nodup_names (sorted : entries.IsSorted) : entries.names.Nodup := by
  refine (List.pairwise_map.2 sorted).imp fun less same => ?_
  exact String.lt_irrefl _ (same ▸ less)

/-- Entries put in from any order stand in the order of their names. -/
theorem ofList_eq_of_perm {pairs : List (String × α)} (order : pairs.Perm entries) (sorted : entries.IsSorted) :
    ofList pairs = entries := by
  have distinct : (pairs.map Prod.fst).Nodup := (order.map Prod.fst).nodup_iff.2 sorted.nodup_names
  have put : (ofList pairs).Perm pairs := by
    simpa [ofList] using foldl_set_perm [] distinct (by simp [names])
  refine List.Perm.eq_of_pairwise ?_ (isSorted_ofList pairs) sorted (put.trans order)
  intro first second _ _ less greater
  exact absurd (String.lt_trans less greater) (String.lt_irrefl _)

/-- Entries that are read back one by one are read back together. -/
theorem mapM_map_of_inverse {m : Type → Type} [Monad m] [LawfulMonad m] {β γ : Type} {write : β → γ}
    {read : γ → m β} (inverse : ∀ entry, read (write entry) = pure entry) (list : List β) :
    (list.map write).mapM read = pure list := by
  induction list with
  | nil => rfl
  | cons entry list ih => rw [List.map_cons, List.mapM_cons, inverse, ih, pure_bind, pure_bind]

end ClientStub.Entries
