/-!
# Entries in the order of their names

Values under distinct names, kept in increasing order of the names. An object of a document, the tags of a
documentation block and the classes of a configuration are listed so. An update keeps the order, changes the
value under its own name and leaves all others as they are.
-/

namespace ClientStub

/-- Named values in increasing order of their names. Names are ordered by the numbers of their
characters. -/
abbrev Entries (α : Type) := List (String × α)

namespace Entries

variable {α : Type}

/-- Replaces the value under `name` by `next` of it, or adds `next none` where the order wants it. -/
def update (name : String) (next : Option α → α) : Entries α → Entries α
  | [] => [(name, next none)]
  | (other, held) :: entries =>
    if name < other then (name, next none) :: (other, held) :: entries
    else if name = other then (name, next (some held)) :: entries
    else (other, held) :: update name next entries

/-- Puts `value` under `name`; an earlier value under the name is replaced. -/
def set (name : String) (value : α) (entries : Entries α) : Entries α :=
  update name (fun _ => value) entries

/-- The value under `name`. -/
def get? (name : String) (entries : Entries α) : Option α := entries.lookup name

def names (entries : Entries α) : List String := entries.map Prod.fst

/-- The entries of a list in any order; of two values under one name the later one counts. -/
def ofList (pairs : List (String × α)) : Entries α :=
  pairs.foldl (fun entries (name, value) => set name value entries) []

/-- Whether every name is less than all names behind it. -/
def IsSorted (entries : Entries α) : Prop := entries.Pairwise fun a b => a.1 < b.1

private theorem name_lt_of_not_lt {a b : String} (le : ¬ a < b) (ne : a ≠ b) : b < a := by
  refine Decidable.byContradiction fun ge => ne (String.le_antisymm ?_ ?_)
  · exact ge
  · exact le

theorem fst_of_mem_update {name : String} {next : Option α → α} {entries : Entries α}
    {entry : String × α} (listed : entry ∈ update name next entries) :
    entry.1 = name ∨ entry.1 ∈ entries.names := by
  induction entries with
  | nil => simp_all [update]
  | cons first entries ih =>
    obtain ⟨other, held⟩ := first
    simp only [update] at listed
    split at listed
    · grind [names]
    · split at listed
      · grind [names]
      · grind [names]

/-- An update keeps the order. -/
theorem IsSorted.update {name : String} {next : Option α → α} {entries : Entries α}
    (sorted : entries.IsSorted) : (Entries.update name next entries).IsSorted := by
  induction entries with
  | nil => simp [Entries.update, IsSorted]
  | cons first entries ih =>
    obtain ⟨other, held⟩ := first
    have ⟨before, rest⟩ := List.pairwise_cons.1 sorted
    simp only [Entries.update]
    split
    · rename_i less
      refine List.pairwise_cons.2 ⟨fun entry listed => ?_, sorted⟩
      rcases List.mem_cons.1 listed with rfl | listed
      · exact less
      · exact String.lt_trans less (before entry listed)
    · split
      · subst_vars
        exact List.pairwise_cons.2 ⟨before, rest⟩
      · rename_i le ne
        refine List.pairwise_cons.2 ⟨fun entry listed => ?_, ih rest⟩
        rcases fst_of_mem_update listed with same | listed
        · rw [same]; exact name_lt_of_not_lt le ne
        · obtain ⟨held, listed, same⟩ := List.mem_map.1 listed
          rw [← same]; exact before held listed

/-- A name that is less than all names has no value. -/
theorem get?_of_forall_lt {name : String} {entries : Entries α}
    (less : ∀ entry ∈ entries, name < entry.1) : get? name entries = none := by
  induction entries with
  | nil => rfl
  | cons first entries ih =>
    obtain ⟨other, held⟩ := first
    have ne : (name == other) = false :=
      beq_false_of_ne fun same => String.lt_irrefl name (same ▸ less _ List.mem_cons_self)
    simp only [get?, List.lookup_cons, ne] at ih ⊢
    exact ih fun entry listed => less entry (List.mem_cons_of_mem _ listed)

/-- An update changes the value under its name as it says. -/
theorem get?_update {name : String} {next : Option α → α} {entries : Entries α}
    (sorted : entries.IsSorted) :
    get? name (Entries.update name next entries) = some (next (get? name entries)) := by
  induction entries with
  | nil => simp [Entries.update, get?]
  | cons first entries ih =>
    obtain ⟨other, held⟩ := first
    have ⟨before, rest⟩ := List.pairwise_cons.1 sorted
    simp only [Entries.update]
    split
    · rename_i less
      have absent : get? name ((other, held) :: entries) = none := by
        refine get?_of_forall_lt fun entry listed => ?_
        rcases List.mem_cons.1 listed with rfl | listed
        · exact less
        · exact String.lt_trans less (before entry listed)
      rw [absent]; simp [get?]
    · split
      · subst_vars; simp [get?]
      · rename_i ne
        have ih := ih rest
        simp only [get?, List.lookup_cons, beq_false_of_ne ne] at ih ⊢
        exact ih

/-- An update changes nothing under other names. -/
theorem get?_update_of_ne {name other : String} {next : Option α → α} {entries : Entries α}
    (ne : other ≠ name) : get? other (update name next entries) = get? other entries := by
  induction entries with
  | nil => simp [update, get?, List.lookup_cons, beq_false_of_ne ne]
  | cons first entries ih =>
    obtain ⟨beside, held⟩ := first
    simp only [get?, update] at ih ⊢
    split
    · simp [List.lookup_cons, beq_false_of_ne ne]
    · split
      · subst_vars; simp [List.lookup_cons, beq_false_of_ne ne]
      · simp [List.lookup_cons, ih]

theorem isSorted_ofList (pairs : List (String × α)) : (ofList pairs).IsSorted := by
  have keeps (pairs : List (String × α)) (entries : Entries α) (sorted : entries.IsSorted) :
      (pairs.foldl (fun entries (name, value) => set name value entries) entries).IsSorted := by
    induction pairs generalizing entries with
    | nil => exact sorted
    | cons pair pairs ih => exact ih _ sorted.update
  exact keeps pairs [] List.Pairwise.nil

/-- Of the values that a list gives under a name, the last one counts. -/
theorem get?_ofList (pairs : List (String × α)) (name : String) :
    get? name (ofList pairs) = pairs.reverse.lookup name := by
  have last (pairs : List (String × α)) (entries : Entries α) (sorted : entries.IsSorted) :
      get? name (pairs.foldl (fun entries (name, value) => set name value entries) entries) =
        (pairs.reverse.lookup name).or (get? name entries) := by
    induction pairs generalizing entries with
    | nil => rfl
    | cons pair pairs ih =>
      obtain ⟨key, value⟩ := pair
      refine (ih (set key value entries) sorted.update).trans ?_
      rw [List.reverse_cons, List.lookup_append, Option.or_assoc]
      by_cases same : name = key
      · subst same
        rw [set, get?_update sorted]
        simp
      · rw [set, get?_update_of_ne same]
        simp [List.lookup_cons, beq_false_of_ne same]
  rw [ofList, last pairs [] List.Pairwise.nil]
  simp [get?]

end Entries

end ClientStub
