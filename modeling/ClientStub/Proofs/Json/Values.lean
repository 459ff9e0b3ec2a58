import ClientStub.Proofs.Entries
import ClientStub.Proofs.Json.Numbers

/-!
# Reading and skipping values

Every text of a value that a reader can keep is read as that value, and every text of any value is skipped whole.
The objects of a text may have their members in any order, for the reader puts them in the order of their names.
-/

namespace ClientStub.Json

theorem readValue_digit {c : Char} (digit : isDigit c = true) (depth : Nat) {text rest : List Char}
    (reached : skipSpace text = c :: rest) :
    readValue depth text = (readNumber false (c :: rest)).map fun (n, rest) => (.number n, rest) := by
  unfold readValue
  rw [reached]
  split <;> simp_all [isDigit]

theorem reads_readValue_integer {value : Int} (fits : fitsWord 64 value = true) (depth : Nat) :
    Reads (readValue depth) (.number (.integer value)) (toString value).toList := by
  rw [fitsWord, Bool.and_eq_true, decide_eq_true_eq, decide_eq_true_eq, Nat.add_one_sub_one] at fits
  rw [toList_toString_int]
  split
  · obtain ⟨c, more, shown, digit, _⟩ := toDigits_eq_cons value.toNat
    rw [shown]
    obtain ⟨solid, notClosing⟩ := isSpace_of_isDigit digit
    refine reads_of_skipSpace solid notClosing fun {text rest} stops reached => ?_
    have small : value.toNat < wordSize 64 := by omega
    have read := readNumber_toDigits false small stops
    rw [shown, List.cons_append] at read
    rw [readValue_digit digit depth reached, read]
    have same : (value.toNat : Int) = value := by omega
    simp [Except.map, same]
  · refine reads_of_skipSpace (by decide) (by decide) fun {text rest} stops reached => ?_
    have bound : wordSize 63 < wordSize 64 := by decide
    have small : (-value).toNat < wordSize 64 := by omega
    unfold readValue
    rw [reached]
    change (readNumber true (Nat.toDigits 10 (-value).toNat ++ rest)).map _ = _
    have ordinary : ¬((-value).toNat = 0 || wordSize 63 < (-value).toNat) = true := by
      rw [Bool.or_eq_true, decide_eq_true_eq, decide_eq_true_eq]
      omega
    have same : -((-value).toNat : Int) = value := by omega
    rw [readNumber_toDigits true small stops, if_neg (by decide), if_neg ordinary, same]
    rfl

/-- The members of a text are put one after the other under their names. -/
theorem takes_set {reader : Reader Json} {shown : List ((String × Json) × List Char)}
    (each : ∀ member ∈ shown, Reads reader member.1.2 member.2) (held : Entries Json) :
    Takes (fun held name text => (reader text).map fun (value, rest) => (Entries.set name value held, rest)) held
      (shown.map fun member => (member.1.1, member.2))
      ((shown.map Prod.fst).foldl (fun entries (name, value) => Entries.set name value entries) held) := by
  induction shown generalizing held with
  | nil => exact .none
  | cons member shown ih =>
    rw [List.forall_mem_cons] at each
    refine .next (each.1.of_eq_ok fun {text rest} read => ?_) (ih each.2 _)
    rw [read]
    rfl

/-- Every text of a value that lies no deeper than the reader goes is read as that value. -/
theorem reads_readValue {value : Json} {text : List Char} (shown : ValueText value text) {depth : Nat}
    (stored : Stored depth value) : Reads (readValue depth) value text := by
  induction shown generalizing depth with
  | null =>
    refine reads_word (by decide) (by decide) fun {text rest} reached => ?_
    unfold readValue
    rw [reached]
    rfl
  | bool value =>
    cases value with
    | false =>
      refine reads_word (by decide) (by decide) fun {text rest} reached => ?_
      unfold readValue
      rw [reached]
      rfl
    | true =>
      refine reads_word (by decide) (by decide) fun {text rest} reached => ?_
      unfold readValue
      rw [reached]
      rfl
  | integer value =>
    cases stored with
    | integer fits => exact reads_readValue_integer fits depth
  | string shown =>
    obtain ⟨body, rfl, named⟩ := shown.body
    refine reads_of_skipSpace (by decide) (by decide) fun {text rest} _ reached => ?_
    unfold readValue
    rw [reached]
    change (readText (body ++ rest)).map _ = _
    rw [(named rest).1]
    rfl
  | @array shown _ _ whole ih =>
    cases stored with
    | @array inner _ fits =>
      obtain ⟨inside, pieces, rfl⟩ := whole
      refine reads_of_skipSpace (by decide) (by decide) fun {text rest} _ reached => ?_
      unfold readValue
      rw [reached, List.append_assoc]
      change (readArrayBody (readValue inner) (inside ++ ']' :: rest)).map _ = _
      have each : List.Forall₂ (Reads (readValue inner)) (shown.map Prod.fst) (shown.map Prod.snd) := by
        rw [List.forall₂_map_left_iff, List.forall₂_map_right_iff, List.forall₂_same]
        exact fun item listed => ih item listed (fits item.1 (List.mem_map_of_mem listed))
      rw [readArrayBody_append pieces each]
      rfl
  | object order _ whole ih =>
    cases stored with
    | object sorted fits =>
      obtain ⟨inside, pieces, rfl⟩ := whole
      refine reads_of_skipSpace (by decide) (by decide) fun {text rest} _ reached => ?_
      unfold readValue
      rw [reached, List.append_assoc]
      have each := fun member listed =>
        ih member listed (fits member.1 (order.mem_iff.1 (List.mem_map_of_mem listed)))
      have taken := takes_set each []
      rw [← Entries.ofList, Entries.ofList_eq_of_perm order sorted] at taken
      change readObjectBody [] _ (fun members => .ok (Json.object members)) _ = _
      apply readObjectBody_append taken _ pieces rest
      rfl

end ClientStub.Json
