import ClientStub.Proofs.Json.Reading
import Mathlib.Data.List.TakeDrop

/-!
# Reading whole numbers

The digits of a natural number are read as the number where 64 bits hold it, and skipped whatever it is.
-/

namespace ClientStub.Json

theorem isSpace_of_isDigit {c : Char} (digit : isDigit c = true) : isSpace c = false ∧ c ≠ ']' := by
  constructor
  · rw [Bool.eq_false_iff]
    intro space
    simp only [isSpace, Bool.or_eq_true, decide_eq_true_eq] at space
    rcases space with ((rfl | rfl) | rfl) | rfl <;> contradiction
  · rintro rfl
    contradiction

theorem digits_of_toDigits (n : Nat) : ∀ c ∈ Nat.toDigits 10 n, isDigit c = true := by
  intro c listed
  exact Nat.isDigit_of_mem_toDigits (by decide) (by decide) listed

/-- Only zero begins with the digit zero. -/
theorem eq_zero_of_toDigits {n : Nat} {more : List Char} (shown : Nat.toDigits 10 n = '0' :: more) : n = 0 := by
  induction n using Nat.strongRecOn generalizing more with
  | ind n ih =>
    rcases Nat.lt_or_ge n 10 with small | large
    · have table : ∀ digit < 10, digit.digitChar = '0' → digit = 0 := by decide
      rw [Nat.toDigits_of_lt_base small, List.cons.injEq] at shown
      exact table n small shown.1
    · rw [Nat.toDigits_of_base_le (by decide) large] at shown
      obtain ⟨c, front, leading⟩ := List.exists_cons_of_ne_nil (Nat.toDigits_ne_nil (n := n / 10) (b := 10))
      rw [leading, List.cons_append, List.cons.injEq] at shown
      rw [shown.1] at leading
      have tenth := ih (n / 10) (by omega) leading
      omega

/-- A number is a first digit and more of them, of which a zero has none. -/
theorem toDigits_eq_cons (n : Nat) :
    ∃ c more, Nat.toDigits 10 n = c :: more ∧ isDigit c = true ∧ (c = '0' → more = []) := by
  obtain ⟨c, more, shown⟩ := List.exists_cons_of_ne_nil (Nat.toDigits_ne_nil (n := n) (b := 10))
  refine ⟨c, more, shown, digits_of_toDigits n c (by simp [shown]), fun zero => ?_⟩
  rw [zero] at shown
  rw [eq_zero_of_toDigits shown, Nat.toDigits_zero, List.cons.injEq] at shown
  exact shown.2.symm

theorem le_ofDigitChars (digits : List Char) (start : Nat) : start ≤ Nat.ofDigitChars 10 digits start := by
  induction digits generalizing start with
  | nil => exact Nat.le_refl start
  | cons c digits ih =>
    rw [Nat.ofDigitChars_cons]
    have more := ih (10 * start + (c.toNat - '0'.toNat))
    omega

theorem span_of_stops {rest : List Char} (stops : Stops rest) : rest.span isDigit = ([], rest) := by
  cases rest with
  | nil => rfl
  | cons c rest => simp [List.span_eq_takeWhile_dropWhile, (stops c rfl).1]

theorem dropWhile_digits {digits rest : List Char} (each : ∀ c ∈ digits, isDigit c = true) (stops : Stops rest) :
    (digits ++ rest).dropWhile isDigit = rest := by
  rw [List.dropWhile_append_of_pos each]
  cases rest with
  | nil => rfl
  | cons c rest => simp [(stops c rfl).1]

theorem takeDigits_append {digits rest : List Char} (each : ∀ c ∈ digits, isDigit c = true) (stops : Stops rest)
    (value taken : Nat) (small : Nat.ofDigitChars 10 digits value < wordSize 64) :
    takeDigits ⟨value, taken⟩ (digits ++ rest) =
      (⟨Nat.ofDigitChars 10 digits value, taken + digits.length⟩, rest) := by
  induction digits generalizing value taken with
  | nil =>
    cases rest with
    | nil => rfl
    | cons c rest => simp [takeDigits, (stops c rfl).1, Nat.ofDigitChars]
  | cons c digits ih =>
    rw [List.forall_mem_cons] at each
    rw [Nat.ofDigitChars_cons] at small ⊢
    have digit : value * 10 + (c.toNat - 48) = 10 * value + (c.toNat - '0'.toNat) := by
      rw [Nat.mul_comm]
      rfl
    have bound := Nat.lt_of_le_of_lt (le_ofDigitChars digits _) small
    rw [List.cons_append, takeDigits, if_pos each.1]
    dsimp only
    rw [digit, if_pos bound, ih each.2 _ _ small, List.length_cons, Nat.add_right_comm, Nat.add_assoc]

theorem noLeadingZero {c : Char} {more rest : List Char} (alone : c = '0' → more = []) (stops : Stops rest) :
    ¬(c = '0' && ((more ++ rest).head?.map isDigit).getD false) = true := by
  by_cases zero : c = '0'
  · rw [alone zero]
    cases rest with
    | nil => simp
    | cons first rest => simp [(stops first rfl).1]
  · simp [zero]

theorem readNumber_toDigits {n : Nat} (negative : Bool) (small : n < wordSize 64) {rest : List Char}
    (stops : Stops rest) :
    readNumber negative (Nat.toDigits 10 n ++ rest) =
      if !negative then .ok (.integer n, rest)
      else if n = 0 || wordSize 63 < n then finishReal true n 0 rest
      else .ok (.integer (-(n : Int)), rest) := by
  have value : Nat.ofDigitChars 10 (Nat.toDigits 10 n) 0 = n := Nat.ofDigitChars_toDigits (by decide) (by decide)
  have taken := takeDigits_append (digits_of_toDigits n) stops 0 0 (by rwa [value])
  rw [value] at taken
  obtain ⟨c, more, shown, digit, alone⟩ := toDigits_eq_cons n
  rw [shown, List.cons_append] at taken ⊢
  rw [readNumber]
  dsimp only
  rw [if_neg (by simp [digit]), if_neg (noLeadingZero alone stops), taken]
  dsimp only
  rw [span_of_stops stops]
  dsimp only
  -- What follows is neither a point nor an exponent.
  split
  · exact absurd rfl (stops _ rfl).2.1
  · exact absurd rfl (stops _ rfl).2.2.1
  · exact absurd rfl (stops _ rfl).2.2.2
  · rfl

theorem skipFraction_of_stops {rest : List Char} (stops : Stops rest) : skipNumber.fraction rest = .ok rest := by
  have exponent : skipNumber.exponent rest = .ok rest := by
    unfold skipNumber.exponent
    split
    · exact absurd rfl (stops _ rfl).2.2.1
    · exact absurd rfl (stops _ rfl).2.2.2
    · rfl
  unfold skipNumber.fraction
  split
  · exact absurd rfl (stops _ rfl).2.1
  · exact absurd rfl (stops _ rfl).2.1
  · exact exponent

theorem skipNumber_toDigits (n : Nat) {rest : List Char} (stops : Stops rest) :
    skipNumber (Nat.toDigits 10 n ++ rest) = .ok rest := by
  obtain ⟨c, more, shown, digit, alone⟩ := toDigits_eq_cons n
  have digits := digits_of_toDigits n
  rw [shown, List.forall_mem_cons] at digits
  rw [shown, List.cons_append]
  unfold skipNumber
  split
  · rename_i behind zero
    rw [List.cons.injEq] at zero
    have nothing := noLeadingZero alone stops
    rw [alone zero.1, List.nil_append] at zero nothing
    rw [← zero.2, if_neg (by simpa [zero.1] using nothing), skipFraction_of_stops stops]
  · rename_i first behind _ same
    rw [List.cons.injEq] at same
    rw [← same.1, ← same.2, if_pos digit, dropWhile_digits digits.2 stops, skipFraction_of_stops stops]
  · contradiction

theorem toList_toString_int (value : Int) :
    (toString value).toList =
      if 0 ≤ value then Nat.toDigits 10 value.toNat else '-' :: Nat.toDigits 10 (-value).toNat := by
  rw [Int.toString_eq_repr, Int.repr_eq_if]
  split
  · exact Nat.toList_repr
  · rw [String.toList_append, Nat.toList_repr]
    rfl

end ClientStub.Json
