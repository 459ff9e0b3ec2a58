import ClientStub.Decimal.Binary64

/-!
# Shortest decimal text of a binary64 number

The decimal digits that identify a number: the fewest that no other number of the format lies nearer
to, and of those the nearest to the number itself. Two layouts write them out: positional with a
decimal point always, and one that turns to scientific notation for very large and very small numbers.
-/

namespace ClientStub

/-- A positive decimal number `digits * 10 ^ exponent`. -/
structure DecimalDigits where
  digits : Nat
  exponent : Int
  deriving DecidableEq, Repr

namespace Magnitude

/-- Compares `d * 10 ^ k` with `x * 2 ^ e`. -/
def compareDecimal (d : Nat) (k : Int) (x : Nat) (e : Int) : Ordering :=
  compare (d * tenPow k * twoPow (-e)) (x * twoPow e * tenPow (-k))

/-- The exponent of the highest decimal place of a magnitude that is not zero. -/
def decimalPlace (v : Magnitude) : Int :=
  let guess := (((v.mantissa.log2 : Int) + v.exponent) * 1233) / 4096
  if compareDecimal 1 (guess + 1) v.mantissa v.exponent != .gt then guess + 1
  else if compareDecimal 1 guess v.mantissa v.exponent == .gt then guess - 1
  else guess

/-- The decimal `d * 10 ^ k` reads back as `v`: it lies between the midpoints to the neighbouring
numbers, which belong to `v` when its mantissa is even. In units of a quarter of `v`'s last place the
midpoints lie two units away, and one unit below a power of two. -/
def readsBack (v : Magnitude) (d : Nat) (k : Int) : Bool :=
  let below := if v.mantissa = twoPow 52 && v.exponent > leastExponent then 1 else 2
  let low := compareDecimal d k (4 * v.mantissa - below) (v.exponent - 2)
  let high := compareDecimal d k (4 * v.mantissa + 2) (v.exponent - 2)
  if v.mantissa % 2 = 0 then low != .lt && high != .gt else low == .gt && high == .lt

/-- Of the two multiples of `10 ^ k` around `v` the one that reads back, the nearer one if both do. -/
def nearestOnGrid (v : Magnitude) (k : Int) : Option Nat :=
  let num := v.mantissa * twoPow v.exponent * tenPow (-k)
  let den := twoPow (-v.exponent) * tenPow k
  let lower := num / den
  match readsBack v lower k, readsBack v (lower + 1) k with
  | true, true => some (roundHalfEven num den)
  | true, false => some lower
  | false, true => some (lower + 1)
  | false, false => none

/-- Drops final zeros from the digits. -/
def withoutFinalZeros : Nat → DecimalDigits → DecimalDigits
  | 0, x => x
  | fuel + 1, x =>
    if x.digits % 10 = 0 && x.digits ≠ 0 then withoutFinalZeros fuel ⟨x.digits / 10, x.exponent + 1⟩
    else x

/-- Seventeen digits always identify a number, so the search over digit counts ends there. -/
def shortestFrom (v : Magnitude) (place : Int) : Nat → Nat → DecimalDigits
  | 0, _ => ⟨v.mantissa, 0⟩
  | fuel + 1, count =>
    let k := place - (count : Int) + 1
    match nearestOnGrid v k with
    | some d => withoutFinalZeros 20 ⟨d, k⟩
    | none => shortestFrom v place fuel (count + 1)

/-- The shortest digits of a magnitude; zero has the single digit zero. -/
def shortest (v : Magnitude) : DecimalDigits :=
  if v.mantissa = 0 then ⟨0, 0⟩ else shortestFrom v (decimalPlace v) 18 1

end Magnitude

namespace DecimalDigits

private def zeros (n : Nat) : List Char := List.replicate n '0'

/-- All digits around a decimal point, with a digit on both sides of it. -/
def positional (x : DecimalDigits) : List Char :=
  let ds := Nat.toDigits 10 x.digits
  let point := (ds.length : Int) + x.exponent
  if 0 ≤ x.exponent then ds ++ zeros x.exponent.toNat ++ ['.', '0']
  else if 0 < point then ds.take point.toNat ++ '.' :: ds.drop point.toNat
  else '0' :: '.' :: zeros (-point).toNat ++ ds

/-- One digit before the point, a point only if more digits follow, and a signed power of ten. -/
def scientific (x : DecimalDigits) : List Char :=
  let ds := Nat.toDigits 10 x.digits
  let power := (ds.length : Int) - 1 + x.exponent
  let mantissa := match ds with
    | d :: e :: more => d :: '.' :: e :: more
    | short => short
  let sign := if power < 0 then '-' else '+'
  mantissa ++ 'e' :: sign :: Nat.toDigits 10 power.natAbs

/-- Positional from `0.00001` up to below `10 ^ 16`, scientific outside. -/
def compact (x : DecimalDigits) : List Char :=
  let power := ((Nat.toDigits 10 x.digits).length : Int) - 1 + x.exponent
  if -5 ≤ power ∧ power < 16 then x.positional else x.scientific

/-- A character that numbers are written with. -/
def isNumeral (c : Char) : Bool := c.isDigit || c = '.' || c = 'e' || c = '+' || c = '-'

theorem isNumeral_of_mem_toDigits {n : Nat} : ∀ c ∈ Nat.toDigits 10 n, isNumeral c = true := by
  intro c listed
  have digit := Nat.isDigit_of_mem_toDigits (by decide) (by decide) listed
  simp [isNumeral, digit]

private theorem isNumeral_of_mem_zeros {n : Nat} : ∀ c ∈ zeros n, isNumeral c = true := by
  intro c listed
  rw [List.eq_of_mem_replicate listed]
  decide

theorem isNumeral_of_mem_positional {x : DecimalDigits} : ∀ c ∈ x.positional, isNumeral c = true := by
  have digits := isNumeral_of_mem_toDigits (n := x.digits)
  unfold positional
  dsimp only
  split
  · rw [List.forall_mem_append, List.forall_mem_append, List.forall_mem_cons, List.forall_mem_singleton]
    exact ⟨⟨digits, isNumeral_of_mem_zeros⟩, by decide, by decide⟩
  · split
    · rw [List.forall_mem_append, List.forall_mem_cons]
      exact ⟨fun c listed => digits c (List.mem_of_mem_take listed), by decide,
        fun c listed => digits c (List.mem_of_mem_drop listed)⟩
    · rw [List.forall_mem_append, List.forall_mem_cons, List.forall_mem_cons]
      exact ⟨⟨by decide, by decide, isNumeral_of_mem_zeros⟩, digits⟩

theorem isNumeral_of_mem_scientific {x : DecimalDigits} : ∀ c ∈ x.scientific, isNumeral c = true := by
  have digits := isNumeral_of_mem_toDigits (n := x.digits)
  unfold scientific
  dsimp only
  rw [List.forall_mem_append, List.forall_mem_cons, List.forall_mem_cons]
  refine ⟨?_, by decide, ?_, isNumeral_of_mem_toDigits⟩
  · split
    · rename_i first second more written
      rw [written, List.forall_mem_cons] at digits
      rw [List.forall_mem_cons, List.forall_mem_cons]
      exact ⟨digits.1, by decide, digits.2⟩
    · exact digits
  · split
    · decide
    · decide

theorem isNumeral_of_mem_compact {x : DecimalDigits} : ∀ c ∈ x.compact, isNumeral c = true := by
  unfold compact
  dsimp only
  split
  · exact isNumeral_of_mem_positional
  · exact isNumeral_of_mem_scientific

end DecimalDigits

namespace Binary64

private def signed (x : Binary64) (digits : List Char) : String :=
  String.ofList (if x.negative then '-' :: digits else digits)

/-- The text of a number in a JSON document. -/
def compact (x : Binary64) : String := x.signed x.magnitude.shortest.compact

theorem isNumeral_of_mem_compact {x : Binary64} :
    ∀ c ∈ x.compact.toList, DecimalDigits.isNumeral c = true := by
  unfold compact signed
  rw [String.toList_ofList]
  split
  · rw [List.forall_mem_cons]
    exact ⟨by decide, DecimalDigits.isNumeral_of_mem_compact⟩
  · exact DecimalDigits.isNumeral_of_mem_compact

/-- The text of a number without a power of ten, however long. -/
def positional (x : Binary64) : String := x.signed x.magnitude.shortest.positional

end Binary64

end ClientStub
