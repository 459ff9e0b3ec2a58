import ClientStub.Decimal.Width

/-!
# Binary64 numbers

The finite numbers of the 64-bit binary format as exact integers, and rounding into it. A magnitude is
`mantissa * 2 ^ exponent`; it is kept in the one form the format itself uses, so equal numbers have
equal parts. Rounding goes to the nearest number and a tie goes to the even mantissa.
-/

namespace ClientStub

/-- A magnitude `mantissa * 2 ^ exponent`. -/
structure Magnitude where
  mantissa : Nat
  exponent : Int
  deriving DecidableEq, Repr

/-- A finite number of the format; zero keeps its sign. -/
structure Binary64 where
  negative : Bool
  magnitude : Magnitude
  deriving DecidableEq, Repr

namespace Magnitude

/-- The least exponent of the format, that of zero and of the subnormal numbers. -/
def leastExponent : Int := -1074

/-- The exponent of the largest numbers. -/
def greatestExponent : Int := 971

def zero : Magnitude := ⟨0, leastExponent⟩

/-- `2 ^ e`, for an exponent that is not negative. -/
def twoPow (e : Int) : Nat := wordSize e.toNat

/-- `10 ^ e`, for an exponent that is not negative. -/
def tenPow (e : Int) : Nat := Nat.pow 10 e.toNat

/-- The whole number nearest to `num / den`; a half goes to the even neighbour. -/
def roundHalfEven (num den : Nat) : Nat :=
  let q := num / den
  let twice := 2 * (num % den)
  if twice > den || (twice == den && q % 2 == 1) then q + 1 else q

/-- The exponent of the highest binary place of `num / den`. -/
def binaryPlace (num den : Nat) : Int :=
  let guess : Int := (num.log2 : Int) - (den.log2 : Int)
  if num * twoPow (-guess) ≥ den * twoPow guess then guess else guess - 1

/-- The magnitude nearest to `num / den`, or none when it lies beyond the largest one. -/
def ofRatio (num den : Nat) : Option Magnitude :=
  if num = 0 then some zero
  else
    let place := binaryPlace num den
    let e := max (place - 52) leastExponent
    let m := roundHalfEven (num * twoPow (-e)) (den * twoPow e)
    let (m, e) := if m = twoPow 53 then (twoPow 52, e + 1) else (m, e)
    if e > greatestExponent then none else some ⟨m, e⟩

def ofNat (n : Nat) : Option Magnitude := ofRatio n 1

/-- The magnitude nearest to the product. -/
def mul (a b : Magnitude) : Option Magnitude :=
  let e := a.exponent + b.exponent
  ofRatio (a.mantissa * b.mantissa * twoPow e) (twoPow (-e))

/-- The magnitude nearest to the quotient; the divisor is not zero. -/
def div (a b : Magnitude) : Option Magnitude :=
  let e := a.exponent - b.exponent
  ofRatio (a.mantissa * twoPow e) (b.mantissa * twoPow (-e))

/-- The magnitude nearest to `digits * 10 ^ exponent`. Far outside the format's range the exponent
alone decides, so that the power is never written out. -/
def ofDecimal (digits : Nat) (exponent : Int) : Option Magnitude :=
  if digits = 0 then some zero
  else
    let bits := (digits.log2 : Int)
    if exponent > 400 then none
    else if exponent < -(bits + 400) then some zero
    else ofRatio (digits * tenPow exponent) (tenPow (-exponent))

end Magnitude

end ClientStub
