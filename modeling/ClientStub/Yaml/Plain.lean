import ClientStub.Decimal.Shortest
import ClientStub.Text.Quoted

/-!
# What plain scalars stand for

A plain scalar of an untyped place stands for null, a boolean or a number if it is written like one, and
for its text otherwise. Integers may be written in base two, eight, ten or sixteen and have up to 128
bits. Digits behind a leading zero are text.
-/

namespace ClientStub.Yaml

inductive PlainValue where
  | null
  | bool (value : Bool)
  | integer (value : Int)
  | real (value : Binary64)
  | infinite (negative : Bool)
  | notANumber
  | text
  deriving DecidableEq, Repr

def isNullWord (word : String) : Bool := word = "null" || word = "Null" || word = "NULL" || word = "~"

def boolWord? (word : String) : Option Bool :=
  if word = "true" || word = "True" || word = "TRUE" then some true
  else if word = "false" || word = "False" || word = "FALSE" then some false
  else none

private def isSign (c : Char) : Bool := c = '+' || c = '-'

/-- Digits behind a leading zero. -/
def isZeroLed (word : List Char) : Bool :=
  match (if word.head?.any isSign then word.drop 1 else word) with
  | '0' :: rest => !rest.isEmpty && rest.all Char.isDigit
  | _ => false

/-- The number that digits of a base write, of which there is at least one. -/
def naturalOf? (base : Nat) (digits : List Char) : Option Nat :=
  if digits.isEmpty then none
  else digits.foldl
    (fun value? c => do
      let value ← value?
      let digit ← Text.hexValue? c
      if digit < base then some (value * base + digit) else none)
    (some 0)

/-- A number without its sign, in any of the bases. -/
def unsignedOf? (word : List Char) : Option Nat :=
  match word with
  | '0' :: 'x' :: digits => naturalOf? 16 digits
  | '0' :: 'o' :: digits => naturalOf? 8 digits
  | '0' :: 'b' :: digits => naturalOf? 2 digits
  | _ => if isZeroLed word then none else naturalOf? 10 word

/-- The integer of at most 128 bits that a word writes. -/
def integerOf? (word : List Char) : Option Int :=
  match word with
  | '-' :: rest => ((unsignedOf? rest).map fun n => -(n : Int)).filter (fitsWord 128)
  | _ =>
    let rest := if word.head? = some '+' then word.drop 1 else word
    ((unsignedOf? rest).map Int.ofNat).filter (fitsWord 128)

/-- The exponent that a word ends with, from behind its mark. -/
def exponentOf? (word : List Char) : Option Int :=
  match word with
  | '-' :: digits => (naturalOf? 10 digits).map fun n => -(n : Int)
  | '+' :: digits => (naturalOf? 10 digits).map Int.ofNat
  | digits => (naturalOf? 10 digits).map Int.ofNat

/-- The magnitude that a word without a sign writes: digits around a point, one at least, and perhaps an
exponent. There is none beyond the largest number. -/
def magnitudeOf? (word : List Char) : Option Magnitude := do
  let (whole, rest) := word.span Char.isDigit
  let (fraction, rest) := match rest with
    | '.' :: more => more.span Char.isDigit
    | _ => ([], rest)
  let digits ← naturalOf? 10 (whole ++ fraction)
  let power ← match rest with
    | [] => some 0
    | mark :: more => if mark = 'e' || mark = 'E' then exponentOf? more else none
  Magnitude.ofDecimal digits (power - fraction.length)

/-- The finite number that a word writes. -/
def realOf? (word : List Char) : Option Binary64 :=
  match word with
  | '-' :: rest => (magnitudeOf? rest).map fun m => ⟨true, m⟩
  | '+' :: rest => (magnitudeOf? rest).map fun m => ⟨false, m⟩
  | _ => (magnitudeOf? word).map fun m => ⟨false, m⟩

/-- The value of a word that writes a real number, finite or not. -/
def floatOf? (word : String) : Option PlainValue :=
  if [".inf", ".Inf", ".INF", "+.inf", "+.Inf", "+.INF"].contains word then some (.infinite false)
  else if ["-.inf", "-.Inf", "-.INF"].contains word then some (.infinite true)
  else if [".nan", ".NaN", ".NAN"].contains word then some .notANumber
  else (realOf? word.toList).map .real

/-- What a plain scalar of an untyped place stands for. -/
def PlainValue.ofText (word : String) : PlainValue :=
  if word = "" || isNullWord word then .null
  else match boolWord? word with
    | some value => .bool value
    | none =>
      match integerOf? word.toList with
      | some value => .integer value
      | none => if isZeroLed word.toList then .text else (floatOf? word).getD .text

end ClientStub.Yaml
