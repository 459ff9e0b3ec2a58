import ClientStub.Toml.Text
import ClientStub.Toml.Value

/-!
# TOML numbers

Integers in base ten, sixteen, eight and two within 64 bits, and binary64 numbers. Digits may be set apart
by single underscores.
-/

namespace ClientStub.Toml

/-- Reads a digit of a base. -/
def digitOf? (base : Nat) (c : Char) : Option Nat := (Text.hexValue? c).filter (· < base)

/-- Reads more digits of a base, with single underscores between them. -/
def readMoreDigits? (base : Nat) : Nat → Reader (List Nat)
  | 0, text => some ([], text)
  | fuel + 1, text =>
    match text with
    | '_' :: c :: rest => do
      let digit ← digitOf? base c
      let (more, rest) ← readMoreDigits? base fuel rest
      pure (digit :: more, rest)
    | ['_'] => none
    | c :: rest =>
      match digitOf? base c with
      | some digit => (readMoreDigits? base fuel rest).map fun (more, rest) => (digit :: more, rest)
      | none => some ([], text)
    | [] => some ([], [])

/-- Reads digits of a base, one at least. -/
def readDigits? (base : Nat) : Reader (List Nat) := fun text =>
  match text with
  | c :: rest => do
    let digit ← digitOf? base c
    let (more, rest) ← readMoreDigits? base rest.length rest
    pure (digit :: more, rest)
  | [] => none

/-- Reads the digits of a decimal integer, of which the first is no zero unless it is the only one. -/
def readWhole? : Reader (List Nat) := fun text =>
  match text with
  | '0' :: rest => some ([0], rest)
  | _ => readDigits? 10 text

def valueOf (base : Nat) (digits : List Nat) : Nat := digits.foldl (fun n d => n * base + d) 0

/-- Reads a sign; there is none in front of most numbers. -/
def readSign (text : List Char) : Option Bool × List Char :=
  match text with
  | '+' :: rest => (some false, rest)
  | '-' :: rest => (some true, rest)
  | _ => (none, text)

/-- Reads an exponent from its mark on, if one is there. -/
def readExponent? : Reader (Option Int) := fun text =>
  match text with
  | mark :: rest =>
    if mark = 'e' || mark = 'E' then do
      let (sign, rest) := readSign rest
      let (digits, rest) ← readDigits? 10 rest
      let power : Int := valueOf 10 digits
      pure (some (if sign = some true then -power else power), rest)
    else some (none, text)
  | [] => some (none, [])

/-- A real number; a negative one that is too large is infinite, and a positive one is a fault. -/
def realOf? (negative : Bool) (digits : List Nat) (exponent : Int) : Option Value :=
  match Magnitude.ofDecimal (valueOf 10 digits) exponent with
  | some magnitude => some (.real ⟨negative, magnitude⟩)
  | none => if negative then some (.infinite true) else none

/-- An integer within 64 bits. -/
def integerOf? (value : Int) : Option Value :=
  if fitsSigned 64 value then some (.integer value) else none

/-- Reads an integer in another base from behind its mark. -/
def readBased? (base : Nat) : Reader Value := fun text => do
  let (digits, rest) ← readDigits? base text
  let value ← integerOf? (valueOf base digits)
  pure (value, rest)

/-- Reads a number of base ten from behind its sign. -/
def readDecimal? (negative : Bool) : Reader Value := fun text => do
  let (whole, rest) ← readWhole? text
  let (fraction, rest) ← match rest with
    | '.' :: rest => (readDigits? 10 rest).map fun (digits, rest) => (some digits, rest)
    | _ => some (none, rest)
  let (exponent, rest) ← readExponent? rest
  match fraction, exponent with
  | none, none => do
    let value : Int := valueOf 10 whole
    let value ← integerOf? (if negative then -value else value)
    pure (value, rest)
  | _, _ => do
    let digits := fraction.getD []
    let value ← realOf? negative (whole ++ digits) (exponent.getD 0 - digits.length)
    pure (value, rest)

/-- Reads a number from its sign or first digit on. -/
def readNumber? : Reader Value := fun text =>
  match text with
  | '0' :: 'x' :: rest => readBased? 16 rest
  | '0' :: 'o' :: rest => readBased? 8 rest
  | '0' :: 'b' :: rest => readBased? 2 rest
  | _ =>
    let (sign, rest) := readSign text
    let negative := sign = some true
    match rest with
    | 'i' :: 'n' :: 'f' :: rest => some (.infinite negative, rest)
    | 'n' :: 'a' :: 'n' :: rest => some (.notANumber, rest)
    | _ => readDecimal? negative rest

end ClientStub.Toml
