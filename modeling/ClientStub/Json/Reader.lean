import ClientStub.Json.Value
import ClientStub.Mismatch
import ClientStub.Text.Quoted

/-!
# Reading JSON

Readers take the text from where they stand and return what they read with the text that follows.
Reading is one pass from left to right: of two faults in a document the first one is reported, whether
it is a fault of the text or a mismatch with the wanted shape. A text that ends inside a value is told
apart from one that goes wrong before its end.

A value that is skipped is held to the grammar only. A value that is read must also have numbers within
range and paired surrogates in its strings, and must not lie too deep.
-/

namespace ClientStub.Json

/-- Why a JSON document could not be read. -/
inductive Failure where
  | malformed
  | cutShort
  | mismatch (fault : Mismatch)
  deriving DecidableEq, Repr

abbrev Reader (α : Type) := List Char → Except Failure (α × List Char)

/-- Arrays and objects may lie this deep inside one another. -/
def nestingLimit : Nat := 127

def isSpace (c : Char) : Bool := c = ' ' || c = '\n' || c = '\t' || c = '\r'

def skipSpace (text : List Char) : List Char := text.dropWhile isSpace

def isDigit (c : Char) : Bool := c.isDigit

/-- Reads the given characters and nothing else. -/
def readExactly : List Char → List Char → Except Failure (List Char)
  | [], text => .ok text
  | _ :: _, [] => .error .cutShort
  | wanted :: more, c :: text => if c = wanted then readExactly more text else .error .malformed

/-- What a backslash and one letter stand for, the letter u apart. -/
def shortEscape? (c : Char) : Option Char :=
  match c with
  | '"' => some '"'
  | '\\' => some '\\'
  | '/' => some '/'
  | 'b' => some '\x08'
  | 'f' => some '\x0c'
  | 'n' => some '\n'
  | 'r' => some '\r'
  | 't' => some '\t'
  | _ => none

def byteLength (text : List Char) : Nat := text.foldl (fun n c => n + c.utf8Size) 0

/-- Reads four hexadecimal digits. The text is cut short when fewer than four bytes are left. -/
def readHex4 : Reader Nat
  | a :: b :: c :: d :: text =>
    match Text.hexValue? a, Text.hexValue? b, Text.hexValue? c, Text.hexValue? d with
    | some a, some b, some c, some d => .ok (a * 4096 + b * 256 + c * 16 + d, text)
    | _, _, _, _ => .error .malformed
  | text => if byteLength text < 4 then .error .cutShort else .error .malformed

theorem readHex4_length {text rest : List Char} {n : Nat} (read : readHex4 text = .ok (n, rest)) :
    rest.length < text.length := by
  unfold readHex4 at read
  split at read
  · split at read
    · cases read; simp; omega
    · cases read
  · split at read <;> cases read

/-- Reads what follows the first unit of a surrogate pair: a second escape, of a unit that completes
the pair. -/
def readSecondUnit (high : Nat) : Reader Char
  | [] => .error .cutShort
  | '\\' :: [] => .error .cutShort
  | '\\' :: 'u' :: text =>
    match readHex4 text with
    | .error e => .error e
    | .ok (low, rest) =>
      if 0xDC00 ≤ low ∧ low ≤ 0xDFFF then
        .ok (Char.ofNat (0x10000 + (high - 0xD800) * 0x400 + (low - 0xDC00)), rest)
      else .error .malformed
  | _ => .error .malformed

/-- Reads the character of a numeric escape, from its first digit on. -/
def readUnicodeEscape : Reader Char := fun text =>
  match readHex4 text with
  | .error e => .error e
  | .ok (unit, rest) =>
    if 0xD800 ≤ unit ∧ unit ≤ 0xDBFF then readSecondUnit unit rest
    else if 0xDC00 ≤ unit ∧ unit ≤ 0xDFFF then .error .malformed
    else .ok (Char.ofNat unit, rest)

theorem readSecondUnit_length {high : Nat} {text rest : List Char} {c : Char}
    (read : readSecondUnit high text = .ok (c, rest)) : rest.length < text.length := by
  unfold readSecondUnit at read
  split at read
  · contradiction
  · contradiction
  · split at read
    · contradiction
    · rename_i second
      have shorter := readHex4_length second
      split at read
      · simp only [Except.ok.injEq, Prod.mk.injEq] at read
        rw [← read.2, List.length_cons, List.length_cons]
        omega
      · contradiction
  · contradiction

theorem readUnicodeEscape_length {text rest : List Char} {c : Char}
    (read : readUnicodeEscape text = .ok (c, rest)) : rest.length < text.length := by
  unfold readUnicodeEscape at read
  split at read
  · contradiction
  · rename_i first
    have shorter := readHex4_length first
    split at read
    · exact Nat.lt_trans (readSecondUnit_length read) shorter
    · split at read
      · contradiction
      · simp only [Except.ok.injEq, Prod.mk.injEq] at read
        rw [← read.2]
        exact shorter

/-- Reads a string from behind its opening quote to behind its closing one. -/
def readStringBody (text : List Char) : Except Failure (List Char × List Char) :=
  match text with
  | [] => .error .cutShort
  | '"' :: rest => .ok ([], rest)
  | '\\' :: [] => .error .cutShort
  | '\\' :: 'u' :: rest =>
    match _read : readUnicodeEscape rest with
    | .error e => .error e
    | .ok (c, after) => (readStringBody after).map fun (cs, last) => (c :: cs, last)
  | '\\' :: letter :: rest =>
    match shortEscape? letter with
    | none => .error .malformed
    | some c => (readStringBody rest).map fun (cs, last) => (c :: cs, last)
  | c :: rest =>
    if c.toNat < 0x20 then .error .malformed
    else (readStringBody rest).map fun (cs, last) => (c :: cs, last)
termination_by text.length
decreasing_by
  · have := readUnicodeEscape_length _read; simp; omega
  all_goals (simp only [List.length_cons]; omega)

def readText : Reader String := fun text =>
  (readStringBody text).map fun (cs, rest) => (String.ofList cs, rest)

/-- Skips a string from behind its opening quote to behind its closing one. -/
def skipStringBody (text : List Char) : Except Failure (List Char) :=
  match text with
  | [] => .error .cutShort
  | '"' :: rest => .ok rest
  | '\\' :: [] => .error .cutShort
  | '\\' :: 'u' :: rest =>
    match _read : readHex4 rest with
    | .error e => .error e
    | .ok (_, after) => skipStringBody after
  | '\\' :: letter :: rest =>
    match shortEscape? letter with
    | none => .error .malformed
    | some _ => skipStringBody rest
  | c :: rest => if c.toNat < 0x20 then .error .malformed else skipStringBody rest
termination_by text.length
decreasing_by
  · have := readHex4_length _read; simp; omega
  all_goals (simp only [List.length_cons]; omega)

/-- The digits before a number's point or exponent that fit into 64 bits. -/
structure Significand where
  value : Nat
  /-- How many digits were taken into the value. -/
  taken : Nat
  deriving DecidableEq, Repr

/-- Takes digits into a significand until the text has no more of them or the next one would exceed
64 bits. -/
def takeDigits (s : Significand) : List Char → Significand × List Char
  | [] => (s, [])
  | c :: text =>
    if isDigit c then
      let value := s.value * 10 + (c.toNat - 48)
      if value < wordSize 64 then takeDigits ⟨value, s.taken + 1⟩ text else (s, c :: text)
    else (s, c :: text)

/-- `significand * 10 ^ exponent` as a magnitude, rounded after each of its steps: the significand, the
power, and their product or quotient. Quotients below the least power are taken in two or more steps.
There is none for a number out of range. -/
def realFromParts (significand : Nat) (exponent : Int) : Option Magnitude := do
  steps 4 (← Magnitude.ofNat significand) exponent
where
  steps : Nat → Magnitude → Int → Option Magnitude
    | 0, _, _ => some Magnitude.zero
    | fuel + 1, m, e =>
      if e.natAbs ≤ 308 then do
        let power ← Magnitude.ofDecimal 1 (e.natAbs : Int)
        if 0 ≤ e then m.mul power else m.div power
      else if m.mantissa = 0 then some m
      else if 0 ≤ e then none
      else do
        let power ← Magnitude.ofDecimal 1 308
        steps fuel (← m.div power) (e + 308)

def finishReal (negative : Bool) (significand : Nat) (exponent : Int) (rest : List Char) :
    Except Failure (JsonNumber × List Char) :=
  match realFromParts significand exponent with
  | some m => .ok (.real ⟨negative, m⟩, rest)
  | none => .error .malformed

/-- Exponents beyond 32 bits are out of range whatever their digits. -/
def greatestPower : Nat := wordSize 31 - 1

/-- Reads an exponent from behind its mark. -/
def readExponent (negative : Bool) (significand : Nat) (start : Int) : Reader JsonNumber := fun text =>
  let (down, text) := match text with
    | '+' :: rest => (false, rest)
    | '-' :: rest => (true, rest)
    | _ => (false, text)
  match text with
  | [] => .error .cutShort
  | c :: _ =>
    if !isDigit c then .error .malformed
    else
      let (digits, rest) := text.span isDigit
      let power := digits.foldl (fun n d => n * 10 + (d.toNat - 48)) 0
      if greatestPower < power then
        if significand ≠ 0 && !down then .error .malformed
        else .ok (.real ⟨negative, Magnitude.zero⟩, rest)
      else finishReal negative significand (if down then start - power else start + power) rest

/-- Reads what follows the digits of a number that is no integer: an exponent or nothing. -/
def readAfterDigits (negative : Bool) (significand : Nat) (exponent : Int) : Reader JsonNumber := fun text =>
  match text with
  | 'e' :: rest => readExponent negative significand exponent rest
  | 'E' :: rest => readExponent negative significand exponent rest
  | _ => finishReal negative significand exponent text

/-- Reads the digits behind a decimal point, of which there is at least one. -/
def readFraction (negative : Bool) (significand : Nat) (exponent : Int) : Reader JsonNumber := fun text =>
  match text with
  | [] => .error .cutShort
  | c :: _ =>
    if !isDigit c then .error .malformed
    else
      let (s, rest) := takeDigits ⟨significand, 0⟩ text
      readAfterDigits negative s.value (exponent - s.taken) (rest.dropWhile isDigit)

/-- Reads a number from behind its sign. Zero with a sign is a real number, as is every number that has
a point, an exponent, or more digits than fit. -/
def readNumber (negative : Bool) : Reader JsonNumber := fun text =>
  match text with
  | [] => .error .cutShort
  | c :: after =>
    if !isDigit c then .error .malformed
    else if c = '0' && (after.head?.map isDigit).getD false then .error .malformed
    else
      let (s, rest) := takeDigits ⟨0, 0⟩ text
      let (more, rest) := rest.span isDigit
      match rest with
      | '.' :: fraction => readFraction negative s.value more.length fraction
      | 'e' :: power => readExponent negative s.value more.length power
      | 'E' :: power => readExponent negative s.value more.length power
      | _ =>
        if !more.isEmpty then finishReal negative s.value more.length rest
        else if !negative then .ok (.integer s.value, rest)
        else if s.value = 0 || wordSize 63 < s.value then finishReal true s.value 0 rest
        else .ok (.integer (-(s.value : Int)), rest)

end ClientStub.Json
