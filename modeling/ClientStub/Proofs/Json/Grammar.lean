import ClientStub.Entries
import ClientStub.Json.Value
import ClientStub.Text.Quoted

/-!
# The texts of a JSON value

What a JSON text may look like, without a reader: white space between all parts, each character of a string
as itself or as any of its escapes, the members of an object in any order. The numbers are whole ones, which
have one text each.
-/

namespace ClientStub.Json

def Spaces (text : List Char) : Prop := ∀ c ∈ text, c = ' ' ∨ c = '\n' ∨ c = '\t' ∨ c = '\r'

theorem spaces_nil : Spaces [] := by simp [Spaces]

/-- A text with white space around it. -/
def Spaced (inner text : List Char) : Prop :=
  ∃ front behind, Spaces front ∧ Spaces behind ∧ text = front ++ inner ++ behind

/-- The letters that stand for a character behind a backslash. -/
def shortEscapes : List (Char × Char) :=
  [('"', '"'), ('\\', '\\'), ('/', '/'), ('b', '\x08'), ('f', '\x0c'), ('n', '\n'), ('r', '\r'), ('t', '\t')]

/-- A hexadecimal digit of either case. -/
def HexDigit (value : Nat) (c : Char) : Prop :=
  value < 16 ∧ (c = Text.hexDigit value ∨ c = (Text.hexDigit value).toUpper)

/-- The escape of a UTF-16 code unit. -/
inductive UnitText : Nat → List Char → Prop where
  | escape {a b c d : Nat} {first second third fourth : Char} (high : HexDigit a first)
      (upper : HexDigit b second) (lower : HexDigit c third) (low : HexDigit d fourth) :
      UnitText (a * 4096 + b * 256 + c * 16 + d) ['\\', 'u', first, second, third, fourth]

/-- A character between quotes: itself, a letter behind a backslash, or its code units. -/
inductive CharText : Char → List Char → Prop where
  | plain {c : Char} (notQuote : c ≠ '"') (notBackslash : c ≠ '\\') (printed : 0x20 ≤ c.toNat) : CharText c [c]
  | short {letter c : Char} (listed : (letter, c) ∈ shortEscapes) : CharText c ['\\', letter]
  | unit {c : Char} {text : List Char} (shown : UnitText c.toNat text) : CharText c text
  | pair {c : Char} {high low : Nat} {first second : List Char} (value : c.toNat = 0x10000 + high * 0x400 + low)
      (highFits : high < 0x400) (lowFits : low < 0x400) (leading : UnitText (0xD800 + high) first)
      (trailing : UnitText (0xDC00 + low) second) : CharText c (first ++ second)

inductive CharsText : List Char → List Char → Prop where
  | nil : CharsText [] []
  | cons {c : Char} {cs text more : List Char} (first : CharText c text) (rest : CharsText cs more) :
      CharsText (c :: cs) (text ++ more)

def StringText (value : String) (text : List Char) : Prop :=
  ∃ body, CharsText value.toList body ∧ text = '"' :: (body ++ ['"'])

/-- Pieces behind a comma each. -/
inductive Following {ι : Type} (piece : ι → List Char → Prop) : List ι → List Char → Prop where
  | none : Following piece [] []
  | next {item : ι} {items : List ι} {text more : List Char} (first : piece item text)
      (rest : Following piece items more) : Following piece (item :: items) (',' :: (text ++ more))

/-- Pieces with a comma between every two, or white space alone. -/
inductive Separated {ι : Type} (piece : ι → List Char → Prop) : List ι → List Char → Prop where
  | none {text : List Char} (spaces : Spaces text) : Separated piece [] text
  | some {item : ι} {items : List ι} {text more : List Char} (first : piece item text)
      (rest : Following piece items more) : Separated piece (item :: items) (text ++ more)

/-- An array, given the texts of its items. -/
def ArrayText (items : List (List Char)) (text : List Char) : Prop :=
  ∃ inside, Separated Spaced items inside ∧ text = '[' :: (inside ++ [']'])

/-- A member of an object, given its name and the text of its value. -/
def MemberText (member : String × List Char) (text : List Char) : Prop :=
  ∃ name value, (∃ inner, StringText member.1 inner ∧ Spaced inner name) ∧ Spaced member.2 value ∧
    text = name ++ ':' :: value

/-- An object, given the names of its members in their order with the text of each value. -/
def ObjectText (members : List (String × List Char)) (text : List Char) : Prop :=
  ∃ inside, Separated MemberText members inside ∧ text = '\x7b' :: (inside ++ ['\x7d'])

/-- The texts of a value. -/
inductive ValueText : Json → List Char → Prop where
  | null : ValueText .null "null".toList
  | bool (value : Bool) : ValueText (.bool value) (toString value).toList
  | integer (value : Int) : ValueText (.number (.integer value)) (toString value).toList
  | string {value : String} {text : List Char} (shown : StringText value text) : ValueText (.string value) text
  | array {shown : List (Json × List Char)} {text : List Char}
      (each : ∀ item ∈ shown, ValueText item.1 item.2) (whole : ArrayText (shown.map Prod.snd) text) :
      ValueText (.array (shown.map Prod.fst)) text
  | object {members : List (String × Json)} {shown : List ((String × Json) × List Char)} {text : List Char}
      (order : (shown.map Prod.fst).Perm members) (each : ∀ member ∈ shown, ValueText member.1.2 member.2)
      (whole : ObjectText (shown.map fun member => (member.1.1, member.2)) text) :
      ValueText (.object members) text

/-- A value as a reader keeps it: whole numbers of 64 bits, the members of an object in the order of their
names, and at most `depth` arrays and objects inside one another. -/
inductive Stored : Nat → Json → Prop where
  | null {depth : Nat} : Stored depth .null
  | bool {depth : Nat} (value : Bool) : Stored depth (.bool value)
  | integer {depth : Nat} {value : Int} (fits : fitsWord 64 value) : Stored depth (.number (.integer value))
  | string {depth : Nat} (value : String) : Stored depth (.string value)
  | array {depth : Nat} {items : List Json} (each : ∀ item ∈ items, Stored depth item) :
      Stored (depth + 1) (.array items)
  | object {depth : Nat} {members : List (String × Json)} (sorted : Entries.IsSorted members)
      (each : ∀ member ∈ members, Stored depth member.2) : Stored (depth + 1) (.object members)

end ClientStub.Json
