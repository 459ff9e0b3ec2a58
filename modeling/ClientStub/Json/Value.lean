import ClientStub.Decimal.Shortest

/-!
# JSON values

A JSON value as the reader builds it and the printer writes it. Whole numbers within 64 bits are kept
exact; all others are binary64 numbers. An object lists its members in the order they are written in.
-/

namespace ClientStub

inductive JsonNumber where
  | integer (value : Int)
  | real (value : Binary64)
  deriving DecidableEq, Repr

inductive Json where
  | null
  | bool (value : Bool)
  | number (value : JsonNumber)
  | string (value : String)
  | array (items : List Json)
  | object (members : List (String × Json))
  deriving Repr

instance : Inhabited Json := ⟨.null⟩

/-- The literal of a number: digits alone for an exact integer. -/
def JsonNumber.literal : JsonNumber → String
  | .integer value => toString value
  | .real value => value.compact

/-- A text, or null for none. -/
def Json.optional : Option String → Json
  | none => .null
  | some text => .string text

end ClientStub
