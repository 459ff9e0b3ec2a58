import ClientStub.Text.Shown

/-!
# Mismatches between a document and its shape

A catalog or a configuration is read from a JSON, YAML or TOML document. A document that is well formed
but does not have the wanted shape has one of these faults, whatever its format.
-/

namespace ClientStub

/-- What a document holds in some place. `unit` is the absent value of a format without a null, and
`tagged` a value under an application's own tag. -/
inductive Found where
  | null
  | unit
  | bool (value : Bool)
  | integer (value : Int)
  | wideInteger (value : Int)
  | number (text : String)
  | text (value : String)
  | sequence
  | map
  | tagged
  deriving DecidableEq, Repr

/-- What the shape wants in some place. -/
inductive Wanted where
  | text
  | bool
  | sequence
  | map
  | record (name : String)
  | anyValue
  | memberName
  | fieldName
  deriving DecidableEq, Repr

/-- Why a well-formed document does not have the wanted shape. -/
inductive Mismatch where
  | missingField (name : String)
  | duplicateField (name : String)
  | wrongType (found : Found) (wanted : Wanted)
  | wrongValue (found : Found) (wanted : String)
  | wrongLength (length : Nat) (record : String) (fields : Nat)
  deriving DecidableEq, Repr

def Found.message : Found → String
  | .null => "null"
  | .unit => "unit value"
  | .bool value => "boolean `" ++ toString value ++ "`"
  | .integer value => "integer `" ++ toString value ++ "`"
  | .wideInteger value =>
    "integer `" ++ toString value ++ "` as " ++ (if value < 0 then "i128" else "u128")
  | .number digits => "floating point `" ++ digits ++ "`"
  | .text value => "string " ++ Text.shown value
  | .sequence => "sequence"
  | .map => "map"
  | .tagged => "enum"

def Wanted.message : Wanted → String
  | .text => "a string"
  | .bool => "a boolean"
  | .sequence => "a sequence"
  | .map => "a map"
  | .record name => "struct " ++ name
  | .anyValue => "any valid JSON value"
  | .memberName => "a string key"
  | .fieldName => "field identifier"

def Mismatch.message : Mismatch → String
  | .missingField name => "missing field `" ++ name ++ "`"
  | .duplicateField name => "duplicate field `" ++ name ++ "`"
  | .wrongType found wanted => "invalid type: " ++ found.message ++ ", expected " ++ wanted.message
  | .wrongValue found wanted => "invalid value: " ++ found.message ++ ", expected " ++ wanted
  | .wrongLength length record fields =>
    "invalid length " ++ toString length ++ ", expected struct " ++ record ++ " with "
      ++ toString fields ++ (if fields = 1 then " element" else " elements")

/-- A field that a record must have. -/
def requiredField {α : Type} (name : String) : Option α → Except Mismatch α
  | none => .error (.missingField name)
  | some value => .ok value

end ClientStub
