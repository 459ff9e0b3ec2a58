import ClientStub.Json.Value
import ClientStub.Text.Quoted
import ClientStub.Text.Lines

/-!
# Printing JSON

A value as an indented document: two spaces for each level, one item or member a line, and empty arrays
and objects on one line.
-/

namespace ClientStub.Json

/-- The escape or the character itself that stands for `c` in a JSON string. -/
def escapeChar (c : Char) : List Char :=
  match c with
  | '"' => ['\\', '"']
  | '\\' => ['\\', '\\']
  | '\x08' => ['\\', 'b']
  | '\x0c' => ['\\', 'f']
  | '\n' => ['\\', 'n']
  | '\r' => ['\\', 'r']
  | '\t' => ['\\', 't']
  | c => if c.toNat < 0x20 then '\\' :: 'u' :: Text.hex4 c.toNat else [c]

def quoted (text : String) : String :=
  String.ofList ('"' :: text.toList.flatMap escapeChar ++ ['"'])

private def margin (level : Nat) : String := String.ofList (List.replicate (2 * level) ' ')

/-- Lines between brackets, each one level deeper than the brackets themselves. -/
private def bracketed (level : Nat) (opening closing : String) (entries : List String) : String :=
  opening ++ "\n" ++ Text.join ",\n" (entries.map (margin (level + 1) ++ ·)) ++ "\n" ++ margin level
    ++ closing

theorem bracketed_eq (level : Nat) (opening closing : String) (entries : List String) :
    bracketed level opening closing entries =
      opening ++ "\n" ++
        Text.join ",\n" (entries.map (String.ofList (List.replicate (2 * (level + 1)) ' ') ++ ·)) ++ "\n" ++
        String.ofList (List.replicate (2 * level) ' ') ++ closing := rfl

mutual

/-- A value that stands at the given level of nesting. -/
def prettyAt (level : Nat) : Json → String
  | .null => "null"
  | .bool value => toString value
  | .number value => value.literal
  | .string value => quoted value
  | .array [] => "[]"
  | .array (item :: items) => bracketed level "[" "]" (prettyItems (level + 1) (item :: items))
  | .object [] => "\x7b\x7d"
  | .object (entry :: members) =>
    bracketed level "\x7b" "\x7d" (prettyMembers (level + 1) (entry :: members))

def prettyItems (level : Nat) : List Json → List String
  | [] => []
  | item :: items => prettyAt level item :: prettyItems level items

def prettyMembers (level : Nat) : List (String × Json) → List String
  | [] => []
  | (name, value) :: members =>
    (quoted name ++ ": " ++ prettyAt level value) :: prettyMembers level members

end

def pretty (value : Json) : String := prettyAt 0 value

end ClientStub.Json
