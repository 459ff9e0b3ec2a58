import ClientStub.Toml.Text

/-!
# Writing TOML

Keys and strings in the plainest form that holds them: a basic string where nothing must be escaped, a
literal one where that saves escapes, the forms of several lines for texts with line feeds, and a basic
string with escapes for everything else.
-/

namespace ClientStub.Toml

/-- A character that only an escape can write. -/
def needsEscape (c : Char) : Bool := (c.toNat < 0x20 && c ≠ '\t' && c ≠ '\n') || c.toNat = 0x7F

/-- The length of the longest run of a character. -/
def longestRun (c : Char) : Nat → List Char → Nat
  | run, [] => run
  | run, d :: rest => if d = c then longestRun c (run + 1) rest else max run (longestRun c 0 rest)

/-- The forms of a string. -/
inductive StringForm where
  | basic
  | literal
  | longBasic
  | longLiteral
  deriving DecidableEq, Repr

/-- The form that a string is written in. -/
def formOf (text : List Char) : StringForm :=
  let escapes := text.any needsEscape
  let newline := text.contains '\n'
  let backslash := text.contains '\\'
  if !escapes && !backslash && !newline && !text.contains '"' then .basic
  else if !escapes && !newline && !text.contains '\'' then .literal
  else if !escapes && !backslash && longestRun '"' 0 text ≤ 2 then .longBasic
  else if !escapes && longestRun '\'' 0 text ≤ 2 then .longLiteral
  else if newline then .longBasic
  else .basic

def upperHex4 (n : Nat) : List Char := (Text.hex4 n).map Char.toUpper

/-- A character of a basic string; `long` tells that line feeds and quotes stand for themselves. -/
def basicChar (long : Bool) (c : Char) : List Char :=
  match c with
  | '\x08' => ['\\', 'b']
  | '\t' => ['\\', 't']
  | '\n' => if long then ['\n'] else ['\\', 'n']
  | '\x0c' => ['\\', 'f']
  | '\r' => ['\\', 'r']
  | '"' => if long then ['"'] else ['\\', '"']
  | '\\' => ['\\', '\\']
  | c => if needsEscape c then '\\' :: 'u' :: upperHex4 c.toNat else [c]

/-- The characters of a long basic string. Every third quote in a row is escaped; `run` of them have just
passed. -/
def longBasicChars : Nat → List Char → List Char
  | _, [] => []
  | run, c :: rest =>
    if c = '"' then
      if run = 2 then ['\\', '"'] ++ longBasicChars 0 rest else '"' :: longBasicChars (run + 1) rest
    else basicChar true c ++ longBasicChars 0 rest

def basicString (text : List Char) : List Char := '"' :: text.flatMap (basicChar false) ++ ['"']

def literalString (text : List Char) : List Char := '\'' :: text ++ ['\'']

/-- A string of several lines: a text with line feeds begins behind one more. -/
def longString (quotes text content : List Char) : List Char :=
  quotes ++ (if text.contains '\n' then ['\n'] else []) ++ content ++ quotes

/-- A string in its form. -/
def stringText (text : String) : List Char :=
  let chars := text.toList
  match formOf chars with
  | .basic => basicString chars
  | .literal => literalString chars
  | .longBasic => longString ['"', '"', '"'] chars (longBasicChars 0 chars)
  | .longLiteral => longString ['\'', '\'', '\''] chars chars

/-- A key: without quotes if its characters allow that, and otherwise as a string of one line. -/
def keyText (key : String) : List Char :=
  let chars := key.toList
  let escapes := chars.any fun c => needsEscape c || c = '\n'
  if !chars.isEmpty && chars.all isBareChar then chars
  else if !escapes && !chars.contains '\\' && !chars.contains '"' then basicString chars
  else if !escapes && !chars.contains '\'' then literalString chars
  else basicString chars

/-- A line that sets a key to a string. -/
def assignmentText (key value : String) : List Char :=
  keyText key ++ " = ".toList ++ stringText value ++ ['\n']

end ClientStub.Toml
