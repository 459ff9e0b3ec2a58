import ClientStub.Yaml.Cursor
import ClientStub.Yaml.Plain
import ClientStub.Yaml.Style

/-!
# Writing YAML

Block mappings of texts, as they are written: each text in the plainest style that reads back as the same
text. A text with line feeds is a literal, one that a reader would take for null, a boolean or a number is
quoted, and what a style cannot hold is written in the next one, down to double quotes, which hold
everything.
-/

namespace ClientStub.Yaml

/-- A character that is written as itself. -/
def isPrintable (c : Char) : Bool :=
  c = '\n' || (' ' ≤ c && c ≤ '~') || ('\u00a0' ≤ c && c.toNat ≤ 0xFFFD && c ≠ byteOrderMark)
    || 0x10000 ≤ c.toNat

/-- A character that would give a text that begins with it another meaning. -/
def isOpeningIndicator (c : Char) (behind : List Char) : Bool :=
  ['#', ',', '[', ']', '\x7b', '\x7d', '&', '*', '!', '|', '>', '\'', '"', '%', '@', '\x60'].contains c
    || ((c = '?' || c = ':' || c = '-') && endsHere behind)

/-- Whether a character inside a text would end it as a plain scalar. -/
def hasInnerIndicator : Char → List Char → Bool
  | _, [] => false
  | before, c :: behind =>
    (c = ':' && endsHere behind) || (c = '#' && isGapChar before) || hasInnerIndicator c behind

/-- A text that would be taken for a document's marker or for an indicator. -/
def hasIndicator (text : List Char) : Bool :=
  match text with
  | [] => false
  | c :: behind =>
    "---".toList.isPrefixOf text || "...".toList.isPrefixOf text || isOpeningIndicator c behind
      || hasInnerIndicator c behind

/-- Whether a character of the first kind directly precedes one of the second. -/
def hasPair (first second : Char → Bool) : List Char → Bool
  | a :: b :: rest => (first a && second b) || hasPair first second (b :: rest)
  | _ => false

def isSpace (c : Char) : Bool := c = ' '

/-- A text over several lines. -/
def isMultiline (text : List Char) : Bool := text.any isBreak

/-- A text that only double quotes hold: a character in it must be escaped, or a space would be lost at the
end of a line. -/
def needsDoubleQuotes (text : List Char) : Bool :=
  text.any (fun c => !isPrintable c) || hasPair isSpace isBreak text

def allowsPlain (text : List Char) : Bool :=
  !(needsDoubleQuotes text || isMultiline text || hasIndicator text || text.head?.any isSpace
    || text.getLast?.any isSpace)

def allowsSingleQuotes (text : List Char) : Bool :=
  !(needsDoubleQuotes text || hasPair isBreak isSpace text)

def allowsLiteral (text : List Char) : Bool := !(needsDoubleQuotes text || text.getLast?.any isSpace)

/-- Whether a plain scalar of this text would stand for something else, or look as if it did. -/
def isAmbiguous (text : String) : Bool :=
  !(PlainValue.ofText text matches .text) || isZeroLed text.toList

/-- The style that a text is written in. -/
def styleOf (text : String) : ScalarStyle :=
  let chars := text.toList
  if chars.contains '\n' then (if allowsLiteral chars then .literal else .doubleQuoted)
  else if !isAmbiguous text && allowsPlain chars then .plain
  else if allowsSingleQuotes chars then .singleQuoted
  else .doubleQuoted

def spaces (n : Nat) : List Char := List.replicate n ' '

/-- Writes lines with a margin before each that is not empty; `starts` tells that a line starts here. -/
def withMargin (margin : Nat) (escape : Char → List Char) : Bool → List Char → List Char
  | _, [] => []
  | starts, c :: rest =>
    if isBreak c then c :: withMargin margin escape true rest
    else (if starts then spaces margin else []) ++ escape c ++ withMargin margin escape false rest

/-- A single-quoted text; quotes in it are doubled. A closing quote on a line of its own has the margin. -/
def singleQuoted (margin : Nat) (text : List Char) : List Char :=
  let quote (c : Char) : List Char := if c = '\'' then ['\'', '\''] else [c]
  '\'' :: withMargin margin quote false text
    ++ (if text.getLast?.any isBreak then spaces margin else []) ++ ['\'']

/-- The last `digits` hexadecimal digits of a number, in upper case. -/
def upperHex : Nat → Nat → List Char
  | 0, _ => []
  | digits + 1, n => upperHex digits (n / 16) ++ [(Text.hexDigit (n % 16)).toUpper]

/-- A character between double quotes. -/
def doubleQuotedChar (c : Char) : List Char :=
  match c with
  | '\x00' => ['\\', '0']
  | '\x07' => ['\\', 'a']
  | '\x08' => ['\\', 'b']
  | '\t' => ['\\', 't']
  | '\n' => ['\\', 'n']
  | '\x0b' => ['\\', 'v']
  | '\x0c' => ['\\', 'f']
  | '\r' => ['\\', 'r']
  | '\x1b' => ['\\', 'e']
  | '"' => ['\\', '"']
  | '\\' => ['\\', '\\']
  | '\u0085' => ['\\', 'N']
  | '\u2028' => ['\\', 'L']
  | '\u2029' => ['\\', 'P']
  | c =>
    if isPrintable c then [c]
    else if c.toNat ≤ 0xFF then '\\' :: 'x' :: upperHex 2 c.toNat
    else if c.toNat ≤ 0xFFFF then '\\' :: 'u' :: upperHex 4 c.toNat
    else '\\' :: 'U' :: upperHex 8 c.toNat

def doubleQuoted (text : List Char) : List Char := '"' :: text.flatMap doubleQuotedChar ++ ['"']

/-- What a literal's header tells of the breaks at its end: they are left out, kept, or just one. -/
def chompingMark (text : List Char) : List Char :=
  match text.reverse with
  | [] => ['-']
  | last :: before =>
    if !isBreak last then ['-'] else if before.head?.all isBreak then ['+'] else []

/-- A literal. Its header tells the margin if the text itself begins with white space. -/
def literal (margin : Nat) (text : List Char) : List Char :=
  '|' :: (if text.head?.any (fun c => isSpace c || isBreak c) then ['2'] else []) ++ chompingMark text
    ++ '\n' :: withMargin margin (fun c => [c]) true text

/-- A text in its style, with the margin for lines behind the first. -/
def scalarText (margin : Nat) (text : String) : List Char :=
  match styleOf text with
  | .plain => text.toList
  | .singleQuoted => singleQuoted margin text.toList
  | .literal => literal margin text.toList
  | _ => doubleQuoted text.toList

/-- A scalar and the end of its line, which a literal may bring itself. -/
def scalarLine (margin : Nat) (text : String) : List Char :=
  let written := scalarText margin text
  if written.getLast?.any isBreak then written else written ++ ['\n']

/-- Whether a key fits before its colon on one line. -/
def isSimpleKey (key : String) : Bool := !isMultiline key.toList && key.utf8ByteSize ≤ 128

/-- One entry of a mapping that is indented to `margin` columns. A key that does not fit before its colon
stands on lines of its own. -/
def entryText (margin : Nat) (key value : String) : List Char :=
  let scalarMargin := margin + 2
  spaces margin
    ++ (if isSimpleKey key then scalarText scalarMargin key ++ [':', ' ']
      else ['?', ' '] ++ scalarLine scalarMargin key ++ spaces margin ++ [':', ' '])
    ++ scalarLine scalarMargin value

end ClientStub.Yaml
