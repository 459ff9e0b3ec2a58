import ClientStub.Text.Quoted
import ClientStub.Yaml.Cursor
import ClientStub.Yaml.Token

/-!
# Node properties and directives

Reading anchors, aliases, tags and directives. A reader starts behind the indicator and gives a token with
the cursor behind it; there is none for one that breaks a rule.
-/

namespace ClientStub.Yaml

/-- A character that may follow an anchor's name directly. -/
def endsAnchor (c : Char) : Bool :=
  isGapChar c || c = '?' || c = ':' || c = ',' || c = ']' || c = '\x7d' || c = '%' || c = '@' || c = '\x60'

/-- Reads the name of an anchor or an alias. -/
def readAnchorName? (at_ : Cursor) : Option (String × Cursor) :=
  let name := at_.rest.takeWhile isNameChar
  let behind := at_.advance name.length
  if name.isEmpty || !behind.next?.all endsAnchor then none else some (String.ofList name, behind)

/-- A character of a tag; commas and brackets only in the full form of one. -/
def isTagChar (full : Bool) (c : Char) : Bool :=
  isNameChar c || [';', '/', '?', ':', '@', '&', '=', '+', '$', '.', '!', '~', '*', '\'', '(', ')'].contains c
    || (full && (c = ',' || c = '[' || c = ']'))

/-- Reads the byte of one percent escape. -/
def readEscapedByte? : List Char → Option (Nat × List Char)
  | '%' :: a :: b :: rest => do
    let high ← Text.hexValue? a
    let low ← Text.hexValue? b
    pure (high * 16 + low, rest)
  | _ => none

/-- Reads `n` further bytes of an escaped character. -/
def readTrailingBytes? : Nat → Nat → List Char → Option (Nat × List Char)
  | 0, code, text => some (code, text)
  | n + 1, code, text => do
    let (byte, rest) ← readEscapedByte? text
    if byte / 64 = 2 then readTrailingBytes? n (code * 64 + byte % 64) rest else none

/-- Reads a character that is written as the percent escapes of its UTF-8 bytes. -/
def readEscapedChar? (text : List Char) : Option (Char × List Char) := do
  let (byte, rest) ← readEscapedByte? text
  let (code, rest) ←
    if byte < 0x80 then some (byte, rest)
    else if byte / 32 = 6 then readTrailingBytes? 1 (byte % 32) rest
    else if byte / 16 = 14 then readTrailingBytes? 2 (byte % 16) rest
    else if byte / 8 = 30 then readTrailingBytes? 3 (byte % 8) rest
    else none
  pure (Char.ofNat code, rest)

/-- Reads the characters of a tag. -/
def readTagChars? (full : Bool) : Nat → List Char → Option (List Char × List Char)
  | 0, text => some ([], text)
  | fuel + 1, text =>
    match text with
    | [] => some ([], [])
    | c :: rest =>
      if isTagChar full c then (readTagChars? full fuel rest).map fun (more, last) => (c :: more, last)
      else if c = '%' then do
        let (escaped, rest) ← readEscapedChar? text
        let (more, last) ← readTagChars? full fuel rest
        pure (escaped :: more, last)
      else some ([], text)

/-- Reads the characters of a tag and moves the cursor behind them. -/
def readTagText? (full : Bool) (at_ : Cursor) : Option (List Char × Cursor) := do
  let (text, rest) ← readTagChars? full at_.rest.length at_.rest
  pure (text, at_.advance (at_.rest.length - rest.length))

/-- Reads a handle from its exclamation mark on: the mark alone, or a name between two marks. Without the
second mark what was read is the mark and the name. -/
def readHandle? (at_ : Cursor) : Option (List Char × Cursor) :=
  match at_.rest with
  | '!' :: rest =>
    let name := rest.takeWhile isNameChar
    let behind := at_.advance (name.length + 1)
    if behind.next? = some '!' then some ('!' :: name ++ ['!'], behind.advance 1)
    else some ('!' :: name, behind)
  | _ => none

private def isNamedHandle (handle : List Char) : Bool := 1 < handle.length && handle.getLast? == some '!'

/-- Reads a tag from its exclamation mark on: a full form between angle brackets, a named handle with a
suffix, or a local name. The mark alone is a tag of its own. -/
def readTag? (inFlow : Bool) (at_ : Cursor) : Option (Token × Cursor) := do
  let (token, behind) ←
    if at_.rest.drop 1 |>.head?.any (· = '<') then do
      let (name, behind) ← readTagText? true (at_.advance 2)
      if name.isEmpty || behind.next? ≠ some '>' then none
      else pure (Token.tag "" (String.ofList name), behind.advance 1)
    else do
      let (handle, behind) ← readHandle? at_
      let (suffix, last) ← readTagText? false behind
      if isNamedHandle handle then
        if suffix.isEmpty then none
        else pure (Token.tag (String.ofList handle) (String.ofList suffix), last)
      else
        let name := handle.drop 1 ++ suffix
        pure (if name.isEmpty then Token.tag "" "!" else Token.tag "!" (String.ofList name), last)
  if (inFlow && behind.next? = some ',') || endsHere behind.rest then pure (token, behind) else none

/-- Version numbers have up to nine digits. -/
def readVersionNumber? (at_ : Cursor) : Option (Nat × Cursor) :=
  let digits := at_.rest.takeWhile Char.isDigit
  if digits.isEmpty || 9 < digits.length then none
  else some (digits.foldl (fun n d => n * 10 + (d.toNat - 48)) 0, at_.advance digits.length)

def readVersion? (at_ : Cursor) : Option (Token × Cursor) := do
  let (major, at_) ← readVersionNumber? (at_.skipWhile isBlankChar)
  if at_.next? ≠ some '.' then none
  else
    let (minor, at_) ← readVersionNumber? (at_.advance 1)
    pure (.version major minor, at_)

def readTagDirective? (at_ : Cursor) : Option (Token × Cursor) := do
  let (handle, at_) ← readHandle? (at_.skipWhile isBlankChar)
  if !(handle = ['!'] || isNamedHandle handle) || !at_.next?.any isBlankChar then none
  else
    let (expansion, at_) ← readTagText? true (at_.skipWhile isBlankChar)
    if expansion.isEmpty || !endsHere at_.rest then none
    else pure (.tagDirective (String.ofList handle) (String.ofList expansion), at_)

/-- Reads a directive from behind its percent sign to the end of its line. -/
def readDirective? (at_ : Cursor) : Option (Token × Cursor) := do
  let name := at_.rest.takeWhile isNameChar
  let behind := at_.advance name.length
  if name.isEmpty || !endsHere behind.rest then none
  else
    let (token, behind) ←
      if name = "YAML".toList then readVersion? behind
      else if name = "TAG".toList then readTagDirective? behind
      else none
    let behind ← behind.finishLine?
    pure (token, behind)

end ClientStub.Yaml
