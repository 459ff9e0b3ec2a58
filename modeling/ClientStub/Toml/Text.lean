import ClientStub.Text.Quoted

/-!
# TOML strings, keys and lines

Readers of the parts of a TOML text, from where they stand. Each gives what it read with the text that
follows; there is none for a text that breaks a rule.
-/

namespace ClientStub.Toml

abbrev Reader (α : Type) := List Char → Option (α × List Char)

def isBlank (c : Char) : Bool := c = ' ' || c = '\t'

def skipBlanks (text : List Char) : List Char := text.dropWhile isBlank

/-- A character that may stand in a line: every one but the controls, the tab apart. -/
def isLineChar (c : Char) : Bool := c = '\t' || (0x20 ≤ c.toNat && c.toNat ≠ 0x7F)

def readNewline? (text : List Char) : Option (List Char) :=
  match text with
  | '\n' :: rest => some rest
  | '\r' :: '\n' :: rest => some rest
  | _ => none

/-- Skips a comment, if one begins here. -/
def skipComment (text : List Char) : List Char :=
  match text with
  | '#' :: rest => rest.dropWhile isLineChar
  | _ => text

/-- Reads the rest of a line on which nothing but a comment follows. -/
def finishLine? (text : List Char) : Option (List Char) :=
  match skipComment (skipBlanks text) with
  | [] => some []
  | rest => readNewline? rest

/-- Skips blanks, comments and line breaks. -/
def skipLines? : Nat → List Char → Option (List Char)
  | 0, text => some text
  | fuel + 1, text =>
    let text := skipBlanks text
    match text with
    | '#' :: _ => (readNewline? (skipComment text)).bind (skipLines? fuel)
    | _ =>
      match readNewline? text with
      | some rest => skipLines? fuel rest
      | none => some text

/-- A character that stands for itself in a basic string. -/
def isBasicChar (c : Char) : Bool := isLineChar c && c ≠ '"' && c ≠ '\\'

/-- A character that stands for itself in a literal string. -/
def isLiteralChar (c : Char) : Bool := isLineChar c && c ≠ '\''

/-- Reads a character's number of so many hexadecimal digits. -/
def readCode? (digits : Nat) : Reader Char := fun text => do
  let values ← (text.take digits).mapM Text.hexValue?
  let code := values.foldl (fun n d => n * 16 + d) 0
  if values.length < digits || (0xD800 ≤ code && code ≤ 0xDFFF) || 0x10FFFF < code then none
  else pure (Char.ofNat code, text.drop digits)

/-- Reads an escape from behind its backslash. -/
def readEscape? : Reader Char := fun text =>
  match text with
  | 'b' :: rest => some ('\x08', rest)
  | 't' :: rest => some ('\t', rest)
  | 'n' :: rest => some ('\n', rest)
  | 'f' :: rest => some ('\x0c', rest)
  | 'r' :: rest => some ('\r', rest)
  | '"' :: rest => some ('"', rest)
  | '\\' :: rest => some ('\\', rest)
  | 'u' :: rest => readCode? 4 rest
  | 'U' :: rest => readCode? 8 rest
  | _ => none

/-- Reads a basic string of one line from behind its opening quote. -/
def readBasic? : Nat → Reader (List Char)
  | 0, _ => none
  | fuel + 1, text =>
    match text with
    | '"' :: rest => some ([], rest)
    | '\\' :: rest => do
      let (c, rest) ← readEscape? rest
      let (more, rest) ← readBasic? fuel rest
      pure (c :: more, rest)
    | c :: rest =>
      if isBasicChar c then (readBasic? fuel rest).map fun (more, rest) => (c :: more, rest) else none
    | [] => none

/-- Reads a literal string of one line from behind its opening quote. -/
def readLiteral? : Reader (List Char) := fun text =>
  match text.span isLiteralChar with
  | (content, '\'' :: rest) => some (content, rest)
  | _ => none

/-- Reads the end of a string of several lines at a run of its quotes: three of them close it, and up to two
before those belong to it. A shorter run is part of the string; then nothing is returned but the run. -/
def readClosing? (quote : Char) (text : List Char) : Option (Sum (List Char) (List Char × List Char)) :=
  let run := (text.takeWhile (· = quote)).length
  let count := min run 5
  if run < 3 then some (.inl (text.take run))
  else some (.inr (List.replicate (count - 3) quote, text.drop count))

/-- Skips blanks and line breaks. -/
def skipGap : List Char → List Char
  | '\r' :: '\n' :: rest => skipGap rest
  | c :: rest => if isBlank c || c = '\n' then skipGap rest else c :: rest
  | [] => []

/-- Skips a line break that a backslash hides, with the white space around it. -/
def skipHiddenBreak? (text : List Char) : Option (List Char) :=
  (readNewline? (skipBlanks text)).map skipGap

/-- Reads a string of several lines from behind its first line break. Line breaks read as line feeds; only
a basic string has escapes. -/
def readLong? (basic : Bool) : Nat → Reader (List Char)
  | 0, _ => none
  | fuel + 1, text =>
    let quote := if basic then '"' else '\''
    match text with
    | [] => none
    | c :: rest =>
      if c = quote then
        match readClosing? quote text with
        | none => none
        | some (.inr (content, rest)) => some (content, rest)
        | some (.inl run) =>
          (readLong? basic fuel (text.drop run.length)).map fun (more, rest) => (run ++ more, rest)
      else if basic && c = '\\' then
        match skipHiddenBreak? rest with
        | some rest => readLong? basic fuel rest
        | none => do
          let (escaped, rest) ← readEscape? rest
          let (more, rest) ← readLong? basic fuel rest
          pure (escaped :: more, rest)
      else match readNewline? text with
        | some rest => (readLong? basic fuel rest).map fun (more, rest) => ('\n' :: more, rest)
        | none =>
          if isLineChar c then (readLong? basic fuel rest).map fun (more, rest) => (c :: more, rest)
          else none

/-- Reads a string of one line from its opening quote on. -/
def readShortString? : Reader (List Char) := fun text =>
  match text with
  | '"' :: rest => readBasic? (rest.length + 1) rest
  | '\'' :: rest => readLiteral? rest
  | _ => none

/-- Reads a string from its opening quotes on. A line break right behind three of them is not part of it. -/
def readString? : Reader String := fun text => do
  let long (basic : Bool) (rest : List Char) : Option (List Char × List Char) :=
    readLong? basic (rest.length + 1) ((readNewline? rest).getD rest)
  let (content, rest) ← match text with
    | '"' :: '"' :: '"' :: rest => long true rest
    | '\'' :: '\'' :: '\'' :: rest => long false rest
    | _ => readShortString? text
  pure (String.ofList content, rest)

/-- A character of a key without quotes. -/
def isBareChar (c : Char) : Bool := c.isAlphanum || c = '_' || c = '-'

def readSimpleKey? : Reader String := fun text =>
  match text with
  | '"' :: _ => (readShortString? text).map fun (key, rest) => (String.ofList key, rest)
  | '\'' :: _ => (readShortString? text).map fun (key, rest) => (String.ofList key, rest)
  | _ =>
    match text.span isBareChar with
    | ([], _) => none
    | (key, rest) => some (String.ofList key, rest)

/-- Reads keys with dots between them and blanks around each. -/
def readDottedKeys? : Nat → Reader (List String)
  | 0, _ => none
  | fuel + 1, text => do
    let (key, rest) ← readSimpleKey? (skipBlanks text)
    match skipBlanks rest with
    | '.' :: rest => (readDottedKeys? fuel rest).map fun (keys, rest) => (key :: keys, rest)
    | rest => pure ([key], rest)

/-- A dotted key has fewer than eighty parts. -/
def longestKey : Nat := 79

/-- Reads a key as its path and its last part. -/
def readKey? : Reader (List String × String) := fun text => do
  let (keys, rest) ← readDottedKeys? longestKey text
  let last ← keys.getLast?
  pure ((keys.dropLast, last), rest)

end ClientStub.Toml
