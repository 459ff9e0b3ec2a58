import ClientStub.Toml.Date
import ClientStub.Toml.Number

/-!
# TOML documents

A document as the entries of its root table. Lines set keys in the table of the last header; a table is
defined once, whether by a header, by dotted keys, or by the steps of either.
-/

namespace ClientStub.Toml

/-- Arrays and inline tables may lie this deep inside one another. -/
def nestingLimit : Nat := 79

/-- Reads the items of an array from behind its opening bracket to behind its closing one. -/
def readItems? (item : Reader Value) : Nat → Reader (List Value)
  | 0, _ => none
  | fuel + 1, text => do
    let start ← skipLines? text.length text
    match start with
    | ']' :: rest => pure ([], rest)
    | _ =>
      let (value, rest) ← item start
      match ← skipLines? rest.length rest with
      | ',' :: rest => (readItems? item fuel rest).map fun (values, rest) => (value :: values, rest)
      | ']' :: rest => pure ([value], rest)
      | _ => none

/-- Reads a key, an equals sign and a value, with blanks around each. -/
def readAssignment? (value : Reader Value) : Reader ((List String × String) × Value) := fun text => do
  let (key, rest) ← readKey? text
  match rest with
  | '=' :: rest => do
    let (value, rest) ← value (skipBlanks rest)
    pure ((key, value), rest)
  | _ => none

/-- Reads the entries of an inline table from behind its opening brace to behind its closing one; another
entry must follow a comma. -/
def readInline? (value : Reader Value) : Nat → Entries → Reader Entries
  | 0, _, _ => none
  | fuel + 1, entries, text => do
    let (((path, key), value'), rest) ← readAssignment? value text
    let entries ← entries.addDotted path key value'
    match skipBlanks rest with
    | ',' :: rest => readInline? value fuel entries rest
    | '\x7d' :: rest => pure (entries, rest)
    | _ => none

/-- Reads a given word. -/
def readWord? (word : String) (value : Value) : Reader Value := fun text =>
  if word.toList.isPrefixOf text then some (value, text.drop word.length) else none

/-- Reads a value with at most `nesting` arrays and inline tables inside one another. -/
def readValue? : Nat → Reader Value
  | nesting, text =>
    match text with
    | [] => none
    | c :: rest =>
      if c = '"' || c = '\'' then (readString? text).map fun (content, rest) => (.string content, rest)
      else if c = '[' then
        match nesting with
        | 0 => none
        | inner + 1 =>
          (readItems? (readValue? inner) (rest.length + 1) rest).map fun (items, rest) =>
            (.array items, rest)
      else if c = '\x7b' then
        match nesting with
        | 0 => none
        | inner + 1 =>
          match skipBlanks rest with
          | '\x7d' :: rest => some (.table .inline [], rest)
          | start =>
            (readInline? (readValue? inner) (rest.length + 1) [] start).map fun (entries, rest) =>
              (.table .inline entries, rest)
      else if c = '+' || c = '-' || c.isDigit then
        if looksLikeDate text || looksLikeTime text then
          (readDatetime? text).map fun (found, rest) => (.datetime found, rest)
        else readNumber? text
      else if c = 't' then readWord? "true" (.bool true) text
      else if c = 'f' then readWord? "false" (.bool false) text
      else if c = 'i' then readWord? "inf" (.infinite false) text
      else if c = 'n' then readWord? "nan" .notANumber text
      else none

/-- A document while it is read: the root table, and the table that lines set keys in now. -/
structure DocumentState where
  root : Entries
  current : Entries
  /-- The path of the current table and its key; none for the root table itself. -/
  place : Option (List String × String)
  /-- Whether the current table is one of an array. -/
  isItem : Bool

namespace DocumentState

def start : DocumentState := ⟨[], [], none, false⟩

/-- Adds the current table as an item of an array of tables. -/
def asItem (key : String) (table : Entries) (entries : Entries) : Option (Unit × Entries) :=
  match entries.lookup key with
  | none => some ((), entries ++ [(key, .tables [table])])
  | some (.tables items) => some ((), entries.replace key (.tables (items ++ [table])))
  | some _ => none

/-- Adds the current table under its key, which holds no table of its own yet. -/
def asTable (key : String) (table : Entries) (entries : Entries) : Option (Unit × Entries) :=
  match entries.lookup key with
  | none => some ((), entries ++ [(key, .table .headed table)])
  | some (.table .passed _) => some ((), entries.replace key (.table .headed table))
  | some (.table .dotted _) => some ((), entries.replace key (.table .headed table))
  | some _ => none

/-- The root table with the current one put in its place. -/
def closed? (s : DocumentState) : Option Entries :=
  match s.place with
  | none => some s.current
  | some (path, key) =>
    (Entries.changeAt false path
      (fun _ entries => if s.isItem then asItem key s.current entries else asTable key s.current entries)
      .headed s.root).map Prod.snd

/-- Takes out what the steps of other headers put under a key, which a header then defines. -/
def takePassed (key : String) (entries : Entries) : Option (Entries × Entries) :=
  match entries.lookup key with
  | none => some ([], entries)
  | some (.table .passed inner) => some (inner, entries.erase key)
  | some _ => none

/-- Makes sure that a key holds an array of tables. -/
def makeTables (key : String) (entries : Entries) : Option (Entries × Entries) :=
  match entries.lookup key with
  | none => some ([], entries ++ [(key, .tables [])])
  | some (.tables _) => some ([], entries)
  | some _ => none

/-- Goes to the table of a header. -/
def enter? (isItem : Bool) (path : List String) (key : String) (s : DocumentState) :
    Option DocumentState := do
  let root ← s.closed?
  let (current, root) ←
    Entries.changeAt false path (fun _ entries => (if isItem then makeTables else takePassed) key entries)
      .headed root
  pure ⟨root, current, some (path, key), isItem⟩

end DocumentState

/-- Reads a header from its opening brackets on. -/
def readHeader? : Reader (Bool × List String × String) := fun text => do
  let isItem := "[[".toList.isPrefixOf text
  let ((path, key), rest) ← readKey? (text.drop (if isItem then 2 else 1))
  match isItem, rest with
  | true, ']' :: ']' :: rest => pure ((true, path, key), rest)
  | false, ']' :: rest => pure ((false, path, key), rest)
  | _, _ => none

/-- Reads the lines of a document. -/
def readLines? : Nat → DocumentState → List Char → Option Entries
  | 0, _, _ => none
  | fuel + 1, s, text =>
    match skipBlanks text with
    | [] => s.closed?
    | '[' :: rest => do
      let ((isItem, path, key), rest) ← readHeader? ('[' :: rest)
      let rest ← finishLine? rest
      readLines? fuel (← s.enter? isItem path key) rest
    | c :: rest => do
      if c = '#' || c = '\n' || c = '\r' then readLines? fuel s (← finishLine? (c :: rest))
      else
        let (((path, key), value), rest) ← readAssignment? (readValue? nestingLimit) (c :: rest)
        let rest ← finishLine? rest
        readLines? fuel { s with current := ← s.current.addDotted path key value } rest

/-- The root table of a document. A byte order mark before the document is passed over. -/
def ofText? (text : String) : Option Entries :=
  let chars := text.toList
  let chars := if chars.head? = some '\ufeff' then chars.drop 1 else chars
  readLines? (chars.length + 1) .start chars

end ClientStub.Toml
