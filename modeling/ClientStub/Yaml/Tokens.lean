import ClientStub.Yaml.Property
import ClientStub.Yaml.Scalar

/-!
# The tokens of a YAML text

A text is read from left to right into tokens. Indentation opens and closes blocks. A scalar or a flow
collection may turn out to be a key when a colon follows on its line; until that is known, its tokens are
held back, because the tokens of a key and perhaps of a mapping come to stand before them. A fault ends the
tokens; those held back at that point are lost.
-/

namespace ClientStub.Yaml

/-- The place of what may still turn out to be a key. It is required to be one where it begins a line of a
block mapping. -/
structure KeyPlace where
  required : Bool
  /-- The number of tokens before the key's own. -/
  number : Nat
  index : Nat
  line : Nat
  column : Nat
  deriving DecidableEq, Repr

/-- The state of reading tokens. -/
structure TokenState where
  at_ : Cursor
  /-- The columns of the current block, -1 outside all blocks. -/
  indent : Int
  /-- The columns of the blocks around the current one, the innermost first. -/
  outer : List Int
  /-- The possible key at each flow level, the innermost first; the last one is that of block context. -/
  keys : List (Option KeyPlace)
  keyAllowed : Bool
  /-- Tokens held back. -/
  held : List Token
  /-- The number of tokens that are no longer held back. -/
  passed : Nat
  deriving DecidableEq, Repr

namespace TokenState

def ofText (text : List Char) : TokenState := ⟨.ofText text, -1, [], [none], true, [], 0⟩

def inFlow (s : TokenState) : Bool := 1 < s.keys.length

def put (token : Token) (s : TokenState) : TokenState := { s with held := s.held ++ [token] }

/-- Puts a token before the held ones from number `number` on. -/
def putAt (number : Nat) (token : Token) (s : TokenState) : TokenState :=
  let n := number - s.passed
  { s with held := s.held.take n ++ token :: s.held.drop n }

/-- Keys end on their line and within 1024 characters. -/
def KeyPlace.isStale (key : KeyPlace) (at_ : Cursor) : Bool :=
  key.line < at_.line || key.index + 1024 < at_.index

/-- Gives up the possible keys that can no longer be keys; a required one among them is a fault. -/
def dropStaleKeys? (s : TokenState) : Option TokenState :=
  let stale (key : Option KeyPlace) : Bool := key.any fun k => KeyPlace.isStale k s.at_
  if s.keys.any fun key => stale key && key.any KeyPlace.required then none
  else some { s with keys := s.keys.map fun key => if stale key then none else key }

/-- Gives up the possible key of the innermost level. -/
def dropKey? (s : TokenState) : Option TokenState :=
  match s.keys with
  | some key :: others => if key.required then none else some { s with keys := none :: others }
  | _ => some s

/-- Notes that a key may begin here. -/
def noteKey? (s : TokenState) : Option TokenState :=
  if !s.keyAllowed then some s
  else do
    let key : KeyPlace :=
      ⟨!s.inFlow && s.indent = s.at_.column, s.passed + s.held.length, s.at_.index, s.at_.line,
        s.at_.column⟩
    let s ← s.dropKey?
    pure { s with keys := some key :: s.keys.drop 1 }

/-- The ends of the blocks that are indented deeper than `column`, with the columns that remain. -/
def closedBlocks (column indent : Int) : List Int → List Token × Int × List Int
  | [] => ([], indent, [])
  | around :: outer =>
    if column < indent then
      let (ends, result) := closedBlocks column around outer
      (.blockEnd :: ends, result)
    else ([], indent, around :: outer)

/-- Closes the blocks that are indented deeper than `column`. -/
def closeBlocks (column : Int) (s : TokenState) : TokenState :=
  if s.inFlow then s
  else
    let (ends, indent, outer) := closedBlocks column s.indent s.outer
    { s with indent := indent, outer := outer, held := s.held ++ ends }

/-- Opens a block at a column that is indented deeper than the current block. Its token goes before token
`number`, or behind all tokens. -/
def openBlock (column : Nat) (number : Option Nat) (token : Token) (s : TokenState) : TokenState :=
  if !s.inFlow && s.indent < column then
    let s := { s with outer := s.indent :: s.outer, indent := column }
    match number with
    | none => s.put token
    | some n => s.putAt n token
  else s

/-- Moves to the next token over blanks, comments and line breaks. A line break allows keys again outside
flow collections. A tab counts as blank only where no key may begin. -/
def skipToToken (inFlow : Bool) : Nat → Bool → Cursor → Bool × Cursor
  | 0, allowed, at_ => (allowed, at_)
  | fuel + 1, allowed, at_ =>
    let at_ := if at_.column = 0 && at_.next? = some byteOrderMark then at_.advance 1 else at_
    let at_ := (at_.skipWhile fun c => c = ' ' || ((inFlow || !allowed) && c = '\t')).skipComment
    match at_.takeBreak? with
    | none => (allowed, at_)
    | some (_, after) => skipToToken inFlow fuel (allowed || !inFlow) after

/-- Puts a token of `length` characters and moves behind it. -/
def step (length : Nat) (token : Token) (s : TokenState) : TokenState :=
  { s with at_ := s.at_.advance length }.put token

/-- Ends the stream. The end of the text ends its last line. -/
def endStream? (s : TokenState) : Option TokenState := do
  let at_ := if s.at_.column = 0 then s.at_ else { s.at_ with line := s.at_.line + 1, column := 0 }
  let s ← ({ s with at_ := at_ }.closeBlocks (-1)).dropKey?
  pure ({ s with keyAllowed := false }.put .streamEnd)

def addDirective? (s : TokenState) : Option TokenState := do
  let s ← (s.closeBlocks (-1)).dropKey?
  let (token, behind) ← readDirective? (s.at_.advance 1)
  pure ({ s with at_ := behind, keyAllowed := false }.put token)

def addDocumentMarker? (token : Token) (s : TokenState) : Option TokenState := do
  let s ← (s.closeBlocks (-1)).dropKey?
  pure ({ s with keyAllowed := false }.step 3 token)

def openFlow? (token : Token) (s : TokenState) : Option TokenState := do
  let s ← s.noteKey?
  pure ({ s with keys := none :: s.keys, keyAllowed := true }.step 1 token)

def closeFlow? (token : Token) (s : TokenState) : Option TokenState := do
  let s ← s.dropKey?
  let keys := if s.inFlow then s.keys.drop 1 else s.keys
  pure ({ s with keys := keys, keyAllowed := false }.step 1 token)

def addFlowEntry? (s : TokenState) : Option TokenState := do
  let s ← s.dropKey?
  pure ({ s with keyAllowed := true }.step 1 .flowEntry)

def addBlockEntry? (s : TokenState) : Option TokenState :=
  if !s.inFlow && !s.keyAllowed then none
  else do
    let s ← (s.openBlock s.at_.column none .blockSequenceStart).dropKey?
    pure ({ s with keyAllowed := true }.step 1 .blockEntry)

def addKey? (s : TokenState) : Option TokenState :=
  if !s.inFlow && !s.keyAllowed then none
  else do
    let s ← (s.openBlock s.at_.column none .blockMappingStart).dropKey?
    pure ({ s with keyAllowed := !s.inFlow }.step 1 .key)

/-- Adds the token of a value. What was a possible key is now a key. -/
def addValue? (s : TokenState) : Option TokenState :=
  match s.keys with
  | some key :: others =>
    let s := { s with keys := none :: others, keyAllowed := false }.putAt key.number .key
    some ((s.openBlock key.column (some key.number) .blockMappingStart).step 1 .value)
  | _ =>
    if !s.inFlow && !s.keyAllowed then none
    else
      let s := s.openBlock s.at_.column none .blockMappingStart
      some ({ s with keyAllowed := !s.inFlow }.step 1 .value)

/-- Adds a token that may begin a key. -/
def addProperty? (read : Cursor → Option (Token × Cursor)) (s : TokenState) : Option TokenState := do
  let s ← s.noteKey?
  let (token, behind) ← read s.at_
  pure ({ s with at_ := behind, keyAllowed := false }.put token)

def addAnchor? (token : String → Token) : TokenState → Option TokenState :=
  addProperty? fun at_ => (readAnchorName? (at_.advance 1)).map fun (name, behind) => (token name, behind)

def addQuoted? (double : Bool) : TokenState → Option TokenState :=
  addProperty? fun at_ =>
    (readQuoted? double (at_.rest.length + 1) (at_.advance 1)).map fun (text, behind) =>
      (.scalar (String.ofList text) (if double then .doubleQuoted else .singleQuoted), behind)

def addBlockScalar? (literal : Bool) (s : TokenState) : Option TokenState := do
  let s ← s.dropKey?
  let (text, behind) ← readBlock? literal s.indent (s.at_.advance 1)
  pure ({ s with at_ := behind, keyAllowed := true }.put
    (.scalar (String.ofList text) (if literal then .literal else .folded)))

/-- Adds a plain scalar. If it ended with a line break, a key may begin behind it. -/
def addPlain? (s : TokenState) : Option TokenState := do
  let s ← s.noteKey?
  let (found, behind) ← readPlain? s.inFlow (s.indent + 1) (s.at_.rest.length + 2) Gap.none s.at_
  pure ({ s with at_ := behind, keyAllowed := found.multiline }.put
    (.scalar (String.ofList found.text) .plain))

/-- Whether a plain scalar may begin with `c` before `rest`. -/
def beginsPlain (inFlow : Bool) (c : Char) (rest : List Char) : Bool :=
  (!isGapChar c
      && !(['-', '?', ':', ',', '[', ']', '\x7b', '\x7d', '#', '&', '*', '!', '|', '>', '\'', '"', '%', '@',
        '\x60'].contains c))
    || (c = '-' && !rest.head?.any isBlankChar)
    || (!inFlow && (c = '?' || c = ':') && !endsHere rest)

/-- Reads the next token, which stands at the cursor. -/
def readToken? (s : TokenState) : Option TokenState :=
  match s.at_.rest with
  | [] => s.endStream?
  | c :: rest =>
    if s.at_.column = 0 && c = '%' then s.addDirective?
    else if s.at_.atDocumentMarker then
      s.addDocumentMarker? (if c = '-' then .documentStart else .documentEnd)
    else if c = '[' then s.openFlow? .flowSequenceStart
    else if c = '\x7b' then s.openFlow? .flowMappingStart
    else if c = ']' then s.closeFlow? .flowSequenceEnd
    else if c = '\x7d' then s.closeFlow? .flowMappingEnd
    else if c = ',' then s.addFlowEntry?
    else if c = '-' && endsHere rest then s.addBlockEntry?
    else if c = '?' && (s.inFlow || endsHere rest) then s.addKey?
    else if c = ':' && (s.inFlow || endsHere rest) then s.addValue?
    else if c = '*' then s.addAnchor? .reference
    else if c = '&' then s.addAnchor? .anchor
    else if c = '!' then s.addProperty? (readTag? s.inFlow)
    else if c = '|' && !s.inFlow then s.addBlockScalar? true
    else if c = '>' && !s.inFlow then s.addBlockScalar? false
    else if c = '\'' then s.addQuoted? false
    else if c = '"' then s.addQuoted? true
    else if beginsPlain s.inFlow c rest then s.addPlain?
    else none

/-- Moves to the next token and reads it. -/
def next? (s : TokenState) : Option TokenState := do
  let (allowed, at_) := skipToToken s.inFlow (s.at_.rest.length + 1) s.keyAllowed s.at_
  let s ← dropStaleKeys? { s with at_ := at_, keyAllowed := allowed }
  (s.closeBlocks s.at_.column).readToken?

/-- The held tokens that no possible key holds back any longer, and the state without them. -/
def release (s : TokenState) : List Token × TokenState :=
  let bound (n : Nat) (key : Option KeyPlace) : Nat := (key.map fun k => min n (k.number - s.passed)).getD n
  let n := s.keys.foldl bound s.held.length
  (s.held.take n, { s with held := s.held.drop n, passed := s.passed + n })

/-- Reads tokens to the end of the text or to a fault. Every token takes a character, the last one apart. -/
def run : Nat → TokenState → List Token
  | 0, _ => []
  | fuel + 1, s =>
    match s.next? with
    | none => []
    | some s =>
      match s.dropStaleKeys? with
      | none => []
      | some s =>
        let (tokens, s) := s.release
        if tokens.getLast? = some .streamEnd then tokens else tokens ++ run fuel s

end TokenState

/-- The tokens of a text; those of a sound text end with the end of the stream. -/
def tokens (text : List Char) : List Token :=
  if text.all isAllowed then TokenState.run (text.length + 1) (.ofText text) else []

end ClientStub.Yaml
