import ClientStub.Text.Quoted
import ClientStub.Yaml.Cursor

/-!
# YAML scalars

Reading scalars of the five styles: plain, single-quoted, double-quoted, literal and folded. A reader
starts at the scalar's first character and gives the text with the cursor behind it; there is none for a
scalar that breaks a rule.
-/

namespace ClientStub.Yaml

/-- A character that ends a plain scalar inside a flow collection. -/
def endsFlowScalar (c : Char) : Bool :=
  c = ',' || c = '[' || c = ']' || c = '\x7b' || c = '\x7d'

/-- A run of a plain scalar's characters without white space. A colon before space ends it, and a colon
before an indicator of a flow collection is a fault inside one. -/
def plainRun? (inFlow : Bool) : List Char → Option (List Char)
  | [] => some []
  | c :: rest =>
    if isGapChar c then some []
    else if inFlow && c = ':' && rest.head?.any (fun d => endsFlowScalar d || d = '?') then none
    else if c = ':' && endsHere rest then some []
    else if inFlow && endsFlowScalar c then some []
    else (plainRun? inFlow rest).map (c :: ·)

/-- A plain scalar as it was read. `multiline` tells that its last gap holds a line break. -/
structure PlainScalar where
  text : List Char
  multiline : Bool
  deriving DecidableEq, Repr

/-- Reads a plain scalar from behind the given gap. Outside flow collections it goes on only on lines that
are indented to `margin` columns. -/
def readPlain? (inFlow : Bool) (margin : Int) : Nat → Gap → Cursor → Option (PlainScalar × Cursor)
  | 0, _, _ => none
  | fuel + 1, gap, at_ =>
    if at_.atDocumentMarker || at_.next? = some '#' then some (⟨[], gap.broken⟩, at_)
    else do
      let run ← plainRun? inFlow at_.rest
      let behind := at_.advance run.length
      let text := if run.isEmpty then [] else gap.folded ++ run
      let left := if run.isEmpty then gap else Gap.none
      if !behind.next?.any isGapChar then pure (⟨text, left.broken⟩, behind)
      else
        let (next, after) ← Gap.read? margin behind.rest.length Gap.none behind
        if !inFlow && (after.column : Int) < margin then pure (⟨text, next.broken⟩, after)
        else
          let (more, last) ← readPlain? inFlow margin fuel next after
          pure (⟨text ++ more.text, more.multiline⟩, last)

/-- What an escape of one letter stands for. -/
def escapedChar? (c : Char) : Option Char :=
  match c with
  | '0' => some '\x00'
  | 'a' => some '\x07'
  | 'b' => some '\x08'
  | 't' => some '\t'
  | '\t' => some '\t'
  | 'n' => some '\n'
  | 'v' => some '\x0b'
  | 'f' => some '\x0c'
  | 'r' => some '\r'
  | 'e' => some '\x1b'
  | ' ' => some ' '
  | '"' => some '"'
  | '/' => some '/'
  | '\\' => some '\\'
  | 'N' => some '\u0085'
  | '_' => some '\u00a0'
  | 'L' => some '\u2028'
  | 'P' => some '\u2029'
  | _ => none

/-- The number of digits of a numeric escape. -/
def escapeDigits? (c : Char) : Option Nat :=
  match c with
  | 'x' => some 2
  | 'u' => some 4
  | 'U' => some 8
  | _ => none

/-- The character of a number, unless the number is a surrogate or too large. -/
def charOfCode? (code : Nat) : Option Char :=
  if (0xD800 ≤ code && code ≤ 0xDFFF) || 0x10FFFF < code then none else some (Char.ofNat code)

/-- Reads the character of an escape from behind its backslash, with the number of characters read. -/
def readEscape? : List Char → Option (Char × Nat)
  | [] => none
  | c :: rest =>
    match escapeDigits? c with
    | none => (escapedChar? c).map fun escaped => (escaped, 1)
    | some count => do
      let digits := rest.take count
      if digits.length < count then none
      else
        let values ← digits.mapM Text.hexValue?
        let char ← charOfCode? (values.foldl (fun n d => n * 16 + d) 0)
        pure (char, count + 1)

/-- How a run of a quoted scalar ended: before white space or at the closing quote, or behind a line break
that was escaped. -/
inductive RunEnd where
  | plain
  | escapedBreak
  deriving DecidableEq, Repr

/-- A run of a quoted scalar's characters without white space. -/
def quotedRun? (double : Bool) : Nat → Cursor → Option (List Char × RunEnd × Cursor)
  | 0, _ => none
  | fuel + 1, at_ =>
    match at_.rest with
    | [] => some ([], .plain, at_)
    | c :: rest =>
      if isGapChar c then some ([], .plain, at_)
      else if !double && c = '\'' then
        if rest.head? = some '\'' then
          (quotedRun? double fuel (at_.advance 2)).map fun (text, result) => ('\'' :: text, result)
        else some ([], .plain, at_)
      else if double && c = '"' then some ([], .plain, at_)
      else if double && c = '\\' then
        if rest.head?.any isBreak then some ([], .escapedBreak, (at_.advance 1).skipBreak)
        else do
          let (escaped, count) ← readEscape? rest
          let (text, result) ← quotedRun? double fuel (at_.advance (count + 1))
          pure (escaped :: text, result)
      else (quotedRun? double fuel (at_.advance 1)).map fun (text, result) => (c :: text, result)

/-- Reads a quoted scalar from behind its opening quote to behind its closing one. -/
def readQuoted? (double : Bool) : Nat → Cursor → Option (List Char × Cursor)
  | 0, _ => none
  | fuel + 1, at_ =>
    if at_.atDocumentMarker || at_.rest.isEmpty then none
    else do
      let (text, ending, behind) ← quotedRun? double (at_.rest.length + 1) at_
      let start := match ending with
        | .plain => Gap.none
        | .escapedBreak => Gap.escapedBreak
      let quote := if double then '"' else '\''
      if behind.next? = some quote then pure (text ++ start.folded, behind.advance 1)
      else
        let (gap, after) ← Gap.read? (-1) behind.rest.length start behind
        let (more, last) ← readQuoted? double fuel after
        pure (text ++ gap.folded ++ more, last)

/-- What becomes of the line breaks at the end of a block scalar. -/
inductive Chomping where
  | strip
  | clip
  | keep
  deriving DecidableEq, Repr

/-- Reads the indicators behind the opening of a block scalar, in either order: chomping and the columns of
indentation, which are counted automatically if none are given. -/
def readBlockHeader? (at_ : Cursor) : Option (Chomping × Option Nat × Cursor) :=
  let chomping? (c : Char) : Option Chomping :=
    if c = '+' then some .keep else if c = '-' then some .strip else none
  let digit? (c : Char) : Option Nat := if c.isDigit then some (c.toNat - 48) else none
  let result (chomping : Chomping) (digit : Option Nat) (after : Cursor) :
      Option (Chomping × Option Nat × Cursor) :=
    if digit = some 0 then none else some (chomping, digit, after)
  match at_.rest with
  | [] => some (.clip, none, at_)
  | c :: rest =>
    match chomping? c, digit? c with
    | some chomping, _ =>
      match rest.head?.bind digit? with
      | some digit => result chomping (some digit) (at_.advance 2)
      | none => result chomping none (at_.advance 1)
    | none, some digit =>
      match rest.head?.bind chomping? with
      | some chomping => result chomping (some digit) (at_.advance 2)
      | none => result .clip (some digit) (at_.advance 1)
    | none, none => some (.clip, none, at_)

/-- Reads the empty lines before a line of a block scalar and the line's indentation. Without a known
indentation all spaces count to it, and a tab among them is a fault. The greatest column reached is
returned with the breaks. -/
def readBlockBreaks? (indent : Option Nat) :
    Nat → Nat → List Char → Cursor → Option (Nat × List Char × Cursor)
  | 0, widest, breaks, at_ => some (widest, breaks, at_)
  | fuel + 1, widest, breaks, at_ =>
    let spaces := (at_.rest.takeWhile (· = ' ')).length
    let at_ := at_.advance (match indent with
      | none => spaces
      | some columns => min spaces (columns - at_.column))
    let widest := max widest at_.column
    if (indent.all fun columns => at_.column < columns) && at_.next? = some '\t' then none
    else match at_.takeBreak? with
      | none => some (widest, breaks, at_)
      | some (b, after) => readBlockBreaks? indent fuel widest (breaks ++ [b]) after

/-- The break at the end of a line and whether the line began with a blank. -/
structure BlockLine where
  startsBlank : Bool
  ending : List Char
  deriving DecidableEq, Repr

/-- Reads the lines of a block scalar from the first character of one on: the text, the break behind the
last line, and the empty lines behind that. -/
def readBlockLines? (literal : Bool) (indent : Nat) :
    Nat → Option BlockLine → List Char → Cursor → Option (List Char × List Char × List Char × Cursor)
  | 0, _, _, _ => none
  | fuel + 1, before, breaks, at_ =>
    let ending := (before.map BlockLine.ending).getD []
    if at_.column ≠ indent || at_.rest.isEmpty then some ([], ending, breaks, at_)
    else do
      let startsBlank := at_.next?.any isBlankChar
      let folds := !literal && ending = ['\n'] && !(before.any BlockLine.startsBlank) && !startsBlank
      let joint := if folds then (if breaks.isEmpty then [' '] else []) else ending
      let line := at_.rest.takeWhile fun c => !isBreak c
      let behind := at_.advance line.length
      let (ending', behind) := match behind.takeBreak? with
        | some (b, after) => ([b], after)
        | none => ([], behind)
      let (_, breaks', after) ← readBlockBreaks? (some indent) (behind.rest.length + 1) 0 [] behind
      let (text, last) ← readBlockLines? literal indent fuel (some ⟨startsBlank, ending'⟩) breaks' after
      pure (joint ++ breaks ++ line ++ text, last)

/-- Reads a block scalar from behind its opening indicator, inside a block that is indented to `outer`
columns. -/
def readBlock? (literal : Bool) (outer : Int) (at_ : Cursor) : Option (List Char × Cursor) := do
  let (chomping, digit, at_) ← readBlockHeader? at_
  let at_ ← at_.finishLine?
  let given : Option Nat := digit.map fun columns => (max outer 0).toNat + columns
  let (widest, breaks, at_) ← readBlockBreaks? given (at_.rest.length + 1) 0 [] at_
  let indent := given.getD (max widest (max (outer + 1) 1).toNat)
  let (text, ending, trailing, at_) ←
    readBlockLines? literal indent (at_.rest.length + 2) none breaks at_
  pure (text ++ (if chomping = .strip then [] else ending) ++ (if chomping = .keep then trailing else []),
    at_)

end ClientStub.Yaml
