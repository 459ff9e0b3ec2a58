/-!
# A place in a YAML text

The classes of characters that YAML's grammar is made of, and a cursor: what is left of the text, with the
line and the column reached. A line ends at a carriage return, a line feed, both in this order, the next
line character, or the Unicode line and paragraph separators; the first four read as a line feed.
-/

namespace ClientStub.Yaml

def isBlankChar (c : Char) : Bool := c = ' ' || c = '\t'

def isBreak (c : Char) : Bool :=
  c = '\n' || c = '\r' || c = '\u0085' || c = '\u2028' || c = '\u2029'

def isGapChar (c : Char) : Bool := isBlankChar c || isBreak c

/-- A character of anchors, directives and tag handles. -/
def isNameChar (c : Char) : Bool := c.isAlphanum || c = '_' || c = '-'

/-- Whether a token that wants space behind it may end before this text. -/
def endsHere (text : List Char) : Bool := text.head?.all isGapChar

def byteOrderMark : Char := '\ufeff'

/-- A character that may stand in a YAML text. -/
def isAllowed (c : Char) : Bool :=
  c = '\t' || c = '\n' || c = '\r' || (' ' ≤ c && c ≤ '~') || c = '\u0085'
    || ('\u00a0' ≤ c && c.toNat ≤ 0xFFFD) || 0x10000 ≤ c.toNat

structure Cursor where
  rest : List Char
  index : Nat
  line : Nat
  column : Nat
  deriving DecidableEq, Repr

namespace Cursor

def ofText (text : List Char) : Cursor := ⟨text, 0, 0, 0⟩

def next? (at_ : Cursor) : Option Char := at_.rest.head?

/-- Moves on by `n` characters of one line. -/
def advance (n : Nat) (at_ : Cursor) : Cursor :=
  { at_ with rest := at_.rest.drop n, index := at_.index + n, column := at_.column + n }

/-- Moves on while characters of one line pass. -/
def skipWhile (pass : Char → Bool) (at_ : Cursor) : Cursor :=
  at_.advance (at_.rest.takeWhile pass).length

/-- Reads a line break as the character that it stands for. -/
def takeBreak? (at_ : Cursor) : Option (Char × Cursor) :=
  match at_.rest with
  | '\r' :: '\n' :: rest => some ('\n', ⟨rest, at_.index + 2, at_.line + 1, 0⟩)
  | c :: rest =>
    if isBreak c then
      some (if c = '\u2028' || c = '\u2029' then c else '\n', ⟨rest, at_.index + 1, at_.line + 1, 0⟩)
    else none
  | [] => none

/-- Moves on behind a line break, if one is next. -/
def skipBreak (at_ : Cursor) : Cursor := (at_.takeBreak?.map Prod.snd).getD at_

/-- Whether the markers of a document's start or end stand here. -/
def atDocumentMarker (at_ : Cursor) : Bool :=
  at_.column = 0 && match at_.rest with
    | '-' :: '-' :: '-' :: rest => endsHere rest
    | '.' :: '.' :: '.' :: rest => endsHere rest
    | _ => false

/-- Moves on behind a comment, up to the end of its line. -/
def skipComment (at_ : Cursor) : Cursor :=
  if at_.next? = some '#' then at_.skipWhile fun c => !isBreak c else at_

/-- Reads to the end of a line that holds blanks and a comment at most. -/
def finishLine? (at_ : Cursor) : Option Cursor :=
  let at_ := (at_.skipWhile isBlankChar).skipComment
  if at_.next?.all isBreak then some at_.skipBreak else none

end Cursor

/-- White space inside a plain or a quoted scalar: blanks within a line, or line breaks. -/
structure Gap where
  blanks : List Char
  broken : Bool
  firstBreak : List Char
  moreBreaks : List Char
  deriving DecidableEq, Repr

namespace Gap

def none : Gap := ⟨[], false, [], []⟩

/-- The gap that an escaped line break opens. -/
def escapedBreak : Gap := ⟨[], true, [], []⟩

/-- What a gap contributes to the scalar: a single break folds into a space and several lose the first
one. -/
def folded (gap : Gap) : List Char :=
  if !gap.broken then gap.blanks
  else if gap.firstBreak = ['\n'] then (if gap.moreBreaks.isEmpty then [' '] else gap.moreBreaks)
  else gap.firstBreak ++ gap.moreBreaks

/-- Reads the rest of a gap. A tab that indents a line to less than `margin` columns is a fault. -/
def read? (margin : Int) : Nat → Gap → Cursor → Option (Gap × Cursor)
  | 0, gap, at_ => some (gap, at_)
  | fuel + 1, gap, at_ =>
    match at_.next? with
    | Option.none => some (gap, at_)
    | some c =>
      if isBlankChar c then
        if gap.broken && (at_.column : Int) < margin && c = '\t' then Option.none
        else read? margin fuel (if gap.broken then gap else { gap with blanks := gap.blanks ++ [c] })
          (at_.advance 1)
      else match at_.takeBreak? with
        | Option.none => some (gap, at_)
        | some (b, after) =>
          read? margin fuel
            (if gap.broken then { gap with moreBreaks := gap.moreBreaks ++ [b] }
              else ⟨[], true, [b], []⟩)
            after

end Gap

end ClientStub.Yaml
