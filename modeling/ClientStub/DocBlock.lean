import ClientStub.TagMap
import ClientStub.Text.Letters
import ClientStub.Text.Lines

/-!
# Documentation blocks

A documentation block is a comment of a class or a method: free text, and then tags such as
`@param int $id`. An at sign begins a tag unless a word, an opening brace or a backslash stands right
before it or an opening brace right behind it, so that addresses and inline markup stay part of the text.
A tag reaches to the next tag; its name is the run of letters, digits, underscores and dashes behind the
sign, and its body the rest. A tag without a name is left out.
-/

namespace ClientStub.DocBlock

open ClientStub.Text

/-- Drops the comment delimiters around a block, where it has them. -/
def withoutDelimiters (block : List Char) : List Char :=
  let text := trim block
  let text := ((dropStart? "/**".toList text).orElse fun _ => dropStart? "/*".toList text).getD text
  (dropEnd? "*/".toList text).getD text

/-- A line without the white space around it and without one leading star. -/
def plainLine (line : List Char) : List Char :=
  let line := trimStart line
  trimEnd ((dropStart? ['*'] line).elim line trimStart)

/-- The text of a block: its lines without comment delimiters and stars. -/
def plainText (block : String) : List Char :=
  trim (joinLines ((lines (withoutDelimiters block.toList)).map plainLine))

/-- A text without white space at the ends of its lines and without blank lines around it. -/
def tidy (text : List Char) : List Char := trim (joinLines ((lines text).map trimEnd))

def introducer : Char := '@'

/-- A character that keeps an at sign behind it from beginning a tag. -/
def bindsIntroducer (c : Char) : Bool := isAlphanumeric c || c = '_' || c = '\x7b' || c = '\\'

/-- Whether `c` begins a tag between the character before it and the text behind it. -/
def beginsTag (before : Option Char) (c : Char) (behind : List Char) : Bool :=
  c = introducer && !(before.any bindsIntroducer) && behind.head? != some '\x7b'

/-- Cuts a text before each of its tags: the part before the first tag, and what stands behind the at sign
of each tag up to the next one. `before` is the character in front of the text. -/
def cut (before : Option Char) : List Char → List Char × List (List Char)
  | [] => ([], [])
  | c :: rest =>
    let (part, parts) := cut (some c) rest
    if beginsTag before c rest then ([], part :: parts) else (c :: part, parts)

/-- The parts of a text, each behind its at sign, make up the text. -/
theorem cut_source (before : Option Char) (text : List Char) :
    (cut before text).1 ++ (cut before text).2.flatMap (introducer :: ·) = text := by
  induction text generalizing before with
  | nil => rfl
  | cons c rest ih =>
    simp only [cut]
    split
    · rename_i begins
      have same : c = introducer := by
        simp only [beginsTag, Bool.and_eq_true, decide_eq_true_eq] at begins
        exact begins.1.1
      simp [same, ih]
    · simp [ih]

def isNameChar (c : Char) : Bool := isAsciiAlphanumeric c || c = '_' || c = '-'

/-- A tag as it stands in the text, without its at sign. The name is empty where none follows it. -/
structure Span where
  name : List Char
  body : List Char
  deriving DecidableEq, Repr

/-- Tells a tag's name from its body. -/
def Span.ofText (text : List Char) : Span := ⟨text.takeWhile isNameChar, text.dropWhile isNameChar⟩

theorem Span.ofText_source (text : List Char) : (ofText text).name ++ (ofText text).body = text :=
  List.takeWhile_append_dropWhile

/-- The text before the first tag. -/
def leading (text : List Char) : List Char := (cut none text).1

/-- The tags of a text in their order, those without a name included. -/
def spans (text : List Char) : List Span := (cut none text).2.map Span.ofText

/-- The name under which a tag is kept: `return` and `returns` are one. There is none for a tag without a
name. -/
def Span.name? (span : Span) : Option String :=
  if span.name.isEmpty then none
  else if span.name = "return".toList then some "returns"
  else some (String.ofList span.name)

/-- The body of a tag as it is kept. -/
def Span.text (span : Span) : String := String.ofList (tidy span.body)

/-- Adds a tag to a map, unless it has no name. -/
def addSpan (tags : TagMap) (span : Span) : TagMap :=
  match span.name? with
  | none => tags
  | some name => tags.insert name span.text

/-- The tag map of a block. An absent block says nothing. -/
def tags : Option String → TagMap
  | none => .ofDescription ""
  | some block =>
    let text := plainText block
    (spans text).foldl addSpan (.ofDescription (String.ofList (tidy (leading text))))

/-- The body of the first tag of a name, read without making the map. -/
def tag? (name : String) : Option String → Option String
  | none => none
  | some block => ((spans (plainText block)).find? fun span => span.name? == some name).map Span.text

/-- How many tags of a block have no name. -/
def namelessCount : Option String → Nat
  | none => 0
  | some block => (spans (plainText block)).countP fun span => span.name.isEmpty

end ClientStub.DocBlock
