import ClientStub.Text.Blank

/-!
# Physical lines

A text as its lines, and lines as a text. A line ends at a line feed, or at a carriage return that a
line feed follows; the end of the text ends its last line, so a final line feed opens no further line.
-/

namespace ClientStub.Text

/-- The lines of a text, without their endings. -/
def lines : List Char → List (List Char)
  | [] => []
  | '\n' :: rest => [] :: lines rest
  | '\r' :: '\n' :: rest => [] :: lines rest
  | c :: rest =>
    match lines rest with
    | [] => [[c]]
    | line :: others => (c :: line) :: others

/-- Lines with a line feed between each two. -/
def joinLines (ls : List (List Char)) : List Char := ['\n'].intercalate ls

/-- Sets `margin` before every line that holds more than white space; other lines become empty. -/
def indentChars (margin text : List Char) : List Char :=
  joinLines ((lines text).map fun line => if isBlankText line then [] else margin ++ line)

def indent (margin text : String) : String :=
  String.ofList (indentChars margin.toList text.toList)

/-- Texts with `separator` between each two. -/
def join (separator : String) : List String → String
  | [] => ""
  | [text] => text
  | text :: others => text ++ separator ++ join separator others

example : lines "a\r\n\nb\r".toList = ["a".toList, [], "b\r".toList] := by decide
example : lines "a\n".toList = ["a".toList] := by decide

end ClientStub.Text
