import ClientStub.Text.Lines

/-!
# Documentation comments

Lines of text as a comment, each physical line behind a star. A logical line may hold line feeds; it then
becomes as many physical lines.
-/

namespace ClientStub.DocComment

open ClientStub.Text

/-- One physical line of a comment. -/
def starred (line : List Char) : List Char := if line.isEmpty then " *".toList else " * ".toList ++ line

/-- The physical lines of one logical line. An empty logical line has one, which is empty. -/
def physicalLines (line : List Char) : List (List Char) := if line.isEmpty then [[]] else lines line

/-- One logical line of a comment. -/
def line (text : String) : String :=
  String.ofList (joinLines ((physicalLines text.toList).map starred))

/-- A whole comment: its logical lines between the delimiters. -/
def block (texts : List String) : String :=
  "/**\n" ++ String.join (texts.map fun text => line text ++ "\n") ++ " */"

end ClientStub.DocComment
