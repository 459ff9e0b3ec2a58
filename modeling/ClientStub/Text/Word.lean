import ClientStub.Text.Blank

/-!
# Words

A text's first word and what follows it. A word is a run of characters that are no white space.
-/

namespace ClientStub.Text

/-- The first word of a text, and the rest of the text without the white space that follows the word.
Both are empty for a blank text. -/
def splitWord (text : List Char) : List Char × List Char :=
  let begun := trimStart text
  (begun.takeWhile fun c => !isBlank c, trimStart (begun.dropWhile fun c => !isBlank c))

def nextWord (text : String) : String × String :=
  let (word, rest) := splitWord text.toList
  (String.ofList word, String.ofList rest)

/-- The text before the first `mark` and the text after it; all of it and nothing when it has none. -/
def splitAtFirst (mark : Char) (text : List Char) : List Char × List Char :=
  (text.takeWhile (· != mark), (text.dropWhile (· != mark)).drop 1)

example : splitWord " int  $id the id".toList = ("int".toList, "$id the id".toList) := by decide

end ClientStub.Text
