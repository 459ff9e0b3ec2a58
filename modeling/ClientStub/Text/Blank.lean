/-!
# White space

Which characters count as white space, and the three trims. White space is the property `White_Space`
of the Unicode Character Database: twenty-five characters, the line feed among them, and not the zero
width space or the byte order mark.
-/

namespace ClientStub.Text

/-- The characters with the property `White_Space`. -/
def blanks : List Char :=
  ['\t', '\n', '\x0b', '\x0c', '\r', ' ', '\u0085', '\u00a0', '\u1680', '\u2000', '\u2001', '\u2002',
   '\u2003', '\u2004', '\u2005', '\u2006', '\u2007', '\u2008', '\u2009', '\u200a', '\u2028', '\u2029',
   '\u202f', '\u205f', '\u3000']

def isBlank (c : Char) : Bool := blanks.contains c

/-- A text of white space alone, the empty text included. -/
def isBlankText (text : List Char) : Bool := text.all isBlank

def trimStart (text : List Char) : List Char := text.dropWhile isBlank

/-- Drops from the end every character that passes `drop`. -/
def dropEndWhile (drop : Char → Bool) (text : List Char) : List Char :=
  (text.reverse.dropWhile drop).reverse

def trimEnd (text : List Char) : List Char := dropEndWhile isBlank text

def trim (text : List Char) : List Char := trimEnd (trimStart text)

/-- The rest of `text` after `start`, when it begins with it. -/
def dropStart? (start text : List Char) : Option (List Char) :=
  if start.isPrefixOf text then some (text.drop start.length) else none

/-- What stands before `ending`, when `text` ends with it. -/
def dropEnd? (ending text : List Char) : Option (List Char) :=
  (dropStart? ending.reverse text.reverse).map List.reverse

example : trim " \u2003a b\r\n".toList = "a b".toList := by decide
example : dropEnd? "*/".toList "x */".toList = some "x ".toList := by decide

end ClientStub.Text
