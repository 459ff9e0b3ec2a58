import ClientStub.Text.Letters

/-!
# Casing of identifiers

`camelCase` names in snake and kebab case. A name is a sequence of words; a word begins after a dash,
an underscore or a space, and at an upper-case letter that a lower-case letter or an ASCII digit
precedes. Characters that are neither letters, numbers nor separators are left out.
-/

namespace ClientStub.Text

/-- The characters that separate words and belong to none. -/
def isSeparator (c : Char) : Bool := c = '-' || c = '_' || c = ' '

/-- The snake case of the rest of a name. `closed` tells that nothing was written yet or an underscore was
written last, and `afterLower` that an upper-case letter would begin a word now. A separator writes one
underscore between two words at most; a character outside every class writes nothing and leaves open what
the next letter begins. -/
def snakeFrom (closed afterLower : Bool) : List Char → List Char
  | [] => []
  | c :: rest =>
    if isUppercase c then (if afterLower then ['_'] else []) ++ toLowercase c ++ snakeFrom false false rest
    else if isAlphanumeric c then c :: snakeFrom false (isLowercase c || c.isDigit) rest
    else if isSeparator c then (if closed then [] else ['_']) ++ snakeFrom true false rest
    else snakeFrom closed afterLower rest

private def isUnderscore (c : Char) : Bool := c = '_'

/-- A name in snake case, without underscores at its ends. -/
def snakeChars (name : List Char) : List Char :=
  ((snakeFrom true false name).reverse.dropWhile isUnderscore).reverse

def snakeCase (name : String) : String := String.ofList (snakeChars name.toList)

/-- A name in kebab case: snake case with dashes. -/
def kebabChars (name : List Char) : List Char :=
  (snakeChars name).map fun c => if c = '_' then '-' else c

def kebabCase (name : String) : String := String.ofList (kebabChars name.toList)

/-- The text with its first character in upper case, which may lengthen it. -/
def upperFirst (text : String) : String :=
  match text.toList with
  | [] => ""
  | c :: rest => String.ofList (toUppercase c ++ rest)

end ClientStub.Text
