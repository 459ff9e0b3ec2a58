/-!
# Paths

A path as text, its steps, and paths put together. Steps are separated by slashes.
-/

namespace ClientStub.Path

/-- The parts of a text between slashes. -/
def parts : List Char → List (List Char)
  | [] => [[]]
  | c :: rest =>
    if c = '/' then [] :: parts rest
    else match parts rest with
      | [] => [[c]]
      | part :: others => (c :: part) :: others

/-- The steps of a path: its parts without empty ones. -/
def steps (path : String) : List String :=
  ((parts path.toList).filter fun part => !part.isEmpty).map String.ofList

def isAbsolute (path : String) : Bool := path.toList.head? = some '/'

/-- Whether a path asks for a directory by ending with a slash. -/
def endsWithSlash (path : String) : Bool := path.toList.getLast? = some '/'

/-- A path below a directory. An absolute path stays as it is. -/
def below (directory path : String) : String :=
  if isAbsolute path || directory = "" then path
  else if endsWithSlash directory then directory ++ path
  else directory ++ "/" ++ path

/-- The steps of a path without those that stay where they are; one of these may begin a relative path. -/
def plainSteps (path : String) : List String :=
  match steps path with
  | [] => []
  | first :: others =>
    (if first = "." && isAbsolute path then [] else [first]) ++ others.filter (· ≠ ".")

/-- The paths of the directories above a path, the nearest first. -/
def ancestors (path : String) : List String :=
  let names := plainSteps path
  (List.range (names.length - 1)).reverse.map fun n =>
    (if isAbsolute path then "/" else "") ++ String.intercalate "/" (names.take (n + 1))

/-- The name of the file that a path leads to; a path that ends by going up leads to none. -/
def fileName? (path : String) : Option String :=
  (plainSteps path).getLast?.filter fun name => name ≠ "." && name ≠ ".."

/-- What follows the last dot of a file's name. A dot that the name begins with does not count. -/
def extension? (path : String) : Option String := do
  let name := (← fileName? path).toList
  let ending := name.reverse.takeWhile (· ≠ '.')
  if ending.length + 1 < name.length then some (String.ofList ending.reverse) else none

end ClientStub.Path
