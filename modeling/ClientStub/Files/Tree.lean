import ClientStub.Files.Fault
import ClientStub.Files.Path

/-!
# File trees

The files and directories that a run can reach, and the rules by which paths are followed, directories made
and files read and written. A place is the list of names that lead to it from the working directory. Steps
that go up from there lead outside; such places and the root exist but hold nothing of their own.
-/

namespace ClientStub

/-- What a file holds: a text, or bytes that are none. -/
inductive Content where
  | text (value : String)
  | bytes (values : List Nat)
  deriving DecidableEq, Repr

inductive FileEntry where
  | directory
  | file (content : Content)
  deriving DecidableEq, Repr

/-- A place by the names that lead to it. -/
abbrev Place := List String

structure FileTree where
  entries : List (Place × FileEntry)
  deriving DecidableEq, Repr

namespace FileTree

/-- The root of absolute paths. -/
def root : Place := ["/"]

/-- Whether a place is there before anything is put anywhere. -/
def isGiven (place : Place) : Bool := place = root || place.all (· = "..")

def get? (tree : FileTree) (place : Place) : Option FileEntry :=
  if isGiven place then some .directory else tree.entries.lookup place

def isDirectory (tree : FileTree) (place : Place) : Bool := tree.get? place = some .directory

/-- Puts an entry at a place. -/
def put (place : Place) (entry : FileEntry) (tree : FileTree) : FileTree :=
  ⟨replace tree.entries⟩
where
  replace : List (Place × FileEntry) → List (Place × FileEntry)
    | [] => [(place, entry)]
    | (other, held) :: entries =>
      if other = place then (place, entry) :: entries else (other, held) :: replace entries

/-- Names have up to 255 bytes. -/
def isTooLong (name : String) : Bool := 255 < name.utf8ByteSize

/-- The place above a place. -/
def above (place : Place) : Place :=
  if place = root then root
  else match place.getLast? with
    | none => [".."]
    | some ".." => place ++ [".."]
    | some _ => place.dropLast

/-- Takes one step from a directory to an entry. -/
def step (tree : FileTree) (directory : Place) (name : String) : Except FileFault Place :=
  if name = "." then .ok directory
  else if name = ".." then .ok (above directory)
  else if isTooLong name then .error .nameTooLong
  else match tree.get? (directory ++ [name]) with
    | some _ => .ok (directory ++ [name])
    | none => .error .notFound

/-- Takes steps each of which must lead to a directory. -/
def enter (tree : FileTree) (directory : Place) : List String → Except FileFault Place
  | [] => .ok directory
  | name :: names => do
    let place ← tree.step directory name
    if tree.isDirectory place then tree.enter place names else .error .notADirectory

/-- A path as its steps to the directory it leads into and its last step. There is no last step in a path
of slashes. -/
structure Route where
  start : Place
  before : List String
  last : Option String
  /-- Whether the path ends with a slash. -/
  wantsDirectory : Bool
  deriving DecidableEq, Repr

/-- Paths have up to 4095 bytes. -/
def route (path : String) : Except FileFault Route :=
  if path.toList.contains '\x00' then .error .nulInPath
  else if path = "" then .error .notFound
  else if 4095 < path.utf8ByteSize then .error .nameTooLong
  else
    let steps := Path.steps path
    .ok ⟨if Path.isAbsolute path then root else [], steps.dropLast, steps.getLast?, Path.endsWithSlash path⟩

/-- The place that a path leads to. -/
def find (tree : FileTree) (path : String) : Except FileFault Place := do
  let route ← route path
  let directory ← tree.enter route.start route.before
  match route.last with
  | none => pure directory
  | some name =>
    let place ← tree.step directory name
    if route.wantsDirectory && !tree.isDirectory place then .error .notADirectory else pure place

/-- Reads the text of a file. -/
def readText (tree : FileTree) (path : String) : Except FileFault String := do
  let place ← tree.find path
  match tree.get? place with
  | some (.file (.text text)) => pure text
  | some (.file (.bytes _)) => .error .notText
  | some .directory => .error .isADirectory
  | none => .error .notFound

/-- Writes a text to a file, which is made if it is not there. -/
def writeText (path text : String) (tree : FileTree) : Except FileFault FileTree := do
  let route ← route path
  let directory ← tree.enter route.start route.before
  match route.last with
  | none => .error .isADirectory
  | some name =>
    if route.wantsDirectory || name = "." || name = ".." then .error .isADirectory
    else if isTooLong name then .error .nameTooLong
    else
      let place := directory ++ [name]
      if tree.isDirectory place then .error .isADirectory
      else pure (tree.put place (.file (.text text)))

/-- Makes one directory inside one that is there. -/
def makeDirectory (path : String) (tree : FileTree) : Except FileFault FileTree := do
  let route ← route path
  let directory ← tree.enter route.start route.before
  match route.last with
  | none => .error .alreadyExists
  | some name =>
    if name = "." || name = ".." then .error .alreadyExists
    else if isTooLong name then .error .nameTooLong
    else
      let place := directory ++ [name]
      if (tree.get? place).isSome then .error .alreadyExists else pure (tree.put place .directory)

/-- Whether a path leads to a directory. -/
def leadsToDirectory (tree : FileTree) (path : String) : Bool :=
  match tree.find path with
  | .ok place => tree.isDirectory place
  | .error _ => false

/-- Makes one directory, unless it is there. -/
def ensureDirectory (path : String) (tree : FileTree) : Except FileFault FileTree :=
  match tree.makeDirectory path with
  | .ok made => .ok made
  | .error .alreadyExists => if tree.leadsToDirectory path then .ok tree else .error .alreadyExists
  | .error fault => .error fault

/-- Makes the first of some directories after the others, which lie above it, where those are missing. What
was made stays made after a fault. -/
def makeAlong : List String → FileTree → Except FileFault Unit × FileTree
  | [], tree => (.ok (), tree)
  | path :: above, tree =>
    match tree.ensureDirectory path with
    | .ok made => (.ok (), made)
    | .error .notFound =>
      match makeAlong above tree with
      | (.error fault, tree) => (.error fault, tree)
      | (.ok (), tree) =>
        match tree.ensureDirectory path with
        | .ok made => (.ok (), made)
        | .error fault => (.error fault, tree)
    | .error fault => (.error fault, tree)

/-- Makes a directory and all directories above it that are missing. An empty path is the working
directory. -/
def createDirectories (path : String) (tree : FileTree) : Except FileFault Unit × FileTree :=
  if path = "" then (.ok (), tree) else makeAlong (path :: Path.ancestors path) tree

end FileTree

end ClientStub
