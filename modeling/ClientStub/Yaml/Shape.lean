import ClientStub.Json.Value
import ClientStub.Mismatch
import ClientStub.Yaml.Document
import ClientStub.Yaml.Plain

/-!
# Reading YAML documents by shape

Readers of a node that is wanted to have some shape. They go through the tree in the order of the text, so
that of two faults the first is reported, and the place where a tree is cut counts as a fault there. Each
alias that is followed is counted; a document may have no more than a hundred of them followed for each of
its marks.
-/

namespace ClientStub.Yaml

/-- Why a YAML document could not be read. -/
inductive Failure where
  | malformed
  | mismatch (fault : Mismatch)
  deriving DecidableEq, Repr

/-- Reading inside a document, whose root is given, while some number of aliases may still be followed. -/
abbrev Read (α : Type) := ReaderT Node (StateT Nat (Except Failure)) α

namespace Read

variable {α : Type}

def fail (failure : Failure) : Read α := throw failure

def failMismatch (fault : Mismatch) : Read α := throw (.mismatch fault)

/-- The node that an alias stands for, or the node itself. -/
def follow (node : Node) : Read Node := do
  match node with
  | .cut => fail .malformed
  | .reference anchor =>
    match ← get, (← read).anchored? anchor with
    | left + 1, some target => do
      set left
      pure target
    | _, _ => fail .malformed
  | node => pure node

/-- The full names of the core types. -/
def boolTag : String := "tag:yaml.org,2002:bool"
def integerTag : String := "tag:yaml.org,2002:int"
def floatTag : String := "tag:yaml.org,2002:float"
def nullTag : String := "tag:yaml.org,2002:null"

/-- What a scalar of a core type stands for. -/
def coreValue? (tag text : String) : Option (Except Mismatch PlainValue) :=
  let orElse (value : Option PlainValue) (wanted : String) : Except Mismatch PlainValue :=
    match value with
    | some value => .ok value
    | none => .error (.wrongValue (.text text) wanted)
  if tag = boolTag then some (orElse ((boolWord? text).map .bool) "a boolean")
  else if tag = integerTag then some (orElse ((integerOf? text.toList).map .integer) "an integer")
  else if tag = floatTag then some (orElse (floatOf? text) "a float")
  else if tag = nullTag then some (orElse (if isNullWord text then some .null else none) "null")
  else none

def isLocalTag (tag : String) : Bool := tag.toList.head? = some '!'

/-- What a scalar stands for. Tags of the core types are kept to; under a local tag it is read as if it had
none; under any other tag it is text. -/
def scalarValue (marks : Marks) (text : String) (style : ScalarStyle) : Except Mismatch PlainValue :=
  let plainValue := if style = .plain then PlainValue.ofText text else .text
  match marks.tag with
  | none => .ok plainValue
  | some tag => (coreValue? tag text).getD (.ok (if isLocalTag tag then plainValue else .text))

/-- What a value is called in a message. -/
def found (text : String) : PlainValue → Found
  | .null => .unit
  | .bool value => .bool value
  | .integer value =>
    if fitsWord 64 value then .integer value else .wideInteger value
  | .real value => .number value.positional
  | .infinite negative => .number (if negative then "-inf" else "inf")
  | .notANumber => .number "NaN"
  | .text => .text text

/-- Fails because a node is not what is wanted. -/
def unwanted (wanted : Wanted) (node : Node) : Read α :=
  match node with
  | .scalar marks text style =>
    match scalarValue marks text style with
    | .ok value => failMismatch (.wrongType (found text value) wanted)
    | .error fault => failMismatch fault
  | .sequence _ _ => failMismatch (.wrongType .sequence wanted)
  | .mapping _ _ => failMismatch (.wrongType .map wanted)
  | _ => fail .malformed

/-- The text of a scalar, whatever it looks like. -/
def textAs (wanted : Wanted) (node : Node) : Read String := do
  match ← follow node with
  | .scalar _ text _ => pure text
  | other => unwanted wanted other

def text (node : Node) : Read String := textAs .text node

/-- The text of a scalar, or none for a plain null. -/
def optionalText (node : Node) : Read (Option String) := do
  match ← follow node with
  | .scalar marks text .plain =>
    match marks.tag with
    | none => pure (if text = "" || isNullWord text then none else some text)
    | some tag =>
      if tag ≠ nullTag then pure (some text)
      else if isNullWord text then pure none
      else failMismatch (.wrongValue (.text text) "null")
  | other => some <$> Read.text other

/-- A boolean, which is a plain scalar or a literal one under the tag of booleans. -/
def bool (node : Node) : Read Bool := do
  let node ← follow node
  match node with
  | .scalar marks text style =>
    if style = .plain || (style = .literal && marks.tag = some boolTag) then
      match boolWord? text with
      | some value => pure value
      | none => unwanted .bool node
    else unwanted .bool node
  | _ => unwanted .bool node

/-- Whether nothing is written at a node. -/
def isNothing : Node → Bool
  | .scalar _ "" .plain => true
  | _ => false

/-- The items of a sequence, of which there are none where nothing is written. -/
def items (item : Node → Read α) (node : Node) : Read (List α) := do
  let node ← follow node
  match node with
  | .sequence _ nodes => nodes.mapM item
  | _ => if isNothing node then pure [] else unwanted .sequence node

/-- The entries of a mapping, of which there are none where nothing is written. -/
def entries (wanted : Wanted) (node : Node) : Read (List (Node × Node)) := do
  let node ← follow node
  match node with
  | .mapping _ entries => pure entries
  | _ => if isNothing node then pure [] else unwanted wanted node

/-- A mapping of texts. Of two values under one name the later one counts. -/
def texts (node : Node) : Read (Entries String) := do
  let pairs ← (← entries .map node).mapM fun (key, value) => do pure (← text key, ← text value)
  pure (.ofList pairs)

/-- A record: a mapping with named fields. What has been read so far is handed from field to field, and
`finish` makes the result of it. -/
def record {σ : Type} (name : String) (start : σ) (field : σ → String → Node → Read σ)
    (finish : σ → Except Mismatch α) (node : Node) : Read α := do
  let pairs ← entries (.record name) node
  let held ← pairs.foldlM (fun held (key, value) => do field held (← textAs .fieldName key) value) start
  match finish held with
  | .ok result => pure result
  | .error fault => failMismatch fault

/-- Puts what is read into a field that must not have been read before. -/
def once {σ β : Type} (name : String) (held : Option β) (value : Read β) (put : β → σ) : Read σ :=
  if held.isSome then failMismatch (.duplicateField name) else put <$> value

/-- Passes over a node, which must be there to its end. -/
def skip {σ : Type} (held : σ) (node : Node) : Read σ :=
  if node.isWhole then pure held else fail .malformed

/-- The JSON value of a scalar. Infinities and the absence of a number become null; integers beyond 64 bits
have no JSON value. -/
def scalarJson (text : String) : PlainValue → Read Json
  | .null => pure .null
  | .bool value => pure (.bool value)
  | .integer value =>
    if fitsWord 64 value then pure (.number (.integer value)) else fail .malformed
  | .real value => pure (.number (.real value))
  | .infinite _ => pure .null
  | .notANumber => pure .null
  | .text => pure (.string text)

/-- The JSON value of a node with at most `nesting` collections inside one another. Nodes under a local tag
have none. -/
def value : Nat → Node → Read Json
  | nesting, node => do
    let node ← follow node
    if node.marks.tag.any isLocalTag then failMismatch (.wrongType .tagged .anyValue)
    else match node, nesting with
      | .scalar marks text style, _ =>
        match scalarValue marks text style with
        | .ok found => scalarJson text found
        | .error fault => failMismatch fault
      | .sequence _ nodes, inner + 1 => do
        let items ← nodes.mapM fun item => value inner item
        pure (.array items)
      | .mapping _ entries, inner + 1 => do
        let (_, members) ← entries.foldlM
          (fun (wanted, members) (key, item) => do
            let name ← textAs wanted key
            let item ← value inner item
            pure (Wanted.text, Entries.set name item members))
          (Wanted.memberName, ([] : Entries Json))
        pure (.object members)
      | _, _ => fail .malformed

end Read

/-- How often aliases may be followed for each mark of a document. -/
def followsPerMark : Nat := 100

/-- Reads a text of one document. A text without a document reads like one with nothing written in it. -/
def ofText {α : Type} (read : Node → Read α) (text : String) : Except Failure α := do
  let document := Document.ofText text
  let root := document.root.getD Node.empty
  let (result, _) ← (read root).run root |>.run (followsPerMark * root.size)
  if document.complete then pure result else throw .malformed

end ClientStub.Yaml
