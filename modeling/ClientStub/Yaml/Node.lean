import ClientStub.Yaml.Style

/-!
# YAML nodes

The tree of a YAML document. A document that goes wrong is kept as far as it was sound: `cut` stands where
its tree breaks off, and nothing comes behind it. An alias names an anchor by its number.
-/

namespace ClientStub.Yaml

/-- The properties of a node: the number of its anchor and its full tag. -/
structure Marks where
  anchor : Option Nat
  tag : Option String
  deriving DecidableEq, Repr

def Marks.none : Marks := ⟨Option.none, Option.none⟩

inductive Node where
  | scalar (marks : Marks) (text : String) (style : ScalarStyle)
  | sequence (marks : Marks) (items : List Node)
  | mapping (marks : Marks) (entries : List (Node × Node))
  | reference (anchor : Nat)
  | cut
  deriving Repr

instance : Inhabited Node := ⟨.cut⟩

namespace Node

/-- The node that stands where nothing is written. -/
def empty : Node := .scalar .none "" .plain

def marks : Node → Marks
  | scalar marks _ _ => marks
  | sequence marks _ => marks
  | mapping marks _ => marks
  | reference _ => .none
  | cut => .none

mutual

/-- The number of a node's marks in the text: two for a collection and one for a scalar or an alias, and
those of all nodes inside. -/
def size : Node → Nat
  | scalar _ _ _ => 1
  | sequence _ items => 2 + sizeOfItems items
  | mapping _ entries => 2 + sizeOfEntries entries
  | reference _ => 1
  | cut => 0

def sizeOfItems : List Node → Nat
  | [] => 0
  | node :: nodes => node.size + sizeOfItems nodes

def sizeOfEntries : List (Node × Node) → Nat
  | [] => 0
  | (key, value) :: entries => key.size + value.size + sizeOfEntries entries

end

mutual

/-- The last node in the text that bears an anchor, a node coming before those inside it. -/
def anchored? (anchor : Nat) : Node → Option Node
  | scalar marks text style => if marks.anchor = some anchor then some (scalar marks text style) else none
  | sequence marks items =>
    (anchoredInItems? anchor items).orElse fun _ =>
      if marks.anchor = some anchor then some (sequence marks items) else none
  | mapping marks entries =>
    (anchoredInEntries? anchor entries).orElse fun _ =>
      if marks.anchor = some anchor then some (mapping marks entries) else none
  | reference _ => none
  | cut => none

def anchoredInItems? (anchor : Nat) : List Node → Option Node
  | [] => none
  | node :: nodes => (anchoredInItems? anchor nodes).orElse fun _ => node.anchored? anchor

def anchoredInEntries? (anchor : Nat) : List (Node × Node) → Option Node
  | [] => none
  | (key, value) :: entries =>
    (anchoredInEntries? anchor entries).orElse fun _ =>
      (value.anchored? anchor).orElse fun _ => key.anchored? anchor

end

mutual

/-- Whether a node is there from its start to its end. -/
def isWhole : Node → Bool
  | scalar _ _ _ => true
  | sequence _ items => areWhole items
  | mapping _ entries => areWholeEntries entries
  | reference _ => true
  | cut => false

def areWhole : List Node → Bool
  | [] => true
  | node :: nodes => node.isWhole && areWhole nodes

def areWholeEntries : List (Node × Node) → Bool
  | [] => true
  | (key, value) :: entries => key.isWhole && value.isWhole && areWholeEntries entries

end

end Node

end ClientStub.Yaml
