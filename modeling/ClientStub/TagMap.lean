import ClientStub.Entries

/-!
# Tag maps

What a documentation block says, by tag name: the bodies of every tag in the order of the text, and the
leading text under `description`.
-/

namespace ClientStub

/-- The bodies under one tag name: one, or two and more in the order of the text. -/
inductive TagSlot where
  | single (body : String)
  | many (first second : String) (more : List String)
  deriving DecidableEq, Repr

namespace TagSlot

def first : TagSlot → String
  | single body => body
  | many body _ _ => body

def all : TagSlot → List String
  | single body => [body]
  | many body other more => body :: other :: more

/-- Adds the body of a further tag of the same name. -/
def push (body : String) : TagSlot → TagSlot
  | single held => many held body []
  | many held other more => many held other (more ++ [body])

theorem all_push (body : String) (slot : TagSlot) : (slot.push body).all = slot.all ++ [body] := by
  cases slot <;> rfl

theorem all_ne_nil (slot : TagSlot) : slot.all ≠ [] := by
  cases slot <;> simp [all]

end TagSlot

/-- The slots of a documentation block by tag name. -/
structure TagMap where
  slots : Entries TagSlot
  deriving DecidableEq, Repr

namespace TagMap

/-- The name under which the leading text of a block is kept. -/
def descriptionName : String := "description"

/-- The map of a block without tags. -/
def ofDescription (text : String) : TagMap := ⟨[(descriptionName, .single text)]⟩

/-- Adds one body under a tag name. -/
def insert (name body : String) (tags : TagMap) : TagMap :=
  ⟨tags.slots.update name fun
    | none => .single body
    | some slot => slot.push body⟩

def get? (tags : TagMap) (name : String) : Option TagSlot := tags.slots.get? name

def contains (tags : TagMap) (name : String) : Bool := (tags.get? name).isSome

/-- The first body under a name. -/
def first? (tags : TagMap) (name : String) : Option String := (tags.get? name).map TagSlot.first

/-- Every body under a name, in the order of the text. -/
def all (tags : TagMap) (name : String) : List String :=
  match tags.get? name with
  | none => []
  | some slot => slot.all

/-- The leading text of the block. -/
def description (tags : TagMap) : String := (tags.first? descriptionName).getD ""

/-- The number of distinct names. -/
def size (tags : TagMap) : Nat := tags.slots.length

theorem all_ofDescription (text : String) : (ofDescription text).all descriptionName = [text] := by
  simp [all, get?, Entries.get?, ofDescription, TagSlot.all]

/-- A body that is added comes behind those of its name. -/
theorem all_insert {name body : String} {tags : TagMap} (sorted : tags.slots.IsSorted) :
    (tags.insert name body).all name = tags.all name ++ [body] := by
  simp only [all, get?, insert, Entries.get?_update sorted]
  cases tags.slots.get? name with
  | none => rfl
  | some slot => exact slot.all_push body

theorem all_insert_of_ne {name other body : String} {tags : TagMap} (ne : other ≠ name) :
    (tags.insert name body).all other = tags.all other := by
  simp only [all, get?, insert, Entries.get?_update_of_ne ne]

theorem isSorted_insert {name body : String} {tags : TagMap} (sorted : tags.slots.IsSorted) :
    (tags.insert name body).slots.IsSorted :=
  sorted.update

end TagMap

end ClientStub
