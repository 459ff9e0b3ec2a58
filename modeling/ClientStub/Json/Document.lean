import ClientStub.Entries
import ClientStub.Json.Reader

/-!
# Reading JSON documents by shape

Arrays and objects are read by a reader for one item or one member, so that a document's shape is met
while its text is read. A record is an object of named fields or an array of the fields in order. The
module ends with the two readers that want no shape: the one that skips a value and the one that builds
it.
-/

namespace ClientStub.Json

/-- Steps to the next item of an array: nothing when the array closes here, and otherwise the text of
the item. -/
def nextItem (first : Bool) (text : List Char) : Except Failure (Option (List Char)) :=
  match skipSpace text with
  | [] => .error .cutShort
  | ']' :: _ => .ok none
  | c :: rest =>
    if first then .ok (some (c :: rest))
    else if c = ',' then
      match skipSpace rest with
      | [] => .error .cutShort
      | ']' :: _ => .error .malformed
      | item => .ok (some item)
    else .error .malformed

/-- Reads the end of an array whose items have been read. -/
def closeArray (text : List Char) : Except Failure (List Char) :=
  match skipSpace text with
  | [] => .error .cutShort
  | ']' :: rest => .ok rest
  | _ => .error .malformed

/-- Steps to the next member of an object: nothing when the object closes here, and otherwise the text
behind the opening quote of the member's name. -/
def nextMember (first : Bool) (text : List Char) : Except Failure (Option (List Char)) :=
  match skipSpace text with
  | [] => .error .cutShort
  | '\x7d' :: _ => .ok none
  | c :: rest =>
    if first then (if c = '"' then .ok (some rest) else .error .malformed)
    else if c = ',' then
      match skipSpace rest with
      | [] => .error .cutShort
      | '"' :: name => .ok (some name)
      | _ => .error .malformed
    else .error .malformed

/-- Reads the end of an object whose members have been read. -/
def closeObject (text : List Char) : Except Failure (List Char) :=
  match skipSpace text with
  | [] => .error .cutShort
  | '\x7d' :: rest => .ok rest
  | _ => .error .malformed

/-- Reads the colon between a member's name and its value. -/
def readColon (text : List Char) : Except Failure (List Char) :=
  match skipSpace text with
  | [] => .error .cutShort
  | ':' :: rest => .ok rest
  | _ => .error .malformed

/-- Reads the items of an array from behind its opening bracket to its closing one. Every item takes a
character at least, so the length of the text bounds their number. -/
def readItems {α : Type} (item : Reader α) : Nat → Bool → Reader (List α)
  | 0, _, _ => .error .malformed
  | fuel + 1, first, text =>
    match nextItem first text with
    | .error e => .error e
    | .ok none => .ok ([], text)
    | .ok (some start) =>
      match item start with
      | .error e => .error e
      | .ok (value, rest) => (readItems item fuel false rest).map fun (values, last) => (value :: values, last)

/-- Reads the members of an object from behind its opening brace to its closing one. What has been read
so far is handed from member to member; `member` reads a value, given the member's name. -/
def readMembers {σ : Type} (member : σ → String → Reader σ) : Nat → Bool → σ → Reader σ
  | 0, _, _, _ => .error .malformed
  | fuel + 1, first, held, text =>
    match nextMember first text with
    | .error e => .error e
    | .ok none => .ok (held, text)
    | .ok (some start) => do
      let (name, rest) ← readText start
      let rest ← readColon rest
      let (held, rest) ← member held name rest
      readMembers member fuel false held rest

/-- A whole array: items between brackets. -/
def readArrayBody {α : Type} (item : Reader α) : Reader (List α) := fun text => do
  let (values, rest) ← readItems item (text.length + 1) true text
  let rest ← closeArray rest
  pure (values, rest)

/-- A whole object: members between braces, and a last step that makes the result of them. -/
def readObjectBody {σ α : Type} (start : σ) (member : σ → String → Reader σ)
    (finish : σ → Except Failure α) : Reader α := fun text => do
  let (held, rest) ← readMembers member (text.length + 1) true start text
  let value ← finish held
  let rest ← closeObject rest
  pure (value, rest)

/-- Reads as much of a value as it takes to say what it is, and fails because it is not what is
wanted. A fault in the text read for this comes first. -/
def unwanted {α : Type} (wanted : Wanted) (text : List Char) : Except Failure α :=
  let fail (found : Found) : Except Failure α := .error (.mismatch (.wrongType found wanted))
  let number (negative : Bool) (text : List Char) : Except Failure α := do
    match ← readNumber negative text with
    | (.integer n, _) => fail (.integer n)
    | (.real x, _) => fail (.number x.compact)
  match text with
  | 'n' :: rest => do
    let _ ← readExactly "ull".toList rest
    fail .null
  | 't' :: rest => do
    let _ ← readExactly "rue".toList rest
    fail (.bool true)
  | 'f' :: rest => do
    let _ ← readExactly "alse".toList rest
    fail (.bool false)
  | '-' :: rest => number true rest
  | '"' :: rest => do
    let (found, _) ← readText rest
    fail (.text found)
  | '[' :: _ => fail .sequence
  | '\x7b' :: _ => fail .map
  | [] => .error .cutShort
  | c :: _ => if isDigit c then number false text else .error .malformed

def readString : Reader String := fun text =>
  match skipSpace text with
  | [] => .error .cutShort
  | '"' :: rest => readText rest
  | other => unwanted .text other

/-- A string, or a null for none. -/
def readOptionalString : Reader (Option String) := fun text =>
  match skipSpace text with
  | 'n' :: rest => (readExactly "ull".toList rest).map fun rest => (none, rest)
  | other => (readString other).map fun (value, rest) => (some value, rest)

def readBool : Reader Bool := fun text =>
  match skipSpace text with
  | [] => .error .cutShort
  | 't' :: rest => (readExactly "rue".toList rest).map fun rest => (true, rest)
  | 'f' :: rest => (readExactly "alse".toList rest).map fun rest => (false, rest)
  | other => unwanted .bool other

def readArray {α : Type} (item : Reader α) : Reader (List α) := fun text =>
  match skipSpace text with
  | [] => .error .cutShort
  | '[' :: rest => readArrayBody item rest
  | other => unwanted .sequence other

/-- A record: an object whose members are named fields, or an array of the fields in their order. -/
def readRecord {α : Type} (name : String) (object : Reader α) (array : Reader α) : Reader α := fun text =>
  match skipSpace text with
  | [] => .error .cutShort
  | '[' :: rest => do
    let (value, rest) ← array rest
    let rest ← closeArray rest
    pure (value, rest)
  | '\x7b' :: rest => object rest
  | other => unwanted (.record name) other

/-- The next field of a record that is written as an array, or none when the array ends before it. -/
def nextField {α : Type} (first : Bool) (field : Reader α) : Reader (Option α) := fun text =>
  match nextItem first text with
  | .error e => .error e
  | .ok none => .ok (none, text)
  | .ok (some start) => (field start).map fun (value, rest) => (some value, rest)

/-- Skips the digits of a number from behind its sign. -/
def skipNumber (text : List Char) : Except Failure (List Char) :=
  match text with
  | '0' :: rest => if (rest.head?.map isDigit).getD false then .error .malformed else fraction rest
  | c :: rest => if isDigit c then fraction (rest.dropWhile isDigit) else .error .malformed
  | [] => .error .malformed
where
  fraction : List Char → Except Failure (List Char)
    | '.' :: c :: rest => if isDigit c then exponent (rest.dropWhile isDigit) else .error .malformed
    | ['.'] => .error .malformed
    | text => exponent text
  exponent : List Char → Except Failure (List Char)
    | 'e' :: rest => power rest
    | 'E' :: rest => power rest
    | text => .ok text
  power : List Char → Except Failure (List Char)
    | '+' :: rest => digits rest
    | '-' :: rest => digits rest
    | rest => digits rest
  digits : List Char → Except Failure (List Char)
    | c :: rest => if isDigit c then .ok (rest.dropWhile isDigit) else .error .malformed
    | [] => .error .malformed

/-- An array or an object that is open around the place of reading. -/
inductive Enclosure where
  | array
  | object
  deriving DecidableEq, Repr

/-- What comes next while a value is skipped: a value, or what may stand behind one. -/
inductive SkipPoint where
  | value
  | behindValue
  | behindOpening
  deriving DecidableEq, Repr

/-- Skips a member's name and the colon behind it. -/
def skipMemberName (text : List Char) : Except Failure (List Char) :=
  match skipSpace text with
  | [] => .error .cutShort
  | '"' :: rest => do readColon (← skipStringBody rest)
  | _ => .error .malformed

/-- Skips a value inside the given enclosures, the innermost first. Every step takes a character or
leaves an opening or a closing behind, so twice the length of the text bounds the steps. -/
def skipFrom : Nat → List Enclosure → SkipPoint → List Char → Except Failure (List Char)
  | 0, _, _, _ => .error .malformed
  | fuel + 1, open_, .value, text =>
    match skipSpace text with
    | [] => .error .cutShort
    | 'n' :: rest => do skipFrom fuel open_ .behindValue (← readExactly "ull".toList rest)
    | 't' :: rest => do skipFrom fuel open_ .behindValue (← readExactly "rue".toList rest)
    | 'f' :: rest => do skipFrom fuel open_ .behindValue (← readExactly "alse".toList rest)
    | '-' :: rest => do skipFrom fuel open_ .behindValue (← skipNumber rest)
    | '"' :: rest => do skipFrom fuel open_ .behindValue (← skipStringBody rest)
    | '[' :: rest => skipFrom fuel (.array :: open_) .behindOpening rest
    | '\x7b' :: rest => skipFrom fuel (.object :: open_) .behindOpening rest
    | c :: rest =>
      if isDigit c then do skipFrom fuel open_ .behindValue (← skipNumber (c :: rest))
      else .error .malformed
  | _ + 1, [], _, text => .ok text
  | fuel + 1, inner :: outer, point, text =>
    match skipSpace text, inner with
    | [], _ => .error .cutShort
    | ']' :: rest, .array => skipFrom fuel outer .behindValue rest
    | '\x7d' :: rest, .object => skipFrom fuel outer .behindValue rest
    | c :: rest, _ =>
      let next (text : List Char) : Except Failure (List Char) :=
        match inner with
        | .array => skipFrom fuel (inner :: outer) .value text
        | .object => do skipFrom fuel (inner :: outer) .value (← skipMemberName text)
      match point with
      | .behindOpening => next (c :: rest)
      | _ => if c = ',' then next rest else .error .malformed

/-- Skips one value. -/
def skipValue : Reader Unit := fun text =>
  (skipFrom (2 * text.length + 2) [] .value text).map fun rest => ((), rest)

/-- Reads a value with at most `nesting` arrays and objects inside one another. The members of an object
are put in the order of their names; of two with one name the later one counts. -/
def readValue : Nat → Reader Json
  | nesting, text =>
    match skipSpace text with
    | [] => .error .cutShort
    | 'n' :: rest => (readExactly "ull".toList rest).map fun rest => (.null, rest)
    | 't' :: rest => (readExactly "rue".toList rest).map fun rest => (.bool true, rest)
    | 'f' :: rest => (readExactly "alse".toList rest).map fun rest => (.bool false, rest)
    | '-' :: rest => (readNumber true rest).map fun (n, rest) => (.number n, rest)
    | '"' :: rest => (readText rest).map fun (value, rest) => (.string value, rest)
    | '[' :: rest =>
      match nesting with
      | 0 => .error .malformed
      | inner + 1 => (readArrayBody (readValue inner) rest).map fun (items, rest) => (.array items, rest)
    | '\x7b' :: rest =>
      match nesting with
      | 0 => .error .malformed
      | inner + 1 =>
        readObjectBody []
          (fun members name text =>
            (readValue inner text).map fun (value, rest) => (Entries.set name value members, rest))
          (fun members => .ok (.object members)) rest
    | c :: rest =>
      if isDigit c then (readNumber false (c :: rest)).map fun (n, rest) => (.number n, rest)
      else .error .malformed

/-- Reads a whole document: one value with nothing but white space around it. -/
def readDocument {α : Type} (value : Reader α) (text : List Char) : Except Failure α := do
  let (result, rest) ← value text
  if (skipSpace rest).isEmpty then pure result else .error .malformed

/-- The value a document holds. -/
def ofText (text : String) : Except Failure Json := readDocument (readValue nestingLimit) text.toList

end ClientStub.Json
