import ClientStub.Entries
import ClientStub.Yaml.Node
import ClientStub.Yaml.Tokens

/-!
# YAML documents

The tree of a text's first document, built from its tokens by the rules of YAML's grammar. Where a rule is
broken or the tokens end, the tree is cut.
-/

namespace ClientStub.Yaml

/-- The tokens that are left, the anchors with their numbers, and the tag handles. An anchor's number is the
number of names that were anchors before it. -/
structure NodeState where
  tokens : List Token
  anchors : Entries Nat
  handles : List (String × String)

namespace NodeState

/-- The state behind a fault. -/
def stopped (s : NodeState) : NodeState := { s with tokens := [] }

def behind (tokens : List Token) (s : NodeState) : NodeState := { s with tokens := tokens }

/-- The full tag for a handle and a suffix; an empty handle stands before a tag that is full already. -/
def fullTag? (handle suffix : String) (s : NodeState) : Option String :=
  if handle = "" then some suffix else (s.handles.lookup handle).map (· ++ suffix)

/-- Reads an anchor and a tag, in either order and each if it is there. -/
def takeProperties? (s : NodeState) : Option (Option String × Option String × NodeState) :=
  match s.tokens with
  | .anchor name :: .tag handle suffix :: rest =>
    (s.fullTag? handle suffix).map fun tag => (some name, some tag, s.behind rest)
  | .anchor name :: rest => some (some name, none, s.behind rest)
  | .tag handle suffix :: .anchor name :: rest =>
    (s.fullTag? handle suffix).map fun tag => (some name, some tag, s.behind rest)
  | .tag handle suffix :: rest =>
    (s.fullTag? handle suffix).map fun tag => (none, some tag, s.behind rest)
  | _ => some (none, none, s)

/-- Numbers an anchor. -/
def number (name : Option String) (s : NodeState) : Option Nat × NodeState :=
  match name with
  | none => (none, s)
  | some name => (some s.anchors.length, { s with anchors := s.anchors.set name s.anchors.length })

/-- Reads a node unless a token is next that leaves its place empty. -/
def orEmpty (leavesEmpty : Token → Bool) (read : NodeState → Node × NodeState) (s : NodeState) :
    Node × NodeState :=
  match s.tokens with
  | [] => (.cut, s)
  | token :: _ => if leavesEmpty token then (.empty, s) else read s

/-- Reads the value of a key; without a value token the value is empty. -/
def valueBehind (leavesEmpty : Token → Bool) (read : NodeState → Node × NodeState) (s : NodeState) :
    Node × NodeState :=
  match s.tokens with
  | [] => (.cut, s)
  | .value :: rest => orEmpty leavesEmpty read (s.behind rest)
  | _ => (.empty, s)

end NodeState

def Token.endsBlockItem : Token → Bool
  | .blockEntry => true
  | .blockEnd => true
  | _ => false

def Token.endsBlockValue : Token → Bool
  | .key => true
  | .value => true
  | .blockEnd => true
  | _ => false

def Token.endsIndentlessItem (token : Token) : Bool := token.endsBlockItem || token.endsBlockValue

def Token.endsFlowItem : Token → Bool
  | .flowEntry => true
  | .flowSequenceEnd => true
  | _ => false

def Token.endsFlowPairKey (token : Token) : Bool := token.endsFlowItem || token = .value

def Token.endsFlowValue : Token → Bool
  | .flowEntry => true
  | .flowMappingEnd => true
  | _ => false

def Token.endsFlowKey (token : Token) : Bool := token.endsFlowValue || token = .value

/-- A token in whose place a document's content is empty. -/
def Token.endsDocument : Token → Bool
  | .version _ _ => true
  | .tagDirective _ _ => true
  | .documentStart => true
  | .documentEnd => true
  | .streamEnd => true
  | _ => false

/-- Entries that break off. -/
def cutEntries : List (Node × Node) := [(.cut, .cut)]

mutual

/-- Reads a node. In block context it may be a block; `indentless` allows a sequence at its key's own
column. Every level of nesting and every item takes a token, so the number of tokens bounds the steps. -/
def readNode : Nat → Bool → Bool → NodeState → Node × NodeState
  | 0, _, _, s => (.cut, s.stopped)
  | fuel + 1, block, indentless, s =>
    match s.tokens with
    | .reference name :: rest =>
      match s.anchors.get? name with
      | some anchor => (.reference anchor, s.behind rest)
      | none => (.cut, s.stopped)
    | _ =>
      match s.takeProperties? with
      | none => (.cut, s.stopped)
      | some (name, tag, s) =>
        match s.tokens with
        | [] => (.cut, s)
        | token :: rest =>
          let (anchor, numbered) := s.number name
          let inside := numbered.behind rest
          let sequence (result : List Node × NodeState) : Node × NodeState :=
            (.sequence ⟨anchor, tag⟩ result.1, result.2)
          let mapping (result : List (Node × Node) × NodeState) : Node × NodeState :=
            (.mapping ⟨anchor, tag⟩ result.1, result.2)
          match token, block, indentless with
          | .blockEntry, _, true => sequence (readIndentlessItems fuel numbered)
          | .scalar text style, _, _ =>
            (.scalar ⟨anchor, if tag = some "!" then none else tag⟩ text style, inside)
          | .flowSequenceStart, _, _ => sequence (readFlowItems fuel true inside)
          | .flowMappingStart, _, _ => mapping (readFlowEntries fuel true inside)
          | .blockSequenceStart, true, _ => sequence (readBlockItems fuel inside)
          | .blockMappingStart, true, _ => mapping (readBlockEntries fuel inside)
          | _, _, _ =>
            if name.isSome || tag.isSome then (.scalar ⟨anchor, tag⟩ "" .plain, numbered)
            else (.cut, s.stopped)

def readBlockItems : Nat → NodeState → List Node × NodeState
  | 0, s => ([.cut], s.stopped)
  | fuel + 1, s =>
    match s.tokens with
    | .blockEntry :: rest =>
      let (item, s) := (s.behind rest).orEmpty Token.endsBlockItem (readNode fuel true false)
      let (items, s) := readBlockItems fuel s
      (item :: items, s)
    | .blockEnd :: rest => ([], s.behind rest)
    | _ => ([.cut], s.stopped)

def readIndentlessItems : Nat → NodeState → List Node × NodeState
  | 0, s => ([.cut], s.stopped)
  | fuel + 1, s =>
    match s.tokens with
    | .blockEntry :: rest =>
      let (item, s) := (s.behind rest).orEmpty Token.endsIndentlessItem (readNode fuel true false)
      let (items, s) := readIndentlessItems fuel s
      (item :: items, s)
    | [] => ([.cut], s)
    | _ => ([], s)

def readBlockEntries : Nat → NodeState → List (Node × Node) × NodeState
  | 0, s => (cutEntries, s.stopped)
  | fuel + 1, s =>
    match s.tokens with
    | .key :: rest =>
      let (key, s) := (s.behind rest).orEmpty Token.endsBlockValue (readNode fuel true true)
      let (value, s) := s.valueBehind Token.endsBlockValue (readNode fuel true true)
      let (entries, s) := readBlockEntries fuel s
      ((key, value) :: entries, s)
    | .blockEnd :: rest => ([], s.behind rest)
    | _ => (cutEntries, s.stopped)

/-- Reads the items of a flow sequence. An item with a key is a mapping of one entry; if its key is empty,
the token behind the key's own is passed over. -/
def readFlowItems : Nat → Bool → NodeState → List Node × NodeState
  | 0, _, s => ([.cut], s.stopped)
  | fuel + 1, first, s =>
    let begun? : Option NodeState :=
      match first, s.tokens with
      | false, .flowEntry :: rest => some (s.behind rest)
      | false, .flowSequenceEnd :: _ => some s
      | false, _ => none
      | true, _ => some s
    match begun? with
    | none => ([.cut], s.stopped)
    | some s =>
      match s.tokens with
      | [] => ([.cut], s)
      | .flowSequenceEnd :: rest => ([], s.behind rest)
      | .key :: rest =>
        let (key, s) := (s.behind rest).orEmpty Token.endsFlowPairKey (readNode fuel false false)
        let s := match rest with
          | token :: after => if token.endsFlowPairKey then s.behind after else s
          | [] => s
        let (value, s) := s.valueBehind Token.endsFlowItem (readNode fuel false false)
        let entries := (key, value) :: if s.tokens.isEmpty then cutEntries else []
        let (items, s) := readFlowItems fuel false s
        (.mapping .none entries :: items, s)
      | _ =>
        let (item, s) := readNode fuel false false s
        let (items, s) := readFlowItems fuel false s
        (item :: items, s)

def readFlowEntries : Nat → Bool → NodeState → List (Node × Node) × NodeState
  | 0, _, s => (cutEntries, s.stopped)
  | fuel + 1, first, s =>
    let begun? : Option NodeState :=
      match first, s.tokens with
      | false, .flowEntry :: rest => some (s.behind rest)
      | false, .flowMappingEnd :: _ => some s
      | false, _ => none
      | true, _ => some s
    match begun? with
    | none => (cutEntries, s.stopped)
    | some s =>
      match s.tokens with
      | [] => (cutEntries, s)
      | .flowMappingEnd :: rest => ([], s.behind rest)
      | .key :: rest =>
        let (key, s) := (s.behind rest).orEmpty Token.endsFlowKey (readNode fuel false false)
        let (value, s) := s.valueBehind Token.endsFlowValue (readNode fuel false false)
        let (entries, s) := readFlowEntries fuel false s
        ((key, value) :: entries, s)
      | _ =>
        let (key, s) := readNode fuel false false s
        let value := if s.tokens.isEmpty then Node.cut else Node.empty
        let (entries, s) := readFlowEntries fuel false s
        ((key, value) :: entries, s)

end

/-- The first document of a text: its root, if there is a document at all, and whether the text is sound
and holds no other document. -/
structure Document where
  root : Option Node
  complete : Bool
  deriving Repr

namespace Document

/-- The handles that every document knows. -/
def knownHandles : List (String × String) := [("!", "!"), ("!!", "tag:yaml.org,2002:")]

/-- Reads the directives before a document. A version must be 1.1 or 1.2, and neither a version nor a
handle may be given twice. -/
def readDirectives? :
    Bool → List (String × String) → List Token → Option (List (String × String) × List Token)
  | versioned, handles, .version major minor :: rest =>
    if versioned || major ≠ 1 || (minor ≠ 1 && minor ≠ 2) then none else readDirectives? true handles rest
  | versioned, handles, .tagDirective handle expansion :: rest =>
    if (handles.lookup handle).isSome then none
    else readDirectives? versioned ((handle, expansion) :: handles) rest
  | _, handles, rest => some (handles, rest)

/-- The document whose root was read. -/
def ofRoot (result : Node × NodeState) : Document :=
  ⟨some result.1, (result.2.tokens.dropWhile (· = .documentEnd)).head? = some .streamEnd⟩

def ofTokens (tokens : List Token) : Document :=
  let fuel := 4 * tokens.length + 8
  match tokens with
  | [] => ⟨some .cut, false⟩
  | .streamEnd :: _ => ⟨none, true⟩
  | token :: _ =>
    if token = .documentStart || (token.endsDocument && token ≠ .documentEnd) then
      match readDirectives? false [] tokens with
      | some (handles, .documentStart :: rest) =>
        ofRoot (NodeState.orEmpty Token.endsDocument (readNode fuel true false)
          ⟨rest, [], handles ++ knownHandles⟩)
      | _ => ⟨some .cut, false⟩
    else ofRoot (readNode fuel true false ⟨tokens, [], knownHandles⟩)

def ofText (text : String) : Document := ofTokens (tokens text.toList)

end Document

end ClientStub.Yaml
