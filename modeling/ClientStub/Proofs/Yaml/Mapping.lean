import ClientStub.Proofs.Yaml.Scanning
import ClientStub.Yaml.Document

/-!
# Documents of texts

A document is a mapping of texts whose last value is a mapping of texts again. Its tokens give its tree, in
which no node has an anchor, a tag or an alias.
-/

namespace ClientStub.Yaml

/-- The node of a text, in the style that the text is written in. -/
def textNode (text : String) : Node := .scalar .none text (styleOf text)

def entryNodes (entry : String × String) : Node × Node := (textNode entry.1, textNode entry.2)

/-- The tokens of a mapping of texts below a key; an empty one stands on the key's line. -/
def mappingTokens (entries : List (String × String)) : List Token :=
  if entries.isEmpty then [.flowMappingStart, .flowMappingEnd]
  else .blockMappingStart :: (entries.flatMap entryTokens ++ [.blockEnd])

variable (fuel : Nat) (s : NodeState) (rest : List Token)

theorem readNode_scalar (block indentless : Bool) (text : String) :
    readNode (fuel + 1) block indentless (s.behind (.scalar text (styleOf text) :: rest)) =
      (textNode text, s.behind rest) := rfl

theorem readNode_blockMapping (indentless : Bool) :
    readNode (fuel + 1) true indentless (s.behind (.blockMappingStart :: rest)) =
      (.mapping .none (readBlockEntries fuel (s.behind rest)).1, (readBlockEntries fuel (s.behind rest)).2) := rfl

variable {fuel s} in
/-- An entry is read with its value, unless the value's place is empty. -/
theorem readBlockEntries_value {key : String} {node : Node} {token : Token} {more behind : List Token}
    (opens : token.endsBlockValue = false)
    (value : readNode (fuel + 1) true true (s.behind (token :: more)) = (node, s.behind behind)) :
    readBlockEntries (fuel + 2) (s.behind (.key :: .scalar key (styleOf key) :: .value :: token :: more)) =
      ((textNode key, node) :: (readBlockEntries (fuel + 1) (s.behind behind)).1,
        (readBlockEntries (fuel + 1) (s.behind behind)).2) := by
  have left : (s.behind (.value :: token :: more)).valueBehind Token.endsBlockValue (readNode (fuel + 1) true true) =
      (node, s.behind behind) := by
    rw [← value]
    exact if_neg (by rw [opens]; exact Bool.false_ne_true)
  have name : (s.behind (.scalar key (styleOf key) :: .value :: token :: more)).orEmpty Token.endsBlockValue
      (readNode (fuel + 1) true true) = (textNode key, s.behind (.value :: token :: more)) := rfl
  rw [readBlockEntries]
  simp only [NodeState.behind] at left name ⊢
  simp only [name, left]

theorem readBlockEntries_entries (entries : List (String × String)) :
    readBlockEntries (fuel + 1 + entries.length) (s.behind (entries.flatMap entryTokens ++ rest)) =
      (entries.map entryNodes ++ (readBlockEntries (fuel + 1) (s.behind rest)).1,
        (readBlockEntries (fuel + 1) (s.behind rest)).2) := by
  induction entries with
  | nil => rfl
  | cons entry entries ih =>
    have one : fuel + 1 + (entry :: entries).length = fuel + entries.length + 2 := by
      rw [List.length_cons]
      omega
    have rest_ : fuel + entries.length + 1 = fuel + 1 + entries.length := by omega
    rw [one, List.flatMap_cons, List.append_assoc]
    refine (readBlockEntries_value rfl
      (readNode_scalar _ s (entries.flatMap entryTokens ++ rest) true true entry.2)).trans ?_
    rw [rest_, ih]
    rfl

/-- A mapping of texts below a key is read as a node. -/
theorem readNode_mappingTokens (indentless : Bool) (entries : List (String × String)) :
    readNode (fuel + 2 + entries.length) true indentless (s.behind (mappingTokens entries ++ rest)) =
      (.mapping .none (entries.map entryNodes), s.behind rest) := by
  unfold mappingTokens
  cases entries with
  | nil => rfl
  | cons entry entries =>
    have length : fuel + 2 + (entry :: entries).length = fuel + 1 + (entry :: entries).length + 1 := by omega
    rw [length, List.isEmpty_cons, if_neg Bool.false_ne_true, List.cons_append, readNode_blockMapping,
      List.append_assoc, readBlockEntries_entries]
    simp [readBlockEntries, NodeState.behind]

/-- The last entry of a document, whose value is a mapping. -/
theorem readBlockEntries_last (key : String) (entries : List (String × String)) :
    readBlockEntries (fuel + 3 + entries.length)
        (s.behind (.key :: .scalar key (styleOf key) :: .value :: (mappingTokens entries ++ .blockEnd :: rest))) =
      ([(textNode key, .mapping .none (entries.map entryNodes))], s.behind rest) := by
  have value := readNode_mappingTokens fuel s (.blockEnd :: rest) true entries
  have opens : ∃ token more, mappingTokens entries ++ .blockEnd :: rest = token :: more ∧
      token.endsBlockValue = false := by
    unfold mappingTokens
    split <;> exact ⟨_, _, rfl, rfl⟩
  obtain ⟨token, more, same, opens⟩ := opens
  have inner : fuel + 3 + entries.length = fuel + 1 + entries.length + 2 := by omega
  have length : fuel + 2 + entries.length = fuel + 1 + entries.length + 1 := by omega
  rw [same, length] at value
  rw [same, inner, readBlockEntries_value opens value]
  rfl

/-- The tokens of a document of texts, the last of whose values is a mapping. -/
def documentTokens (front : List (String × String)) (last : String) (entries : List (String × String)) : List Token :=
  .blockMappingStart :: (front.flatMap entryTokens ++
    .key :: .scalar last (styleOf last) :: .value :: (mappingTokens entries ++ [.blockEnd, .streamEnd]))

theorem length_le_length_documentTokens (front : List (String × String)) (last : String)
    (entries : List (String × String)) :
    front.length + entries.length ≤ (documentTokens front last entries).length := by
  have four (entries : List (String × String)) : (entries.flatMap entryTokens).length = 4 * entries.length := by
    induction entries with
    | nil => rfl
    | cons entry entries ih =>
      rw [List.flatMap_cons, List.length_append, ih, List.length_cons]
      exact Nat.add_comm 4 _
  have inner : entries.length ≤ (mappingTokens entries).length := by
    unfold mappingTokens
    split
    · rename_i nothing
      simp [List.isEmpty_iff.1 nothing]
    · simp only [List.length_cons, List.length_append, four]
      omega
  simp only [documentTokens, List.length_cons, List.length_append, four]
  omega

/-- The tokens of a document of texts give its tree, and nothing is left behind it. -/
theorem ofTokens_documentTokens (front : List (String × String)) (last : String) (entries : List (String × String)) :
    Document.ofTokens (documentTokens front last entries) =
      ⟨some (.mapping .none (front.map entryNodes ++ [(textNode last, .mapping .none (entries.map entryNodes))])),
        true⟩ := by
  have length := length_le_length_documentTokens front last entries
  obtain ⟨spare, fuel⟩ : ∃ spare, 4 * (documentTokens front last entries).length + 8 =
      spare + 2 + entries.length + 1 + front.length + 1 :=
    ⟨4 * (documentTokens front last entries).length + 4 - entries.length - front.length, by omega⟩
  have root (s : NodeState) : readNode (spare + 2 + entries.length + 1 + front.length + 1) true false
      (s.behind (documentTokens front last entries)) =
        (.mapping .none (front.map entryNodes ++ [(textNode last, .mapping .none (entries.map entryNodes))]),
          s.behind [.streamEnd]) := by
    have same : spare + 2 + entries.length + 1 = spare + 3 + entries.length := by omega
    rw [documentTokens, readNode_blockMapping, readBlockEntries_entries, same, readBlockEntries_last]
  have begins : Document.ofTokens (documentTokens front last entries) =
      Document.ofRoot (readNode (4 * (documentTokens front last entries).length + 8) true false
        (NodeState.behind (documentTokens front last entries) ⟨[], [], Document.knownHandles⟩)) := rfl
  rw [begins, fuel, root]
  rfl

/-- The text of a mapping behind the colon of its key. -/
def mappingText (entries : List (String × String)) : List Char :=
  if entries.isEmpty then " \x7b\x7d\n".toList
  else '\n' :: entries.flatMap fun entry => entryText 2 entry.1 entry.2

/-- The text of a document of texts, the last of whose values is a mapping. -/
def documentText (front : List (String × String)) (last : String) (entries : List (String × String)) : List Char :=
  front.flatMap (fun entry => entryText 0 entry.1 entry.2) ++ (scalarText 2 last ++ ':' :: mappingText entries)

theorem isAllowed_entryText (margin : Nat) (entry : String × String) :
    ∀ c ∈ entryText margin entry.1 entry.2, isAllowed c = true := by
  rw [entryText_eq, List.forall_mem_append, entryBody, List.forall_mem_append]
  refine ⟨isAllowed_spaces margin, ?_, isAllowed_scalarLine _ entry.2⟩
  split
  · rw [List.forall_mem_append]
    exact ⟨isAllowed_scalarText _ entry.1, List.all_eq_true.1 rfl⟩
  · rw [List.forall_mem_append, List.forall_mem_append, List.forall_mem_append]
    exact ⟨⟨⟨List.all_eq_true.1 rfl, isAllowed_scalarLine _ entry.1⟩, isAllowed_spaces margin⟩, List.all_eq_true.1 rfl⟩

theorem isAllowed_documentText (front : List (String × String)) (last : String) (entries : List (String × String)) :
    ∀ c ∈ documentText front last entries, isAllowed c = true := by
  have written (margin : Nat) (entries : List (String × String)) :
      ∀ c ∈ entries.flatMap (fun entry => entryText margin entry.1 entry.2), isAllowed c = true := by
    intro c listed
    obtain ⟨entry, -, inside⟩ := List.mem_flatMap.1 listed
    exact isAllowed_entryText margin entry c inside
  rw [documentText, List.forall_mem_append, List.forall_mem_append, List.forall_mem_cons, mappingText]
  refine ⟨written 0 front, isAllowed_scalarText 2 last, rfl, ?_⟩
  split
  · exact List.all_eq_true.1 rfl
  · rw [List.forall_mem_cons]
    exact ⟨rfl, written 2 entries⟩

namespace TokenState

variable {start : TokenState} {produced : List Token} {place : Cursor}

/-- Behind its key a mapping is read to the end of the text. -/
theorem Follows.mapping {entries : List (String × String)} (follows : start.Follows produced place 0 [-1] false)
    (stands : place.rest = mappingText entries) :
    run (start.at_.rest.length + 1) start = produced ++ (mappingTokens entries ++ [.blockEnd, .streamEnd]) := by
  cases entries with
  | nil =>
    have follows := follows.emptyMapping (Int.natCast_nonneg _) stands
    have behind : (place.pass [' ', '\x7b', '\x7d']).rest = '\n' :: (spaces 0 ++ []) := Cursor.rest_pass stands
    have line := follows.line behind (show Stands [] by simp [Stands])
    have finish := line.finish (Cursor.rest_pass behind) (Cursor.column_pass_spaces _ [] rfl 0)
    simpa [closedBlocks, mappingTokens] using finish
  | cons entry entries =>
    have stands : place.rest = '\n' :: (spaces 2 ++ (entryBody 2 entry.1 entry.2 ++
        (entries.flatMap (fun entry => entryText 2 entry.1 entry.2) ++ (spaces 0 ++ [])))) := by
      simpa [mappingText, entryText_eq, spaces] using stands
    have line := follows.line stands (stands_entryBody 2 entry.1 entry.2 _)
    have behind : (place.pass ('\n' :: spaces 2)).rest = _ := Cursor.rest_pass stands
    have column : (place.pass ('\n' :: spaces 2)).column = 2 := Cursor.column_pass_spaces _ [] rfl 2
    rw [← column] at behind
    obtain ⟨next, ended, first, reaches⟩ := line.entries (Int.natCast_nonneg _) (Nat.zero_le _)
      (show Stands [] by simp [Stands]) behind
    have finish := reaches.finish ended first
    simpa [closedBlocks, mappingTokens, opening, enclosing, column] using finish

end TokenState

/-- A document of texts is read as its tokens. -/
theorem tokens_documentText (first : String × String) (front : List (String × String)) {last : String}
    (simple : isSimpleKey last = true) (entries : List (String × String)) :
    tokens (documentText (first :: front) last entries) = documentTokens (first :: front) last entries := by
  have stands : documentText (first :: front) last entries = entryBody 0 first.1 first.2 ++
      (front.flatMap (fun entry => entryText 0 entry.1 entry.2) ++
        (spaces 0 ++ (scalarText 2 last ++ ':' :: mappingText entries))) := by
    simp [documentText, entryText_eq, spaces]
  have begins : Stands (documentText (first :: front) last entries) := by
    rw [stands]
    exact stands_entryBody 0 _ _ _
  obtain ⟨line, lineRest, column, reaches⟩ := (TokenState.reaches_ofText begins).entries
    (show (-1 : Int) ≤ 0 by decide) le_rfl (stands_scalarText 2 last _) stands
  have ends : endsHere (mappingText entries) = true := by
    unfold mappingText
    split <;> rfl
  have key := reaches.key (Int.natCast_nonneg _) Nat.two_pos simple lineRest ends
  rw [column] at key
  have behind : (line.pass (scalarText 2 last ++ [':'])).rest = mappingText entries :=
    Cursor.rest_pass (by simpa using lineRest)
  have run := TokenState.Follows.mapping key behind
  have allowed : (documentText (first :: front) last entries).all isAllowed = true :=
    List.all_eq_true.2 (isAllowed_documentText (first :: front) last entries)
  rw [tokens, if_pos allowed]
  refine run.trans ?_
  simp [documentTokens, TokenState.opening, Cursor.ofText]

end ClientStub.Yaml
