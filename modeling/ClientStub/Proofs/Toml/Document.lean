import ClientStub.Proofs.Toml.Strings
import ClientStub.Toml.Document

/-!
# Lines of TOML documents

Keys are read back as they were written, and so are the lines that set them: each adds one entry behind those
of the current table. What a header then opens is a table of the root.
-/

namespace ClientStub.Toml

/-- What a key may begin with. -/
def opensKey (c : Char) : Bool := isBareChar c || c = '"' || c = '\''

theorem readSimpleKey?_bare {key : List Char} (some_ : key ≠ []) (bare : ∀ c ∈ key, isBareChar c = true)
    {mark : Char} (ends : isBareChar mark = false) (rest : List Char) :
    readSimpleKey? (key ++ mark :: rest) = some (String.ofList key, mark :: rest) := by
  have span : (key ++ mark :: rest).span isBareChar = (key, mark :: rest) := by
    rw [List.span_eq_takeWhile_dropWhile, List.takeWhile_append_of_pos bare, List.dropWhile_append_of_pos bare]
    simp [ends]
  cases key with
  | nil => exact absurd rfl some_
  | cons c key =>
    have first := bare c List.mem_cons_self
    rw [readSimpleKey?]
    · rw [span]
    · rintro behind ⟨⟩
      exact absurd first (by decide)
    · rintro behind ⟨⟩
      exact absurd first (by decide)

/-- A key is read back, whatever form it is written in. -/
theorem readSimpleKey?_keyText (key : String) {mark : Char} (ends : isBareChar mark = false) (rest : List Char) :
    readSimpleKey? (keyText key ++ mark :: rest) = some (key, mark :: rest) := by
  have basic : readSimpleKey? (basicString key.toList ++ mark :: rest) = some (key, mark :: rest) := by
    have read := readShortString?_basicString key.toList (mark :: rest)
    rw [basicString, List.cons_append, List.cons_append] at read ⊢
    rw [readSimpleKey?, read]
    simp
  simp only [keyText]
  split
  · rename_i bare
    simp only [Bool.and_eq_true, Bool.not_eq_true', List.isEmpty_eq_false_iff, List.all_eq_true] at bare
    simpa using readSimpleKey?_bare bare.1 bare.2 ends rest
  · split
    · exact basic
    · split
      · rename_i plain
        have stands : ∀ c ∈ key.toList, isLiteralChar c = true := by
          intro c listed
          simp only [Bool.and_eq_true, Bool.not_eq_true', List.any_eq_false] at plain
          obtain ⟨free, noQuote⟩ := plain
          have free := free c listed
          simp only [Bool.or_eq_true, decide_eq_true_eq, not_or, Bool.not_eq_true] at free
          refine isLiteralChar_of_needsEscape free.1 free.2 ?_
          rintro rfl
          simp [listed] at noQuote
        have read := readShortString?_literalString stands (mark :: rest)
        rw [literalString, List.cons_append, List.cons_append] at read ⊢
        rw [readSimpleKey?, read]
        simp
      · exact basic

theorem exists_keyText_eq_cons (key : String) : ∃ c behind, keyText key = c :: behind ∧ opensKey c = true := by
  simp only [keyText]
  split
  · rename_i bare
    simp only [Bool.and_eq_true, Bool.not_eq_true', List.isEmpty_eq_false_iff, List.all_eq_true] at bare
    obtain ⟨c, behind, same⟩ := List.exists_cons_of_ne_nil bare.1
    rw [same] at bare ⊢
    exact ⟨c, behind, rfl, by simp [opensKey, bare.2 c List.mem_cons_self]⟩
  · split
    · exact ⟨'"', _, rfl, rfl⟩
    · split
      · exact ⟨'\'', _, rfl, rfl⟩
      · exact ⟨'"', _, rfl, rfl⟩

theorem skipBlanks_keyText (key : String) (rest : List Char) :
    skipBlanks (keyText key ++ rest) = keyText key ++ rest := by
  obtain ⟨c, behind, same, opens⟩ := exists_keyText_eq_cons key
  rw [same]
  refine List.dropWhile_cons_of_neg ?_
  intro blank
  simp only [isBlank, Bool.or_eq_true, decide_eq_true_eq] at blank
  rcases blank with rfl | rfl <;> exact absurd opens (by decide)

/-- A key without dots has no path before it. -/
theorem readKey?_of_readSimpleKey? {text behind : List Char} {key : String} (starts : skipBlanks text = text)
    (read : readSimpleKey? text = some (key, behind)) (ends : (skipBlanks behind).head? ≠ some '.') :
    readKey? text = some (([], key), skipBlanks behind) := by
  have keys : readDottedKeys? longestKey text = some ([key], skipBlanks behind) := by
    rw [longestKey, readDottedKeys?, starts, read]
    simp only [Option.bind_eq_bind, Option.bind_some]
    split
    · rename_i dot
      rw [dot] at ends
      exact absurd rfl ends
    · rfl
  rw [readKey?, keys]
  rfl

/-- The state behind lines that set keys to strings. -/
def DocumentState.withStrings (entries : List (String × String)) (s : DocumentState) : DocumentState :=
  { s with current := s.current ++ entries.map fun (key, value) => (key, .string value) }

/-- An assignment is read up to the end of its line. -/
theorem readAssignment?_assignmentText (key value : String) (rest : List Char) :
    readAssignment? (readValue? nestingLimit) (assignmentText key value ++ rest) =
      some ((([], key), .string value), '\n' :: rest) := by
  have read := readKey?_of_readSimpleKey? (skipBlanks_keyText key _)
    (readSimpleKey?_keyText key (show isBareChar ' ' = false by decide)
      ('=' :: ' ' :: (stringText value ++ '\n' :: rest)))
    (by simp [skipBlanks, isBlank])
  have opens : ∃ c behind, stringText value = c :: behind ∧ (c = '"' ∨ c = '\'') := by
    simp only [stringText]
    split <;> simp [basicString, literalString, longString]
  have string : readValue? nestingLimit (stringText value ++ '\n' :: rest) = some (.string value, '\n' :: rest) := by
    have read := readString?_stringText value rest
    obtain ⟨c, behind, same, quote⟩ := opens
    rw [same, List.cons_append] at read ⊢
    rw [nestingLimit, readValue?, read]
    simp [quote]
  have starts : skipBlanks (' ' :: (stringText value ++ '\n' :: rest)) = stringText value ++ '\n' :: rest := by
    obtain ⟨c, behind, same, quote⟩ := opens
    rw [same]
    rcases quote with rfl | rfl <;> simp [skipBlanks, isBlank]
  have text : assignmentText key value ++ rest =
      keyText key ++ ' ' :: '=' :: ' ' :: (stringText value ++ '\n' :: rest) := by
    simp [assignmentText]
  rw [text, readAssignment?, read]
  simp only [Option.bind_eq_bind, Option.bind_some]
  have ends : skipBlanks (' ' :: '=' :: ' ' :: (stringText value ++ '\n' :: rest)) =
      '=' :: ' ' :: (stringText value ++ '\n' :: rest) := rfl
  rw [ends]
  simp only [starts, string]
  rfl

theorem addDotted_of_lookup_eq_none {key : String} {value : Value} {entries : Entries}
    (absent : entries.lookup key = none) :
    entries.addDotted [] key value = some (entries ++ [(key, value)]) := by
  simp [Entries.addDotted, Entries.changeAt, absent]

theorem finishLine?_lineFeed (rest : List Char) : finishLine? ('\n' :: rest) = some rest := rfl

/-- A line that sets a new key adds it to the current table. -/
theorem readLines?_assignmentText {s : DocumentState} {key : String} (absent : s.current.lookup key = none)
    (value : String) (fuel : Nat) (rest : List Char) :
    readLines? (fuel + 1) s (assignmentText key value ++ rest) =
      readLines? fuel (s.withStrings [(key, value)]) rest := by
  have read := readAssignment?_assignmentText key value rest
  obtain ⟨c, behind, same, opens⟩ := exists_keyText_eq_cons key
  have starts : skipBlanks (assignmentText key value ++ rest) = assignmentText key value ++ rest := by
    simpa [assignmentText] using skipBlanks_keyText key (" = ".toList ++ (stringText value ++ '\n' :: rest))
  have line : ∃ behind, assignmentText key value ++ rest = c :: behind := by
    simp [assignmentText, same]
  obtain ⟨behind, line⟩ := line
  rw [readLines?, starts]
  rw [line] at read ⊢
  split
  · rename_i nothing
    cases nothing
  · rename_i header
    injection header with first
    rw [first] at opens
    exact absurd opens (by decide)
  · rename_i first others _ same
    injection same with head tail
    subst head tail
    rw [if_neg]
    · rw [read]
      simp [finishLine?_lineFeed, addDotted_of_lookup_eq_none absent, DocumentState.withStrings]
    · simp only [Bool.or_eq_true, decide_eq_true_eq]
      rintro ((rfl | rfl) | rfl) <;> exact absurd opens (by decide)

/-- Lines that set keys to strings. -/
def assignmentsText (entries : List (String × String)) : List Char :=
  entries.flatMap fun (key, value) => assignmentText key value

theorem assignmentsText_cons (key value : String) (entries : List (String × String)) :
    assignmentsText ((key, value) :: entries) = assignmentText key value ++ assignmentsText entries := rfl

theorem length_le_length_assignmentsText (entries : List (String × String)) :
    entries.length ≤ (assignmentsText entries).length := by
  induction entries with
  | nil => exact Nat.le_refl 0
  | cons entry entries ih =>
    obtain ⟨key, value⟩ := entry
    have one : 1 ≤ (assignmentText key value).length := by
      rw [assignmentText, List.length_append]
      exact Nat.le_add_left _ _
    rw [assignmentsText_cons, List.length_append, List.length_cons]
    omega

/-- Lines that set distinct new keys add them to the current table in their order. -/
theorem readLines?_assignmentsText {entries : List (String × String)} (distinct : (entries.map Prod.fst).Nodup)
    {s : DocumentState} (absent : ∀ entry ∈ entries, s.current.lookup entry.1 = none) (fuel : Nat)
    (rest : List Char) :
    readLines? (entries.length + fuel) s (assignmentsText entries ++ rest) =
      readLines? fuel (s.withStrings entries) rest := by
  induction entries generalizing s with
  | nil => simp [assignmentsText, DocumentState.withStrings]
  | cons entry entries ih =>
    obtain ⟨key, value⟩ := entry
    rw [List.map_cons, List.nodup_cons] at distinct
    rw [List.forall_mem_cons] at absent
    rw [assignmentsText_cons, List.append_assoc, List.length_cons, Nat.add_right_comm,
      readLines?_assignmentText absent.1, ih distinct.2]
    · simp [DocumentState.withStrings]
    · intro other listed
      have apart : other.1 ≠ key := by
        intro same
        exact distinct.1 (List.mem_map.2 ⟨other, listed, same⟩)
      simp [DocumentState.withStrings, List.lookup_append, absent.2 other listed, List.lookup_cons,
        beq_false_of_ne apart]

theorem readHeader?_bare {name : List Char} (some_ : name ≠ []) (bare : ∀ c ∈ name, isBareChar c = true)
    (rest : List Char) :
    readHeader? ('[' :: (name ++ ']' :: rest)) = some ((false, [], String.ofList name), rest) := by
  obtain ⟨c, behind, same⟩ := List.exists_cons_of_ne_nil some_
  have first : isBareChar c = true := bare c (same ▸ List.mem_cons_self)
  have single : "[[".toList.isPrefixOf ('[' :: (name ++ ']' :: rest)) = false := by
    have apart : '[' ≠ c := by
      rintro rfl
      exact absurd first (by decide)
    rw [same]
    simp [List.isPrefixOf, apart]
  have starts : skipBlanks (name ++ ']' :: rest) = name ++ ']' :: rest := by
    rw [same]
    refine List.dropWhile_cons_of_neg ?_
    intro blank
    simp only [isBlank, Bool.or_eq_true, decide_eq_true_eq] at blank
    rcases blank with rfl | rfl <;> exact absurd first (by decide)
  have read := readKey?_of_readSimpleKey? starts (readSimpleKey?_bare some_ bare (by decide) rest)
    (by simp [skipBlanks, isBlank])
  rw [readHeader?]
  simp only [single]
  simp [read, skipBlanks, isBlank]

/-- The header of a new table of the root puts the entries so far into the root. -/
theorem readLines?_header {name : List Char} (some_ : name ≠ []) (bare : ∀ c ∈ name, isBareChar c = true)
    {current : Entries} (absent : current.lookup (String.ofList name) = none) (fuel : Nat) (rest : List Char) :
    readLines? (fuel + 1) { DocumentState.start with current := current }
        ('[' :: (name ++ ']' :: '\n' :: rest)) =
      readLines? fuel ⟨current, [], some ([], String.ofList name), false⟩ rest := by
  have starts : skipBlanks ('[' :: (name ++ ']' :: '\n' :: rest)) = '[' :: (name ++ ']' :: '\n' :: rest) := rfl
  rw [readLines?, starts]
  simp [readHeader?_bare some_ bare, finishLine?_lineFeed, DocumentState.enter?, DocumentState.closed?,
    DocumentState.start, Entries.changeAt, DocumentState.takePassed, absent]

end ClientStub.Toml
