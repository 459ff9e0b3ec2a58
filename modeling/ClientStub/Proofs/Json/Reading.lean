import ClientStub.Json.Document
import ClientStub.Proofs.Json.Strings
import Mathlib.Data.List.Forall2

/-!
# Reading JSON arrays and objects

A reader reads a text as a value when it takes the whole text, with the white space in front, and leaves what
follows. Readers of arrays and objects read theirs if the readers of items and members do.
-/

namespace ClientStub.Json

variable {α β σ : Type}

theorem isSpace_of_spaces {text : List Char} (spaces : Spaces text) : ∀ c ∈ text, isSpace c = true := by
  intro c listed
  rcases spaces c listed with rfl | rfl | rfl | rfl <;> rfl

theorem skipSpace_append {front : List Char} (spaces : Spaces front) {c : Char} (solid : isSpace c = false)
    (rest : List Char) : skipSpace (front ++ c :: rest) = c :: rest := by
  rw [skipSpace, List.dropWhile_append_of_pos (isSpace_of_spaces spaces), List.dropWhile_cons_of_neg]
  simp [solid]

theorem skipSpace_of_spaces {text : List Char} (spaces : Spaces text) : skipSpace text = [] := by
  rw [skipSpace, ← List.append_nil text, List.dropWhile_append_of_pos (isSpace_of_spaces spaces)]
  rfl

/-- Whether no number goes on in a text. -/
def Stops (text : List Char) : Prop := ∀ c ∈ text.head?, isDigit c = false ∧ c ≠ '.' ∧ c ≠ 'e' ∧ c ≠ 'E'

theorem stops_nil : Stops [] := by simp [Stops]

/-- The characters that may follow a number. -/
def numberEnds : List Char := [',', ']', '\x7d', ' ', '\n', '\t', '\r']

theorem stops_cons {c : Char} (ends : c ∈ numberEnds) (text : List Char) : Stops (c :: text) := by
  have table : ∀ c ∈ numberEnds, isDigit c = false ∧ c ≠ '.' ∧ c ≠ 'e' ∧ c ≠ 'E' := by
    simp [numberEnds, isDigit]
  intro first same
  rw [List.head?_cons, Option.mem_some_iff] at same
  rw [← same]
  exact table c ends

theorem Stops.append {front text : List Char} (stops : Stops text) (spaces : Spaces front) :
    Stops (front ++ text) := by
  cases front with
  | nil => exact stops
  | cons c front =>
    apply stops_cons
    rcases spaces c List.mem_cons_self with rfl | rfl | rfl | rfl <;> decide

section

variable {ι : Type} {piece : ι → List Char → Prop} {items : List ι} {text : List Char}

theorem Following.stops (pieces : Following piece items text) {behind : List Char} (stops : Stops behind) :
    Stops (text ++ behind) := by
  cases pieces with
  | none => exact stops
  | next => exact stops_cons (by decide) _

theorem Following.length_le (pieces : Following piece items text) : items.length ≤ text.length := by
  induction pieces with
  | none => simp
  | next _ _ ih =>
    simp only [List.length_cons, List.length_append]
    omega

theorem Separated.length_le (pieces : Separated piece items text) : items.length ≤ text.length + 1 := by
  cases pieces with
  | none => simp
  | some _ rest =>
    have others := rest.length_le
    simp only [List.length_cons, List.length_append]
    omega

end

/-- What stands before a piece: nothing behind the opening, a comma behind another piece. -/
inductive Lead : Bool → List Char → Prop where
  | opening : Lead true []
  | comma {behind : List Char} (spaces : Spaces behind) : Lead false (behind ++ [','])

/-- How the text of a value begins. An item of an array is told from the end of the array by it. -/
def Opens (text : List Char) : Prop := ∃ c rest, text = c :: rest ∧ isSpace c = false ∧ c ≠ ']'

/-- The reader takes the text for the value wherever it stands, if nothing follows that a number could go on
with. -/
structure Reads (reader : Reader α) (value : α) (text : List Char) : Prop where
  opens : Opens text
  read : ∀ {front rest : List Char}, Spaces front → Stops rest →
    reader (front ++ (text ++ rest)) = .ok (value, rest)

/-- What holds of a reader goes over to one that does more with what is read. -/
theorem Reads.of_eq_ok {reader : Reader α} {other : Reader β} {value : α} {result : β} {text : List Char}
    (reads : Reads reader value text)
    (next : ∀ {text rest}, reader text = .ok (value, rest) → other text = .ok (result, rest)) :
    Reads other result text :=
  ⟨reads.opens, fun spaces stops => next (reads.read spaces stops)⟩

section

variable {first : Bool} {before front behind : List Char}

theorem nextItem_lead (lead : Lead first before) (spaces : Spaces front) {c : Char} (solid : isSpace c = false)
    (notClosing : c ≠ ']') (rest : List Char) :
    nextItem first (before ++ (front ++ c :: rest)) = .ok (some (c :: rest)) := by
  cases lead with
  | opening =>
    rw [List.nil_append, nextItem, skipSpace_append spaces solid]
    simp
  | comma around =>
    rw [List.append_assoc, List.singleton_append, nextItem, skipSpace_append around (by decide)]
    simp [skipSpace_append spaces solid]
    -- Behind a comma an item must follow, so the closing bracket is told apart once more.
    split <;> simp_all

theorem nextItem_last (first : Bool) (spaces : Spaces behind) (rest : List Char) :
    nextItem first (behind ++ ']' :: rest) = .ok none := by
  rw [nextItem, skipSpace_append spaces (by decide)]
  rfl

theorem closeArray_append (spaces : Spaces behind) (rest : List Char) :
    closeArray (behind ++ ']' :: rest) = .ok rest := by
  rw [closeArray, skipSpace_append spaces (by decide)]
  rfl

variable {item : Reader α} {inner text : List Char} {value : α} {values : List α} {texts : List (List Char)}

theorem readItems_last {fuel : Nat} (spaces : Spaces behind) (rest : List Char) :
    readItems item (fuel + 1) first (behind ++ ']' :: rest) = .ok ([], behind ++ ']' :: rest) := by
  rw [readItems, nextItem_last first spaces]

/-- One more item is read, up to the white space behind it. -/
theorem readItems_piece (lead : Lead first before) (around : Spaced inner text) (reads : Reads item value inner) :
    ∃ behind, Spaces behind ∧ ∀ {fuel : Nat} {rest last : List Char} {values : List α}, Stops rest →
      readItems item fuel false (behind ++ rest) = .ok (values, last) →
      readItems item (fuel + 1) first (before ++ (text ++ rest)) = .ok (value :: values, last) := by
  obtain ⟨front, behind, spacesFront, spaces, rfl⟩ := around
  refine ⟨behind, spaces, fun {fuel rest last values} stops others => ?_⟩
  have read := reads.read spaces_nil (stops.append spaces)
  obtain ⟨c, more, rfl, solid, notClosing⟩ := reads.opens
  rw [List.append_assoc, List.append_assoc, List.cons_append, readItems,
    nextItem_lead lead spacesFront solid notClosing]
  dsimp only
  rw [← List.cons_append, ← List.nil_append (c :: more ++ _), read]
  dsimp only
  rw [others]
  rfl

theorem readItems_following (pieces : Following Spaced texts text) (each : List.Forall₂ (Reads item) values texts)
    (spaces : Spaces behind) {fuel : Nat} (enough : texts.length < fuel) (rest : List Char) :
    ∃ last, Spaces last ∧
      readItems item fuel false (behind ++ (text ++ ']' :: rest)) = .ok (values, last ++ ']' :: rest) := by
  induction pieces generalizing fuel behind values with
  | none =>
    obtain ⟨fuel, rfl⟩ := Nat.exists_eq_add_one_of_ne_zero (Nat.ne_of_gt enough)
    cases each
    exact ⟨behind, spaces, readItems_last spaces rest⟩
  | next around following ih =>
    obtain ⟨fuel, rfl⟩ := Nat.exists_eq_add_one_of_ne_zero (Nat.ne_of_gt (Nat.zero_lt_of_lt enough))
    cases each with
    | cons reads each =>
      obtain ⟨behindPiece, spacesPiece, step⟩ := readItems_piece (.comma spaces) around reads
      obtain ⟨last, spacesLast, others⟩ := ih each spacesPiece (Nat.lt_of_succ_lt_succ enough)
      refine ⟨last, spacesLast, ?_⟩
      have whole := step (following.stops (stops_cons (by decide) rest)) others
      simpa using whole

theorem readItems_separated (pieces : Separated Spaced texts text) (each : List.Forall₂ (Reads item) values texts)
    {fuel : Nat} (enough : texts.length < fuel) (rest : List Char) :
    ∃ last, Spaces last ∧ readItems item fuel true (text ++ ']' :: rest) = .ok (values, last ++ ']' :: rest) := by
  obtain ⟨fuel, rfl⟩ := Nat.exists_eq_add_one_of_ne_zero (Nat.ne_of_gt (Nat.zero_lt_of_lt enough))
  cases each with
  | nil =>
    cases pieces with
    | none spaces => exact ⟨text, spaces, readItems_last spaces rest⟩
  | cons reads each =>
    cases pieces with
    | some around following =>
      obtain ⟨behindPiece, spacesPiece, step⟩ := readItems_piece .opening around reads
      obtain ⟨last, spacesLast, others⟩ :=
        readItems_following following each spacesPiece (Nat.lt_of_succ_lt_succ enough) rest
      refine ⟨last, spacesLast, ?_⟩
      have whole := step (following.stops (stops_cons (by decide) rest)) others
      simpa using whole

theorem readArrayBody_append (pieces : Separated Spaced texts text) (each : List.Forall₂ (Reads item) values texts)
    (rest : List Char) : readArrayBody item (text ++ ']' :: rest) = .ok (values, rest) := by
  have enough : texts.length < (text ++ ']' :: rest).length + 1 := by
    have bound := pieces.length_le
    simp only [List.length_append, List.length_cons]
    omega
  obtain ⟨last, spaces, read⟩ := readItems_separated pieces each enough rest
  rw [readArrayBody, read]
  dsimp only [bind, Except.bind]
  rw [closeArray_append spaces]
  rfl

end

section

variable {first : Bool} {before front behind : List Char}

theorem nextMember_lead (lead : Lead first before) (spaces : Spaces front) (rest : List Char) :
    nextMember first (before ++ (front ++ '"' :: rest)) = .ok (some rest) := by
  cases lead with
  | opening =>
    rw [List.nil_append, nextMember, skipSpace_append spaces (by decide)]
    rfl
  | comma around =>
    rw [List.append_assoc, List.singleton_append, nextMember, skipSpace_append around (by decide)]
    simp [skipSpace_append spaces (c := '"') (by decide)]

theorem nextMember_last (first : Bool) (spaces : Spaces behind) (rest : List Char) :
    nextMember first (behind ++ '\x7d' :: rest) = .ok none := by
  rw [nextMember, skipSpace_append spaces (by decide)]
  rfl

theorem closeObject_append (spaces : Spaces behind) (rest : List Char) :
    closeObject (behind ++ '\x7d' :: rest) = .ok rest := by
  rw [closeObject, skipSpace_append spaces (by decide)]
  rfl

theorem readColon_append (spaces : Spaces behind) (rest : List Char) :
    readColon (behind ++ ':' :: rest) = .ok rest := by
  rw [readColon, skipSpace_append spaces (by decide)]
  rfl

/-- A member is its name between white space, a colon, and the text of its value between white space. -/
theorem MemberText.parts {member : String × List Char} {text : List Char} (shown : MemberText member text) :
    ∃ front body gap around behind, Spaces front ∧ Spaces gap ∧ Spaces around ∧ Spaces behind ∧
      text = front ++ '"' :: (body ++ (gap ++ ':' :: (around ++ (member.2 ++ behind)))) ∧
      ∀ rest, readText (body ++ rest) = .ok (member.1, rest) ∧ skipStringBody (body ++ rest) = .ok rest := by
  obtain ⟨_, _, ⟨_, named, front, gap, spacesFront, spacesGap, rfl⟩, ⟨around, behind, spacesAround, spacesBehind,
    rfl⟩, rfl⟩ := shown
  obtain ⟨body, rfl, read⟩ := named.body
  exact ⟨front, body, gap, around, behind, spacesFront, spacesGap, spacesAround, spacesBehind, by simp, read⟩

variable {member : σ → String → Reader σ} {held after final : σ} {shown : List (String × List Char)}
  {text : List Char}

/-- The members take what is held first to what is held at last, each read with its name. -/
inductive Takes (member : σ → String → Reader σ) : σ → List (String × List Char) → σ → Prop where
  | none {held : σ} : Takes member held [] held
  | next {held after final : σ} {name : String} {text : List Char} {shown : List (String × List Char)}
      (reads : Reads (member held name) after text) (rest : Takes member after shown final) :
      Takes member held ((name, text) :: shown) final

theorem readMembers_last {fuel : Nat} (spaces : Spaces behind) (rest : List Char) :
    readMembers member (fuel + 1) first held (behind ++ '\x7d' :: rest) =
      .ok (held, behind ++ '\x7d' :: rest) := by
  rw [readMembers, nextMember_last first spaces]

/-- One more member is read, up to the white space behind it. -/
theorem readMembers_piece {name : String} {value : List Char} (lead : Lead first before)
    (around : MemberText (name, value) text) (reads : Reads (member held name) after value) :
    ∃ behind, Spaces behind ∧ ∀ {fuel : Nat} {rest : List Char}, Stops rest →
      readMembers member (fuel + 1) first held (before ++ (text ++ rest)) =
        readMembers member fuel false after (behind ++ rest) := by
  obtain ⟨front, body, gap, spaced, behind, spacesFront, spacesGap, spacesBefore, spaces, rfl, named⟩ :=
    around.parts
  refine ⟨behind, spaces, fun {fuel rest} stops => ?_⟩
  have read := reads.read spacesBefore (stops.append spaces)
  simp only [List.append_assoc, List.cons_append]
  rw [readMembers, nextMember_lead lead spacesFront]
  dsimp only
  rw [(named _).1]
  dsimp only [bind, Except.bind]
  rw [readColon_append spacesGap]
  dsimp only
  rw [read]

theorem readMembers_following (taken : Takes member held shown final) (pieces : Following MemberText shown text)
    (spaces : Spaces behind) {fuel : Nat} (enough : shown.length < fuel) (rest : List Char) :
    ∃ last, Spaces last ∧ readMembers member fuel false held (behind ++ (text ++ '\x7d' :: rest)) =
      .ok (final, last ++ '\x7d' :: rest) := by
  induction taken generalizing fuel behind text with
  | none =>
    obtain ⟨fuel, rfl⟩ := Nat.exists_eq_add_one_of_ne_zero (Nat.ne_of_gt enough)
    cases pieces
    exact ⟨behind, spaces, readMembers_last spaces rest⟩
  | next reads _ ih =>
    obtain ⟨fuel, rfl⟩ := Nat.exists_eq_add_one_of_ne_zero (Nat.ne_of_gt (Nat.zero_lt_of_lt enough))
    cases pieces with
    | next around following =>
      obtain ⟨behindPiece, spacesPiece, step⟩ := readMembers_piece (.comma spaces) around reads
      obtain ⟨last, spacesLast, others⟩ := ih following spacesPiece (Nat.lt_of_succ_lt_succ enough)
      refine ⟨last, spacesLast, ?_⟩
      rw [← others, ← step (following.stops (stops_cons (by decide) rest))]
      simp

theorem readMembers_separated (taken : Takes member held shown final) (pieces : Separated MemberText shown text)
    {fuel : Nat} (enough : shown.length < fuel) (rest : List Char) :
    ∃ last, Spaces last ∧ readMembers member fuel true held (text ++ '\x7d' :: rest) =
      .ok (final, last ++ '\x7d' :: rest) := by
  obtain ⟨fuel, rfl⟩ := Nat.exists_eq_add_one_of_ne_zero (Nat.ne_of_gt (Nat.zero_lt_of_lt enough))
  cases taken with
  | none =>
    cases pieces with
    | none spaces => exact ⟨text, spaces, readMembers_last spaces rest⟩
  | next reads taken =>
    cases pieces with
    | some around following =>
      obtain ⟨behindPiece, spacesPiece, step⟩ := readMembers_piece .opening around reads
      obtain ⟨last, spacesLast, others⟩ :=
        readMembers_following taken following spacesPiece (Nat.lt_of_succ_lt_succ enough) rest
      refine ⟨last, spacesLast, ?_⟩
      rw [← others, ← step (following.stops (stops_cons (by decide) rest))]
      simp

theorem readObjectBody_append {finish : σ → Except Failure α} {value : α} (taken : Takes member held shown final)
    (finished : finish final = .ok value) (pieces : Separated MemberText shown text) (rest : List Char) :
    readObjectBody held member finish (text ++ '\x7d' :: rest) = .ok (value, rest) := by
  have enough : shown.length < (text ++ '\x7d' :: rest).length + 1 := by
    have bound := pieces.length_le
    simp only [List.length_append, List.length_cons]
    omega
  obtain ⟨last, spaces, read⟩ := readMembers_separated taken pieces enough rest
  rw [readObjectBody, read]
  dsimp only [bind, Except.bind]
  rw [finished]
  dsimp only
  rw [closeObject_append spaces]
  rfl

end

theorem reads_of_skipSpace {reader : Reader α} {value : α} {c : Char} {inner : List Char}
    (solid : isSpace c = false) (notClosing : c ≠ ']')
    (read : ∀ {text rest : List Char}, Stops rest → skipSpace text = c :: (inner ++ rest) →
      reader text = .ok (value, rest)) : Reads reader value (c :: inner) := by
  refine ⟨⟨c, inner, rfl, solid, notClosing⟩, fun {front rest} spaces stops => read stops ?_⟩
  rw [List.cons_append, skipSpace_append spaces solid]

theorem readExactly_append (wanted rest : List Char) : readExactly wanted (wanted ++ rest) = .ok rest := by
  induction wanted with
  | nil => rfl
  | cons c wanted ih => simpa [readExactly] using ih

/-- A reader that tells a word by its first character reads the word. -/
theorem reads_word {reader : Reader α} {value : α} {c : Char} {word : List Char} (solid : isSpace c = false)
    (notClosing : c ≠ ']')
    (read : ∀ {text rest : List Char}, skipSpace text = c :: (word ++ rest) →
      reader text = (readExactly word (word ++ rest)).map fun rest => (value, rest)) :
    Reads reader value (c :: word) := by
  refine reads_of_skipSpace solid notClosing fun {text rest} _ reached => ?_
  rw [read reached, readExactly_append]
  rfl

theorem reads_readString {value : String} {text : List Char} (shown : StringText value text) :
    Reads readString value text := by
  obtain ⟨body, rfl, named⟩ := shown.body
  refine reads_of_skipSpace (by decide) (by decide) fun {text rest} _ reached => ?_
  rw [readString, reached]
  exact (named rest).1

theorem reads_readBool (value : Bool) : Reads readBool value (toString value).toList := by
  cases value with
  | false =>
    refine reads_word (by decide) (by decide) fun {text rest} reached => ?_
    rw [readBool, reached]
    rfl
  | true =>
    refine reads_word (by decide) (by decide) fun {text rest} reached => ?_
    rw [readBool, reached]
    rfl

theorem reads_readOptionalString {value : Option String} {text : List Char}
    (shown : ValueText (Json.optional value) text) : Reads readOptionalString value text := by
  cases value with
  | none =>
    cases shown
    refine reads_word (by decide) (by decide) fun {text rest} reached => ?_
    rw [readOptionalString, reached]
    rfl
  | some value =>
    cases shown with
    | string shown =>
      obtain ⟨body, rfl, _⟩ := shown.body
      refine reads_of_skipSpace (by decide) (by decide) fun {text rest} stops reached => ?_
      rw [readOptionalString, reached]
      change (readString ([] ++ ('"' :: body ++ rest))).map _ = _
      rw [(reads_readString shown).read spaces_nil stops]
      rfl

theorem reads_readArray {item : Reader α} {values : List α} {texts : List (List Char)} {text : List Char}
    (each : List.Forall₂ (Reads item) values texts) (whole : ArrayText texts text) :
    Reads (readArray item) values text := by
  obtain ⟨inside, pieces, rfl⟩ := whole
  refine reads_of_skipSpace (by decide) (by decide) fun {text rest} _ reached => ?_
  rw [readArray, reached, List.append_assoc]
  exact readArrayBody_append pieces each rest

theorem reads_readRecord {name : String} {start final : σ} {member : σ → String → Reader σ}
    {finish : σ → Except Failure α} {array : Reader α} {value : α} {shown : List (String × List Char)}
    {text : List Char} (taken : Takes member start shown final) (finished : finish final = .ok value)
    (whole : ObjectText shown text) :
    Reads (readRecord name (readObjectBody start member finish) array) value text := by
  obtain ⟨inside, pieces, rfl⟩ := whole
  refine reads_of_skipSpace (by decide) (by decide) fun {text rest} _ reached => ?_
  rw [readRecord, reached, List.append_assoc]
  exact readObjectBody_append taken finished pieces rest

end ClientStub.Json
