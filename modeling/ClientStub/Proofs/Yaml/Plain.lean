import Mathlib.Data.List.Basic
import ClientStub.Proofs.Text.Gaps
import ClientStub.Proofs.Yaml.Cursor
import ClientStub.Yaml.Scalar

/-!
# Plain scalars, read back

A text that may be written without quotes is read as itself, up to the colon behind a key or the line break
behind a value.
-/

namespace ClientStub.Yaml

theorem endsHere_append {word text behind : List Char} (same : text ≠ [] → behind.head? = text.head?)
    (ends : endsHere (word ++ behind) = true) : endsHere (word ++ text) = true := by
  cases word with
  | nil =>
    cases text with
    | nil => rfl
    | cons c text =>
      rw [List.nil_append, endsHere, same (by simp)] at ends
      exact ends
  | cons c word => exact ends

theorem hasInnerIndicator_append {before : Char} {front text : List Char}
    (free : hasInnerIndicator before (front ++ text) = false) :
    hasInnerIndicator (front.getLast?.getD before) text = false := by
  induction front generalizing before with
  | nil => exact free
  | cons c front ih =>
    rw [List.cons_append, hasInnerIndicator, Bool.or_eq_false_iff] at free
    rw [List.getLast?_cons]
    exact ih free.2

/-- A word is read up to what stands behind it. -/
theorem plainRun?_word {before : Char} {word text behind : List Char} (apart : ∀ c ∈ word, isGapChar c = false)
    (free : hasInnerIndicator before (word ++ text) = false) (same : text ≠ [] → behind.head? = text.head?)
    (stops : plainRun? false behind = some []) : plainRun? false (word ++ behind) = some word := by
  induction word generalizing before with
  | nil => exact stops
  | cons c word ih =>
    rw [List.forall_mem_cons] at apart
    rw [List.cons_append, hasInnerIndicator, Bool.or_eq_false_iff, Bool.or_eq_false_iff] at free
    have goesOn : ¬ (decide (c = ':') && endsHere (word ++ behind)) = true := by
      intro ends
      rw [Bool.and_eq_true] at ends
      have colon := free.1.1
      rw [ends.1, endsHere_append same ends.2] at colon
      exact absurd colon (by decide)
    rw [List.cons_append, plainRun?, if_neg (by simp [apart.1]), if_neg (by simp), if_neg goesOn, if_neg (by simp),
      ih apart.2 free.2]
    rfl

theorem plainRun?_gap {c : Char} (gap : isGapChar c = true) (behind : List Char) :
    plainRun? false (c :: behind) = some [] := by
  rw [plainRun?, if_pos gap]

/-- The end of a plain scalar behind its last word: where a line that is indented less begins, or on the spot. -/
def endPlain? (margin : Int) (at_ : Cursor) : Option (Bool × Cursor) :=
  if !at_.next?.any isGapChar then some (false, at_)
  else do
    let (gap, after) ← Gap.read? margin at_.rest.length Gap.none at_
    if (after.column : Int) < margin then pure (gap.broken, after) else none

theorem Cursor.atDocumentMarker_eq_false {at_ : Cursor} (inside : at_.column ≠ 0) : at_.atDocumentMarker = false := by
  simp [Cursor.atDocumentMarker, inside]

variable {margin : Int} {at_ after : Cursor} {multiline : Bool} {gap : Gap} {before : Char} {fuel : Nat}

/-- The last word of a plain scalar. -/
theorem readPlain?_word {word stop : List Char} (some_ : word ≠ []) (apart : ∀ c ∈ word, isGapChar c = false)
    (free : hasInnerIndicator before word = false) (noComment : word.head? ≠ some '#')
    (stops : plainRun? false stop = some []) (noMarker : at_.atDocumentMarker = false)
    (stands : at_.rest = word ++ stop) (ends : endPlain? margin (at_.pass word) = some (multiline, after)) :
    readPlain? false margin (fuel + 1) gap at_ = some (⟨gap.folded ++ word, multiline⟩, after) := by
  have noComment : at_.next? ≠ some '#' := by rwa [Cursor.next?_of_stands some_ stands]
  have run : plainRun? false at_.rest = some word := by
    rw [stands]
    exact plainRun?_word apart (show hasInnerIndicator _ (word ++ []) = false by simpa using free) (by simp) stops
  have filled : word.isEmpty = false := by simpa using some_
  rw [readPlain?, if_neg (by simp [noMarker, noComment]), run]
  rw [Cursor.pass_eq_advance fun c listed => isBreak_of_isGapChar (apart c listed)] at ends
  simp only [endPlain?] at ends
  simp only [Option.bind_eq_bind, Option.bind_some, filled, Bool.false_eq_true, if_false]
  split
  · rename_i onTheSpot
    rw [if_pos onTheSpot] at ends
    simp_all [Gap.none]
  · rename_i goesOn
    rw [if_neg goesOn] at ends
    cases read : Gap.read? margin (at_.advance word.length).rest.length Gap.none (at_.advance word.length) with
    | none => simp [read] at ends
    | some result =>
      rw [read] at ends
      simp only [Option.bind_eq_bind, Option.bind_some] at ends ⊢
      split at ends
      · rename_i less
        obtain ⟨rfl, rfl⟩ := Prod.mk.inj (Option.some.inj ends)
        rw [if_pos (by simpa using less)]
        simp
      · cases ends

/-- A word inside a plain scalar, with the spaces behind it. -/
theorem readPlain?_gap {word spaces rest stop : List Char} (some_ : word ≠ [])
    (apart : ∀ c ∈ word, isGapChar c = false) (gaps : ∀ c ∈ ' ' :: spaces, c = ' ')
    (goesOn : ∀ c ∈ (rest ++ stop).head?, isGapChar c = false)
    (free : hasInnerIndicator before (word ++ ' ' :: (spaces ++ rest)) = false) (noComment : word.head? ≠ some '#')
    (noMarker : at_.atDocumentMarker = false) (column : margin ≤ at_.column + 1)
    (stands : at_.rest = word ++ ' ' :: (spaces ++ (rest ++ stop))) :
    readPlain? false margin (fuel + 1) gap at_ =
      (readPlain? false margin fuel ⟨' ' :: spaces, false, [], []⟩ (at_.pass (word ++ ' ' :: spaces))).map
        fun (more, last) => (⟨gap.folded ++ word ++ more.text, more.multiline⟩, last) := by
  have noComment : at_.next? ≠ some '#' := by rwa [Cursor.next?_of_stands some_ stands]
  have run : plainRun? false at_.rest = some word := by
    rw [stands]
    exact plainRun?_word apart free (fun _ => rfl) (plainRun?_gap rfl _)
  have filled : word.isEmpty = false := by simpa using some_
  have line : ∀ c ∈ word, isBreak c = false := fun c listed => isBreak_of_isGapChar (apart c listed)
  have lineOfSpaces : ∀ c ∈ ' ' :: spaces, isBreak c = false := by
    intro c listed
    rw [gaps c listed]
    rfl
  have behind : (at_.pass word).rest = ' ' :: spaces ++ (rest ++ stop) := Cursor.rest_pass stands
  have read : Gap.read? margin (at_.pass word).rest.length Gap.none (at_.pass word) =
      some (⟨' ' :: spaces, false, [], []⟩, at_.pass (word ++ ' ' :: spaces)) := by
    rw [Gap.read?_spaces gaps behind goesOn (by rw [behind, List.length_append]; omega), Cursor.pass_append]
    rfl
  have next : (at_.pass word).next? = some ' ' := by
    rw [Cursor.next?, behind]
    rfl
  have inside : ¬ ((at_.pass (word ++ ' ' :: spaces)).column : Int) < margin := by
    rw [Cursor.pass_append, Cursor.pass_eq_advance lineOfSpaces, Cursor.pass_eq_advance line]
    simp only [Cursor.advance, List.length_cons]
    omega
  rw [readPlain?, if_neg (by simp [noMarker, noComment]), run]
  rw [Cursor.pass_eq_advance line] at read next
  simp only [Option.bind_eq_bind, Option.bind_some, filled, Bool.false_eq_true, if_false, next, read]
  rw [if_neg (by decide), if_neg (by simpa using inside)]
  cases readPlain? false margin fuel ⟨' ' :: spaces, false, [], []⟩ (at_.pass (word ++ ' ' :: spaces)) <;> rfl

/-- What may be left of a plain text at the start of one of its words, behind a character. -/
structure IsPlainText (before : Char) (text : List Char) : Prop where
  some_ : text ≠ []
  spaced : ∀ c ∈ text, isGapChar c = true → c = ' '
  starts : ∀ c ∈ text.head?, isGapChar c = false
  ends : ∀ c ∈ text.getLast?, isGapChar c = false
  free : hasInnerIndicator before text = false
  noComment : text.head? ≠ some '#'

theorem IsPlainText.behind {word spaces rest : List Char}
    (plain : IsPlainText before (word ++ ' ' :: (spaces ++ rest))) (gaps : ∀ c ∈ ' ' :: spaces, c = ' ')
    (starts : ∀ c ∈ rest.head?, isGapChar c = false) : IsPlainText ' ' rest := by
  have whole : word ++ ' ' :: (spaces ++ rest) = (word ++ ' ' :: spaces) ++ rest := by simp
  have last : (word ++ ' ' :: spaces).getLast? = some ' ' := by
    have space := gaps _ (List.getLast_mem (List.cons_ne_nil ' ' spaces))
    rw [List.getLast?_append, List.getLast?_eq_some_getLast (List.cons_ne_nil ' ' spaces), space]
    rfl
  have some_ : rest ≠ [] := by
    rintro rfl
    have apart := plain.ends ' '
    rw [whole, List.append_nil] at apart
    exact absurd (apart last) (by decide)
  have free := plain.free
  rw [whole] at free
  have free := hasInnerIndicator_append free
  rw [last] at free
  refine ⟨some_, fun c listed => plain.spaced c (by simp [listed]), starts, fun c listed => ?_, free, ?_⟩
  · refine plain.ends c ?_
    rw [whole, List.getLast?_append, listed]
    rfl
  · cases rest with
    | nil => simp
    | cons c rest =>
      rintro ⟨⟩
      simp [hasInnerIndicator, isGapChar, isBlankChar] at free

/-- A plain text is read to its end. -/
theorem readPlain?_text {stop : List Char} (stops : plainRun? false stop = some []) {text : List Char}
    (plain : IsPlainText before text) (noMarker : at_.atDocumentMarker = false) (column : margin ≤ at_.column + 1)
    (stands : at_.rest = text ++ stop) (ends : endPlain? margin (at_.pass text) = some (multiline, after))
    (enough : text.length < fuel) :
    readPlain? false margin fuel gap at_ = some (⟨gap.folded ++ text, multiline⟩, after) := by
  obtain ⟨fuel, rfl⟩ : ∃ less, fuel = less + 1 := ⟨fuel - 1, by omega⟩
  induction text using Text.words_induction isGapChar generalizing before fuel gap at_ with
  | word word apart => exact readPlain?_word plain.some_ apart plain.free plain.noComment stops noMarker stands ends
  | gap word c spaces rest apart gaps starts ih =>
    have gaps : ∀ d ∈ c :: spaces, d = ' ' := fun d listed => plain.spaced d (by grind) (gaps d listed)
    obtain rfl := gaps c List.mem_cons_self
    have behind := plain.behind gaps starts
    have some_ : word ≠ [] := by
      rintro rfl
      exact absurd (plain.starts ' ' rfl) (by decide)
    have noComment : word.head? ≠ some '#' := by
      have first := plain.noComment
      rwa [List.head?_append_of_ne_nil _ some_] at first
    have goesOn : ∀ c ∈ (rest ++ stop).head?, isGapChar c = false := by
      rwa [List.head?_append_of_ne_nil _ behind.some_]
    have whole : word ++ ' ' :: (spaces ++ rest) = (word ++ ' ' :: spaces) ++ rest := by simp
    have inLine : ∀ c ∈ word ++ ' ' :: spaces, isBreak c = false := by
      intro c listed
      rcases List.mem_append.1 listed with inside | inside
      · exact isBreak_of_isGapChar (apart c inside)
      · rw [gaps c inside]
        rfl
    have place : at_.pass (word ++ ' ' :: spaces) = at_.advance (word ++ ' ' :: spaces).length :=
      Cursor.pass_eq_advance inLine
    rw [readPlain?_gap some_ apart gaps goesOn plain.free noComment noMarker column (by simpa using stands)]
    rw [whole, Cursor.pass_append] at ends
    simp only [List.length_append, List.length_cons] at enough
    obtain ⟨fuel, rfl⟩ : ∃ less, fuel = less + 1 := ⟨fuel - 1, by omega⟩
    rw [ih behind]
    · simp [Gap.folded]
    · apply Cursor.atDocumentMarker_eq_false
      rw [place]
      simp [Cursor.advance]
    · rw [place]
      simp only [Cursor.advance, List.length_append, List.length_cons]
      omega
    · exact Cursor.rest_pass (by simpa using stands)
    · exact ends
    · omega

theorem isPrintable_of_needsDoubleQuotes {text : List Char} (free : needsDoubleQuotes text = false) :
    ∀ c ∈ text, isPrintable c = true := by
  intro c listed
  rw [needsDoubleQuotes, Bool.or_eq_false_iff] at free
  simpa using List.any_eq_false.1 free.1 c listed

/-- A text that may be written plain is one line of words. -/
theorem isPlainText_of_allowsPlain {text : List Char} (some_ : text ≠ []) (allowed : allowsPlain text = true) :
    (∀ c ∈ text, isPrintable c = true) ∧ (∀ c ∈ text, isBreak c = false) ∧ hasIndicator text = false ∧
      ∃ before, IsPlainText before text := by
  simp only [allowsPlain, Bool.not_eq_true', Bool.or_eq_false_iff] at allowed
  obtain ⟨⟨⟨⟨quotes, line⟩, noIndicator⟩, starts⟩, ends⟩ := allowed
  have printed := isPrintable_of_needsDoubleQuotes quotes
  have line : ∀ c ∈ text, isBreak c = false := by
    intro c listed
    simpa using List.any_eq_false.1 line c listed
  have spaced : ∀ c ∈ text, isGapChar c = true → c = ' ' := fun c listed gap =>
    isSpace_of_isPrintable (printed c listed) gap (line c listed)
  have apart {c : Char} (listed : c ∈ text) (notSpace : isSpace c = false) : isGapChar c = false := by
    cases gap : isGapChar c with
    | false => rfl
    | true =>
      rw [spaced c listed gap] at notSpace
      exact absurd notSpace (by decide)
  refine ⟨printed, line, noIndicator, ?_⟩
  cases text with
  | nil => exact absurd rfl some_
  | cons c behind =>
    simp only [hasIndicator, Bool.or_eq_false_iff] at noIndicator
    refine ⟨'x', some_, spaced, ?_, ?_, ?_, ?_⟩
    · rintro d ⟨⟩
      exact apart List.mem_cons_self starts
    · intro d last
      rw [Option.mem_def] at last
      rw [last] at ends
      exact apart (List.mem_of_getLast? last) ends
    · -- No character is white space before the first one, so that only a colon could be wrong with it.
      rw [hasInnerIndicator, noIndicator.2]
      have opening := noIndicator.1.2
      simp only [isOpeningIndicator, Bool.or_eq_false_iff] at opening
      have colon := opening.2
      simp only [Bool.and_eq_false_iff, Bool.or_eq_false_iff] at colon
      rcases colon with ⟨⟨-, notColon⟩, -⟩ | goesOn
      · simp [notColon, isGapChar, isBlankChar, isBreak]
      · simp [goesOn, isGapChar, isBlankChar, isBreak]
    · rintro ⟨⟩
      have opening := noIndicator.1.2
      simp [isOpeningIndicator] at opening

/-- A plain key is read up to its colon. -/
theorem readPlain?_key {text behind : List Char} (some_ : text ≠ []) (allowed : allowsPlain text = true)
    (noMarker : at_.atDocumentMarker = false) (column : margin ≤ at_.column + 1) (ends : endsHere behind = true)
    (stands : at_.rest = text ++ ':' :: behind) (enough : text.length < fuel) :
    readPlain? false margin fuel .none at_ = some (⟨text, false⟩, at_.pass text) := by
  obtain ⟨-, -, -, before, plain⟩ := isPlainText_of_allowsPlain some_ allowed
  have stops : plainRun? false (':' :: behind) = some [] := by
    rw [plainRun?, if_neg (by decide), if_neg (by simp), if_pos (by simp [ends])]
  have onTheSpot : endPlain? margin (at_.pass text) = some (false, at_.pass text) := by
    rw [endPlain?, Cursor.next?, Cursor.rest_pass stands]
    rfl
  rw [readPlain?_text stops plain noMarker column stands onTheSpot enough]
  rfl

/-- A plain value is read up to the next line that is indented less. -/
theorem readPlain?_value {text behind : List Char} (some_ : text ≠ []) (allowed : allowsPlain text = true)
    (noMarker : at_.atDocumentMarker = false) (column : margin ≤ at_.column + 1) {columns : Nat}
    (outside : (columns : Int) < margin) (goesOn : ∀ c ∈ behind.head?, isGapChar c = false)
    (stands : at_.rest = text ++ '\n' :: (spaces columns ++ behind)) (enough : text.length < fuel) :
    readPlain? false margin fuel .none at_ = some (⟨text, true⟩, at_.pass (text ++ '\n' :: spaces columns)) := by
  obtain ⟨-, -, -, before, plain⟩ := isPlainText_of_allowsPlain some_ allowed
  have rest := Cursor.rest_pass stands
  have read : Gap.read? margin ((at_.pass text).rest.length) .none (at_.pass text) =
      some (⟨[], true, ['\n'], []⟩, (at_.pass text).pass ('\n' :: ([] ++ spaces columns))) := by
    refine Gap.read?_break (by simp [isKeptBreak]) rest goesOn ?_
    rw [rest]
    simp only [List.length_nil, List.length_cons, List.length_append, spaces, List.length_replicate]
    omega
  have onNextLine : endPlain? margin (at_.pass text) = some (true, at_.pass (text ++ '\n' :: spaces columns)) := by
    have next : (at_.pass text).next? = some '\n' := by
      rw [Cursor.next?, rest]
      rfl
    have inside : ((at_.pass (text ++ '\n' :: spaces columns)).column : Int) < margin := by
      rwa [Cursor.column_pass_spaces _ _ (by decide)]
    rw [Cursor.pass_append] at inside ⊢
    rw [List.nil_append] at read
    rw [endPlain?, next, if_neg (by decide), read]
    simp only [Option.bind_eq_bind, Option.bind_some]
    rw [if_pos inside]
    rfl
  rw [readPlain?_text (plainRun?_gap (by decide) _) plain noMarker column stands onNextLine enough]
  rfl

end ClientStub.Yaml
