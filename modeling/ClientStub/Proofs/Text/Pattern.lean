import ClientStub.Proofs.Text.LineFeed
import Mathlib.Data.List.Infix

/-!
# Patterns in a text

Where a pattern stands in a text, and texts that lack it. A character that is no part of the pattern keeps
what stands before it apart from what stands behind: a text with such a character lacks the pattern exactly
if the two parts do.
-/

namespace ClientStub.Text

/-- The places of a text at which a pattern stands. -/
def places (pattern text : List Char) : List Nat :=
  (List.range text.length).filter fun place => pattern.isPrefixOf (text.drop place)

/-- The pattern stands nowhere in the text. -/
def Lacks (pattern text : List Char) : Prop := ¬ pattern <:+: text

instance (pattern text : List Char) : Decidable (Lacks pattern text) := inferInstanceAs (Decidable (¬ _))

variable {pattern front text behind : List Char}

theorem Lacks.of_isInfix {part : List Char} (lacks : Lacks pattern text) (within : part <:+: text) :
    Lacks pattern part :=
  fun found => lacks (found.trans within)

theorem lacks_nil (filled : pattern ≠ []) : Lacks pattern [] :=
  fun found => filled (List.eq_nil_of_infix_nil found)

theorem lacks_cons {c : Char} (filled : pattern ≠ []) (foreign : c ∉ pattern) :
    Lacks pattern (c :: behind) ↔ Lacks pattern behind := by
  unfold Lacks
  rw [List.infix_cons_iff, not_or]
  refine and_iff_right fun begins => ?_
  obtain ⟨d, rest, rfl⟩ := List.exists_cons_of_ne_nil filled
  obtain rfl : d = c := (List.cons_prefix_cons.1 begins).1
  exact foreign List.mem_cons_self

/-- A character that the pattern has not parts a text for it. -/
theorem lacks_append_cons {c : Char} (filled : pattern ≠ []) (foreign : c ∉ pattern) :
    Lacks pattern (front ++ c :: behind) ↔ Lacks pattern front ∧ Lacks pattern behind := by
  rw [← @lacks_cons pattern behind c filled foreign]
  constructor
  · intro lacks
    exact ⟨lacks.of_isInfix List.infix_append_left, lacks.of_isInfix List.infix_append_right⟩
  · rintro ⟨lacksFront, lacksBehind⟩ found
    rcases List.infix_append_iff.1 found with inFront | inBehind | ⟨start, ending, source, last, first⟩
    · exact lacksFront inFront
    · exact lacksBehind inBehind
    · cases ending with
      | nil =>
        rw [source, List.append_nil] at lacksFront
        exact lacksFront last.isInfix
      | cons d ending =>
        obtain rfl : d = c := (List.cons_prefix_cons.1 first).1
        rw [source] at foreign
        simp at foreign

/-- The characters of a mark are no part of the pattern. -/
def Foreign (pattern mark : List Char) : Prop := ∀ c ∈ mark, c ∉ pattern

instance (pattern mark : List Char) : Decidable (Foreign pattern mark) :=
  List.decidableBAll (fun c => c ∉ pattern) mark

theorem lacks_foreign_append {mark : List Char} (filled : pattern ≠ []) (foreign : Foreign pattern mark) :
    Lacks pattern (mark ++ behind) ↔ Lacks pattern behind := by
  induction mark with
  | nil => rfl
  | cons c mark ih =>
    obtain ⟨foreignHead, foreignRest⟩ := List.forall_mem_cons.1 foreign
    rw [List.cons_append, lacks_cons filled foreignHead, ih foreignRest]

/-- A mark between two parts. -/
theorem lacks_append_foreign_append {mark : List Char} (filled : pattern ≠ []) (someMark : mark ≠ [])
    (foreign : Foreign pattern mark) :
    Lacks pattern (front ++ mark ++ behind) ↔ Lacks pattern front ∧ Lacks pattern behind := by
  obtain ⟨c, mark, rfl⟩ := List.exists_cons_of_ne_nil someMark
  obtain ⟨foreignHead, foreignRest⟩ := List.forall_mem_cons.1 foreign
  rw [List.append_assoc, List.cons_append, lacks_append_cons filled foreignHead,
    lacks_foreign_append filled foreignRest]

theorem lacks_append_foreign {mark : List Char} (filled : pattern ≠ []) (someMark : mark ≠ [])
    (foreign : Foreign pattern mark) : Lacks pattern (front ++ mark) ↔ Lacks pattern front := by
  have parts := @lacks_append_foreign_append pattern front [] mark filled someMark foreign
  rw [List.append_nil] at parts
  rw [parts]
  exact and_iff_left (lacks_nil filled)

/-- A text that is written character by character: those of the pattern as they are, and every other one with
characters that the pattern has not. -/
theorem lacks_flatMap_iff {write : Char → List Char} (filled : pattern ≠ [])
    (kept : ∀ c ∈ pattern, write c = [c])
    (apart : ∀ c, c ∉ pattern → write c ≠ [] ∧ Foreign pattern (write c)) :
    Lacks pattern (text.flatMap write) ↔ Lacks pattern text := by
  -- What stands in front is kept in view: the pattern may have begun in it.
  have behind (front : List Char) : Lacks pattern (front ++ text.flatMap write) ↔ Lacks pattern (front ++ text) := by
    induction text generalizing front with
    | nil => rfl
    | cons c text ih =>
      rw [List.flatMap_cons]
      by_cases inPattern : c ∈ pattern
      · rw [kept c inPattern, ← List.append_assoc, ih, List.append_assoc, List.singleton_append]
      · obtain ⟨written, foreign⟩ := apart c inPattern
        have rest := ih []
        rw [List.nil_append, List.nil_append] at rest
        rw [← List.append_assoc, lacks_append_foreign_append filled written foreign, rest,
          lacks_append_cons filled inPattern]
  exact behind []

theorem lacks_singleton_iff {c : Char} : Lacks [c] text ↔ c ∉ text := by
  rw [Lacks, List.singleton_infix_iff]

theorem isInfix_joinLines {line : List Char} {ls : List (List Char)} (listed : line ∈ ls) :
    line <:+: joinLines ls := by
  obtain ⟨above, below, rfl⟩ := List.append_of_mem listed
  by_cases first : above = []
  · subst first
    by_cases last : below = []
    · subst last
      simp [joinLines]
    · rw [List.nil_append, joinLines_cons last]
      exact List.infix_append_left
  · rw [joinLines_append first (by simp)]
    refine List.IsInfix.trans ?_ List.infix_append_right
    refine List.IsInfix.trans ?_ (List.infix_cons List.infix_rfl)
    by_cases last : below = []
    · subst last
      simp [joinLines]
    · rw [joinLines_cons last]
      exact List.infix_append_left

/-- A pattern without line feeds stands in a text exactly if it stands in one of its lines. -/
theorem lacks_joinLines_iff (filled : pattern ≠ []) (single : '\n' ∉ pattern) {ls : List (List Char)} :
    Lacks pattern (joinLines ls) ↔ ∀ line ∈ ls, Lacks pattern line := by
  constructor
  · intro lacks line listed
    exact lacks.of_isInfix (isInfix_joinLines listed)
  · intro lacks
    induction ls with
    | nil => exact lacks_nil filled
    | cons line others ih =>
      rw [List.forall_mem_cons] at lacks
      by_cases last : others = []
      · subst last
        simpa [joinLines] using lacks.1
      · rw [joinLines_cons last, lacks_append_cons filled single]
        exact ⟨lacks.1, ih lacks.2⟩

theorem isInfix_of_mem_lines {line : List Char} (listed : line ∈ lines text) : line <:+: text := by
  obtain ⟨part, inText, read⟩ := exists_part_of_mem_lines listed
  have within : part <:+: text := by
    have joined := isInfix_joinLines inText
    rwa [joinLines_splitOn] at joined
  rcases read with rfl | rfl
  · exact within
  · exact List.infix_append_left.trans within

/-- The carriage returns that line endings may have are not seen by a pattern without one. -/
theorem lacks_lines_iff (filled : pattern ≠ []) (single : '\n' ∉ pattern) (noReturn : '\r' ∉ pattern) :
    (∀ line ∈ lines text, Lacks pattern line) ↔ Lacks pattern text := by
  constructor
  · intro lacks
    rw [← joinLines_splitOn text, lacks_joinLines_iff filled single]
    intro part inText
    obtain ⟨line, listed, read⟩ := exists_line_of_mem_splitOn inText
    have lacksLine : Lacks pattern line := by
      rcases listed with listed | rfl
      · exact lacks line listed
      · exact lacks_nil filled
    rcases read with rfl | rfl
    · exact lacksLine
    · rw [lacks_append_cons filled noReturn]
      exact ⟨lacksLine, lacks_nil filled⟩
  · exact fun lacks line listed => lacks.of_isInfix (isInfix_of_mem_lines listed)

theorem mem_places_iff (filled : pattern ≠ []) {place : Nat} :
    place ∈ places pattern text ↔
      ∃ front behind, text = front ++ pattern ++ behind ∧ front.length = place := by
  rw [places, List.mem_filter, List.mem_range, List.isPrefixOf_iff_prefix]
  constructor
  · rintro ⟨less, behind, source⟩
    refine ⟨text.take place, behind, ?_, List.length_take_of_le (Nat.le_of_lt less)⟩
    rw [List.append_assoc, source, List.take_append_drop]
  · rintro ⟨front, behind, rfl, rfl⟩
    have length := List.length_pos_iff.2 filled
    constructor
    · simp only [List.length_append]
      omega
    · rw [List.append_assoc, List.drop_left]
      exact List.prefix_append pattern behind

/-- The pattern stands in the text at its end at most. -/
def AtEndOnly (pattern text : List Char) : Prop :=
  ∀ place ∈ places pattern text, place + pattern.length = text.length

instance (pattern text : List Char) : Decidable (AtEndOnly pattern text) :=
  List.decidableBAll (fun place => place + pattern.length = text.length) (places pattern text)

theorem atEndOnly_iff (filled : pattern ≠ []) :
    AtEndOnly pattern text ↔ ∀ front behind, text = front ++ pattern ++ behind → behind = [] := by
  constructor
  · rintro only front behind rfl
    have place := only front.length ((mem_places_iff filled).2 ⟨front, behind, rfl, rfl⟩)
    simp only [List.length_append] at place
    exact List.eq_nil_of_length_eq_zero (by omega)
  · intro only place listed
    obtain ⟨front, behind, rfl, rfl⟩ := (mem_places_iff filled).1 listed
    rw [only front behind rfl, List.append_nil, List.length_append]

theorem AtEndOnly.of_suffix {part : List Char} (closed : AtEndOnly pattern text) (filled : pattern ≠ [])
    (within : part <:+ text) : AtEndOnly pattern part := by
  obtain ⟨before, rfl⟩ := within
  rw [atEndOnly_iff filled] at closed ⊢
  rintro front behind rfl
  exact closed (before ++ front) behind (by simp)

/-- A text that ends with a pattern has it there alone exactly if that is its one place. -/
theorem places_append_eq_singleton_iff (filled : pattern ≠ []) :
    places pattern (front ++ pattern) = [front.length] ↔ AtEndOnly pattern (front ++ pattern) := by
  constructor
  · intro one place listed
    rw [one, List.mem_singleton] at listed
    rw [listed, List.length_append]
  · intro only
    have last : front.length ∈ places pattern (front ++ pattern) :=
      (mem_places_iff filled).2 ⟨front, [], by simp, rfl⟩
    have same : ∀ place ∈ places pattern (front ++ pattern), place = front.length := by
      intro place listed
      have length := only place listed
      rw [List.length_append] at length
      omega
    have once : (places pattern (front ++ pattern)).Nodup := List.nodup_range.filter _
    rw [List.eq_replicate_of_mem same] at last once ⊢
    have bound := List.nodup_replicate.1 once
    have held := (List.mem_replicate.1 last).1
    rw [show (places pattern (front ++ pattern)).length = 1 by omega]
    rfl

/-- Behind a character that the pattern has not, the pattern ends a text that lacks it in front. -/
theorem atEndOnly_append_cons_iff {c : Char} (filled : pattern ≠ []) (foreign : c ∉ pattern) :
    AtEndOnly pattern (front ++ c :: pattern) ↔ Lacks pattern front := by
  rw [atEndOnly_iff filled]
  constructor
  · rintro only ⟨before, after, rfl⟩
    have empty := only before (after ++ c :: pattern) (by simp)
    simp at empty
  · intro lacks before after source
    -- Without its last character the text lacks the pattern, so nothing stands behind the pattern.
    refine List.eq_nil_iff_forall_not_mem.2 fun d listed => ?_
    have begun := List.ne_nil_of_mem listed
    obtain ⟨start, last, rfl⟩ : ∃ start last, pattern = start ++ [last] :=
      ⟨_, _, (List.dropLast_append_getLast filled).symm⟩
    obtain ⟨rest, ending, rfl⟩ : ∃ rest ending, after = rest ++ [ending] :=
      ⟨_, _, (List.dropLast_append_getLast begun).symm⟩
    have shorter : front ++ c :: start = before ++ (start ++ [last]) ++ rest := by
      have whole : (front ++ c :: start) ++ [last] = (before ++ (start ++ [last]) ++ rest) ++ [ending] := by
        simpa using source
      exact (List.append_inj_left' whole rfl)
    have within : start ++ [last] <:+: front ++ c :: start := ⟨before, rest, shorter.symm⟩
    refine (lacks_append_cons filled foreign).2 ⟨lacks, fun inStart => ?_⟩ within
    have length := inStart.length_le
    simp only [List.length_append, List.length_singleton] at length
    omega

end ClientStub.Text
