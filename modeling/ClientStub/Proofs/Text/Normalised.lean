import ClientStub.Proofs.Text.LineFeed

/-!
# Normalised texts

A text is normalised when none of its lines begins or ends with white space and no blank line stands at
either end. The first half is a condition on the neighbours of each line feed, so it passes on to every part
of a text, and a part of a normalised text is normalised as soon as it is trimmed.
-/

namespace ClientStub.Text

/-- No line of the text, as line feeds divide it, begins or ends with white space, and neither does the text
itself: no blank line stands at its start or its end. -/
structure Normalised (text : List Char) : Prop where
  lines : ∀ line ∈ text.splitOn '\n', Bare line
  ends : Bare text

instance (text : List Char) : Decidable (Normalised text) :=
  decidable_of_iff ((∀ line ∈ text.splitOn '\n', Bare line) ∧ Bare text)
    ⟨fun ⟨lines, ends⟩ => ⟨lines, ends⟩, fun ⟨lines, ends⟩ => ⟨lines, ends⟩⟩

/-- Beside a line feed stands no white space other than further line feeds. -/
def Flush (text : List Char) : Prop :=
  ∀ front behind, text = front ++ '\n' :: behind →
    (∀ c ∈ front.getLast?, isBlank c = true → c = '\n') ∧ ∀ c ∈ behind.head?, isBlank c = true → c = '\n'

theorem flush_of_lines {text : List Char} (lines : ∀ line ∈ text.splitOn '\n', Bare line) : Flush text := by
  intro front behind source
  rw [source, List.splitOn_append_cons_self] at lines
  constructor
  · intro c last blank
    refine Decidable.byContradiction fun ne => ?_
    obtain ⟨before, rfl⟩ := List.getLast?_eq_some_iff.1 (Option.mem_def.1 last)
    obtain ⟨line, listed, ending⟩ := exists_line_of_getLast ne before
    have clear := (lines line (List.mem_append_left _ listed)).2 c ending
    simp [blank] at clear
  · intro c first blank
    refine Decidable.byContradiction fun ne => ?_
    obtain ⟨after, rfl⟩ := List.head?_eq_some_iff.1 (Option.mem_def.1 first)
    obtain ⟨line, listed, start⟩ := exists_line_of_head ne after
    have clear := (lines line (List.mem_append_right _ listed)).1 c start
    simp [blank] at clear

theorem Flush.lines {text : List Char} (flush : Flush text) (ends : Bare text) :
    ∀ line ∈ text.splitOn '\n', Bare line := by
  intro line listed
  have clear : '\n' ∉ line := lineFeed_not_mem_of_mem_splitOn listed
  obtain ⟨front, behind, source, start, ending⟩ := mem_splitOn_source listed
  constructor
  · intro c first
    obtain ⟨rest, rfl⟩ := List.head?_eq_some_iff.1 (Option.mem_def.1 first)
    refine Bool.eq_false_iff.2 fun blank => ?_
    rcases start with rfl | ⟨before, rfl⟩
    · have bare := ends.1 c (by simp [source])
      simp [blank] at bare
    · have feed := (flush before (c :: rest ++ behind) (by simp [source])).2 c rfl blank
      simp [feed] at clear
  · intro c last
    obtain ⟨rest, rfl⟩ := List.getLast?_eq_some_iff.1 (Option.mem_def.1 last)
    refine Bool.eq_false_iff.2 fun blank => ?_
    rcases ending with rfl | ⟨after, rfl⟩
    · have bare := ends.2 c (by simp [source, ← List.append_assoc])
      simp [blank] at bare
    · have feed := (flush (front ++ (rest ++ [c])) after (by simp [source])).1 c
        (by simp [← List.append_assoc]) blank
      simp [feed] at clear

theorem normalised_iff_flush {text : List Char} : Normalised text ↔ Bare text ∧ Flush text :=
  ⟨fun normalised => ⟨normalised.ends, flush_of_lines normalised.lines⟩,
    fun ⟨ends, flush⟩ => ⟨flush.lines ends, ends⟩⟩

theorem Flush.part {front text behind : List Char} (flush : Flush (front ++ text ++ behind)) :
    Flush text := by
  intro above below source
  have beside := flush (front ++ above) (below ++ behind) (by simp [source])
  constructor
  · intro c last
    exact beside.1 c (by simp [List.getLast?_append, Option.mem_def.1 last])
  · intro c first
    exact beside.2 c (by simp [List.head?_append, Option.mem_def.1 first])

theorem Flush.normalised_trim {text : List Char} (flush : Flush text) : Normalised (trim text) := by
  obtain ⟨front, behind, -, -, source⟩ := trim_source text
  rw [source] at flush
  exact normalised_iff_flush.2 ⟨bare_trim text, flush.part⟩

/-- A trimmed part of a normalised text is normalised. -/
theorem Normalised.trim_part {front text behind : List Char}
    (normalised : Normalised (front ++ text ++ behind)) : Normalised (trim text) :=
  (flush_of_lines normalised.lines).part.normalised_trim

theorem normalised_nil : Normalised [] := ⟨by simp [bare_nil], bare_nil⟩

theorem normalised_of_line {line : List Char} (bare : Bare line) (single : '\n' ∉ line) :
    Normalised line := by
  refine ⟨?_, bare⟩
  rw [List.splitOn_eq_singleton single]
  simpa using bare

/-- Bare lines, joined and trimmed. -/
theorem normalised_trim_joinLines {ls : List (List Char)} (bare : ∀ line ∈ ls, Bare line)
    (single : ∀ line ∈ ls, '\n' ∉ line) : Normalised (trim (joinLines ls)) := by
  by_cases empty : ls = []
  · subst empty
    exact normalised_nil
  · refine (flush_of_lines ?_).normalised_trim
    rw [splitOn_joinLines single empty]
    exact bare

/-- One word or line, a space, and a normalised text that may go on over several lines. -/
theorem Normalised.after_space {line text : List Char} (normalised : Normalised text) (filled : text ≠ [])
    (bare : Bare line) (single : '\n' ∉ line) (begun : line ≠ []) : Normalised (line ++ ' ' :: text) := by
  have flush := flush_of_lines normalised.lines
  refine normalised_iff_flush.2 ⟨⟨?_, ?_⟩, ?_⟩
  · intro c first
    rw [List.head?_append_of_ne_nil _ begun] at first
    exact bare.1 c first
  · intro c last
    rw [List.getLast?_append_of_ne_nil _ (by simp), List.getLast?_cons_of_ne_nil filled] at last
    exact normalised.ends.2 c last
  · intro front behind source
    -- The line feed is one of the text's: the line and the space have none.
    rcases List.append_eq_append_iff.1 source with ⟨middle, rfl, rest⟩ | ⟨middle, rfl, rest⟩
    · cases middle with
      | nil => simp at rest
      | cons c middle =>
        obtain ⟨rfl, rfl⟩ := List.cons.inj rest
        have beside := flush middle behind rfl
        refine ⟨?_, beside.2⟩
        cases middle with
        | nil =>
          have clear := normalised.ends.1 '\n' rfl
          simp [isBlank_lineFeed] at clear
        | cons d middle =>
          rw [List.getLast?_append_of_ne_nil _ (by simp), List.getLast?_cons_cons]
          exact beside.1
    · cases middle with
      | nil => simp at rest
      | cons c middle =>
        obtain ⟨rfl, -⟩ := List.cons.inj rest
        simp at single

theorem Normalised.map_trim {text : List Char} (normalised : Normalised text) :
    (text.splitOn '\n').map trim = text.splitOn '\n' := by
  conv => rhs; rw [← List.map_id (text.splitOn '\n')]
  exact List.map_congr_left fun line listed => (normalised.lines line listed).trim_eq

/-- Parts that do not end in white space are read as they are. -/
theorem eq_of_readAs_bare {parts ls : List (List Char)} (related : List.Forall₂ ReadAs parts ls)
    (bare : ∀ part ∈ parts, Bare part) : parts = ls := by
  induction related with
  | nil => rfl
  | cons read _ ih =>
    rw [List.forall_mem_cons] at bare
    rcases read with rfl | rfl
    · rw [ih bare.2]
    · have clear := bare.1.2 '\r' (by simp)
      exact absurd clear (by decide)

/-- The physical lines of a normalised text are the parts between its line feeds; an empty text has none. -/
theorem Normalised.lines_eq {text : List Char} (normalised : Normalised text) (filled : text ≠ []) :
    Text.lines text = text.splitOn '\n' := by
  have unended : text.getLast? ≠ Option.some '\n' := by
    intro feed
    have clear := normalised.ends.2 '\n' feed
    simp [isBlank_lineFeed] at clear
  have related := splitOn_readAs_lines text
  rw [if_neg (by simp [filled, unended]), List.append_nil] at related
  exact (eq_of_readAs_bare related normalised.lines).symm

theorem Normalised.bare_of_mem_lines {text line : List Char} (normalised : Normalised text)
    (listed : line ∈ Text.lines text) : Bare line := by
  by_cases empty : text = []
  · subst empty
    cases listed
  · rw [normalised.lines_eq empty] at listed
    exact normalised.lines line listed

/-- Neither the first nor the last line of a normalised text is blank. -/
theorem Normalised.outer_lines {text : List Char} (normalised : Normalised text) :
    (∀ line ∈ (Text.lines text).head?, line ≠ []) ∧ ∀ line ∈ (Text.lines text).getLast?, line ≠ [] := by
  by_cases empty : text = []
  · subst empty
    simp [Text.lines]
  rw [normalised.lines_eq empty]
  constructor
  · rintro line first rfl
    obtain ⟨others, split⟩ := List.head?_eq_some_iff.1 (Option.mem_def.1 first)
    have source := joinLines_splitOn text
    rw [split] at source
    by_cases single : others = []
    · subst single
      exact empty source.symm
    · rw [joinLines_cons single, List.nil_append] at source
      have clear := normalised.ends.1 '\n' (by rw [← source]; rfl)
      simp [isBlank_lineFeed] at clear
  · rintro line last rfl
    obtain ⟨others, split⟩ := List.getLast?_eq_some_iff.1 (Option.mem_def.1 last)
    have source := joinLines_splitOn text
    rw [split] at source
    by_cases single : others = []
    · subst single
      exact empty source.symm
    · rw [joinLines_append single (by simp)] at source
      have clear := normalised.ends.2 '\n' (by rw [← source]; simp [joinLines])
      simp [isBlank_lineFeed] at clear

end ClientStub.Text
