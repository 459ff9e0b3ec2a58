import ClientStub.Proofs.Text.Trim
import ClientStub.Text.Lines
import Mathlib.Data.List.Forall2

/-!
# Lines between line feeds

A text is cut at its line feeds by `splitOn` and put together again by `joinLines`. The physical lines of a
text are those parts, without the carriage returns before the line feeds and without an empty last one; a
reader that drops white space from every line and from the ends of the text cannot tell them apart.
-/

namespace ClientStub.Text

theorem isBlank_lineFeed : isBlank '\n' = true := rfl

theorem joinLines_splitOn (text : List Char) : joinLines (text.splitOn '\n') = text :=
  List.intercalate_splitOn '\n'

theorem splitOn_joinLines {ls : List (List Char)} (single : ∀ line ∈ ls, '\n' ∉ line) (filled : ls ≠ []) :
    (joinLines ls).splitOn '\n' = ls :=
  List.splitOn_intercalate '\n' single filled

theorem joinLines_append {front behind : List (List Char)} (someFront : front ≠ [])
    (someBehind : behind ≠ []) :
    joinLines (front ++ behind) = joinLines front ++ '\n' :: joinLines behind := by
  unfold joinLines
  induction front with
  | nil => exact absurd rfl someFront
  | cons line others ih =>
    rw [List.cons_append, List.intercalate_cons_of_ne_nil (by simp [someBehind])]
    by_cases last : others = []
    · simp [last]
    · rw [ih last, List.intercalate_cons_of_ne_nil last]
      simp

theorem joinLines_cons {line : List Char} {others : List (List Char)} (more : others ≠ []) :
    joinLines (line :: others) = line ++ '\n' :: joinLines others := by
  rw [← List.singleton_append, joinLines_append (by simp) more]
  simp [joinLines]

theorem trim_joinLines_concat (ls : List (List Char)) :
    trim (joinLines (ls ++ [[]])) = trim (joinLines ls) := by
  by_cases empty : ls = []
  · subst empty
    rfl
  · rw [joinLines_append empty (by simp)]
    exact trim_append_of_blank rfl _

/-- Texts of one or more lines, each ended by a line feed, and what follows the last of them. -/
theorem flatMap_joinLines {α : Type} {parts : α → List (List Char)} (filled : ∀ a, parts a ≠ [])
    (items : List α) (behind : List Char) :
    items.flatMap (fun a => joinLines (parts a) ++ ['\n']) ++ behind =
      joinLines (items.flatMap parts ++ [behind]) := by
  induction items with
  | nil => simp [joinLines]
  | cons a items ih =>
    rw [List.flatMap_cons, List.append_assoc, ih, List.flatMap_cons, List.append_assoc (parts a),
      joinLines_append (filled a) (by simp), List.append_assoc, List.singleton_append]

/-- Texts of one or more lines each, one below the other. -/
theorem joinLines_flatMap {α : Type} {parts : α → List (List Char)} (filled : ∀ a, parts a ≠ []) (items : List α) :
    joinLines (items.flatMap parts) = joinLines (items.map fun a => joinLines (parts a)) := by
  induction items with
  | nil => rfl
  | cons a items ih =>
    rw [List.flatMap_cons, List.map_cons]
    by_cases last : items = []
    · subst last
      simp [joinLines]
    · rw [joinLines_append (filled a) (by simpa [filled] using List.exists_mem_of_ne_nil _ last), ih,
        joinLines_cons (by simpa using last)]

theorem lineFeed_not_mem_of_mem_splitOn {text line : List Char} (listed : line ∈ text.splitOn '\n') :
    '\n' ∉ line := by
  induction text generalizing line with
  | nil => simp_all
  | cons c rest ih =>
    rw [List.splitOn_cons_eq_if_modifyHead] at listed
    split at listed
    · rcases List.mem_cons.1 listed with rfl | listed
      · simp
      · exact ih listed
    · rename_i other
      obtain ⟨first, others, split⟩ := List.exists_cons_of_ne_nil (List.splitOn_ne_nil '\n' rest)
      rw [split, List.modifyHead_cons] at listed
      rcases List.mem_cons.1 listed with rfl | listed
      · have clear : '\n' ∉ first := ih (split ▸ List.mem_cons_self)
        simp only [beq_iff_eq] at other
        simp [clear, Ne.symm other]
      · exact ih (split ▸ List.mem_cons_of_mem _ listed)

/-- Where a line stands in its text: at an end or beside a line feed on either side. -/
theorem mem_splitOn_source {text line : List Char} (listed : line ∈ text.splitOn '\n') :
    ∃ front behind, text = front ++ line ++ behind ∧ (front = [] ∨ ∃ before, front = before ++ ['\n']) ∧
      (behind = [] ∨ ∃ after, behind = '\n' :: after) := by
  obtain ⟨above, below, split⟩ := List.append_of_mem listed
  have source := joinLines_splitOn text
  rw [split] at source
  by_cases first : above = []
  · subst first
    by_cases last : below = []
    · subst last
      exact ⟨[], [], by simp [← source, joinLines], .inl rfl, .inl rfl⟩
    · refine ⟨[], '\n' :: joinLines below, ?_, .inl rfl, .inr ⟨_, rfl⟩⟩
      rw [← source, List.nil_append, joinLines_cons last]
      simp
  · rw [joinLines_append first (by simp)] at source
    by_cases last : below = []
    · subst last
      exact ⟨joinLines above ++ ['\n'], [], by simp [← source, joinLines], .inr ⟨_, rfl⟩, .inl rfl⟩
    · refine ⟨joinLines above ++ ['\n'], '\n' :: joinLines below, ?_, .inr ⟨_, rfl⟩, .inr ⟨_, rfl⟩⟩
      rw [← source, joinLines_cons last]
      simp

theorem exists_line_of_head {c : Char} (ne : c ≠ '\n') (rest : List Char) :
    ∃ line ∈ (c :: rest).splitOn '\n', line.head? = some c := by
  obtain ⟨first, others, split⟩ := List.exists_cons_of_ne_nil (List.splitOn_ne_nil '\n' rest)
  refine ⟨c :: first, ?_, rfl⟩
  rw [List.splitOn_cons_eq_if_modifyHead, if_neg (by simpa using ne), split]
  exact List.mem_cons_self

theorem exists_line_of_getLast {c : Char} (ne : c ≠ '\n') (front : List Char) :
    ∃ line ∈ (front ++ [c]).splitOn '\n', line.getLast? = some c := by
  induction front with
  | nil => exact ⟨[c], by simp [List.splitOn_cons_eq_if_modifyHead, ne], rfl⟩
  | cons d front ih =>
    obtain ⟨line, listed, last⟩ := ih
    rw [List.cons_append, List.splitOn_cons_eq_if_modifyHead]
    split
    · exact ⟨line, List.mem_cons_of_mem _ listed, last⟩
    · obtain ⟨first, others, split⟩ := List.exists_cons_of_ne_nil (List.splitOn_ne_nil '\n' (front ++ [c]))
      rw [split] at listed ⊢
      rcases List.mem_cons.1 listed with rfl | listed
      · refine ⟨d :: line, List.mem_cons_self, ?_⟩
        cases line with
        | nil => simp at last
        | cons e line => simpa using last
      · exact ⟨line, List.mem_cons_of_mem _ listed, last⟩

theorem lines_ne_nil {text : List Char} (filled : text ≠ []) : lines text ≠ [] := by
  fun_cases lines text with
  | case1 => exact absurd rfl filled
  | case2 | case3 | case4 | case5 => simp

/-- A part between line feeds and the physical line that it is read as. -/
def ReadAs (part line : List Char) : Prop := part = line ∨ part = line ++ ['\r']

/-- The part behind the last line feed is a physical line unless it is empty. -/
theorem splitOn_readAs_lines (text : List Char) :
    List.Forall₂ ReadAs (text.splitOn '\n')
      (lines text ++ if text = [] ∨ text.getLast? = some '\n' then [[]] else []) := by
  fun_induction lines text with
  | case1 => exact .cons (.inl rfl) .nil
  | case2 rest ih =>
    rw [List.splitOn_cons_eq_if_modifyHead]
    refine .cons (.inl rfl) ?_
    cases rest with
    | nil => simpa using ih
    | cons c rest => simpa [List.getLast?_cons_cons] using ih
  | case3 rest ih =>
    rw [List.splitOn_cons_eq_if_modifyHead, List.splitOn_cons_eq_if_modifyHead]
    refine .cons (.inr rfl) ?_
    cases rest with
    | nil => simpa using ih
    | cons c rest => simpa [List.getLast?_cons_cons] using ih
  | case4 c rest notFeed notReturn empty ih =>
    obtain rfl : rest = [] := by
      cases rest with
      | nil => rfl
      | cons d rest => exact absurd empty (lines_ne_nil (List.cons_ne_nil d rest))
    have other : c ≠ '\n' := notFeed
    simp [List.splitOn_cons_eq_if_modifyHead, other, ReadAs]
  | case5 c rest notFeed notReturn line others split ih =>
    obtain ⟨d, rest, rfl⟩ : ∃ d more, rest = d :: more := by
      cases rest with
      | nil => simp [lines] at split
      | cons d rest => exact ⟨d, rest, rfl⟩
    obtain ⟨first, more, parts⟩ := List.exists_cons_of_ne_nil (List.splitOn_ne_nil '\n' (d :: rest))
    have other : (c == '\n') = false := beq_false_of_ne notFeed
    rw [parts, split, List.cons_append, List.forall₂_cons] at ih
    rw [List.splitOn_cons_eq_if_modifyHead, other, if_neg Bool.false_ne_true, parts]
    refine .cons ?_ ?_
    · rcases ih.1 with same | same
      · exact .inl (by rw [same])
      · exact .inr (by rw [same]; rfl)
    · simpa [List.getLast?_cons_cons] using ih.2

/-- What a part begins with, its line begins with: only a carriage return at the end may go. -/
theorem ReadAs.isPrefix {part line start : List Char} (read : ReadAs part line) (begins : start <+: part)
    (ending : start.getLast? ≠ some '\r') : start <+: line := by
  rcases read with rfl | rfl
  · exact begins
  · rcases List.prefix_concat_iff.1 begins with rfl | shorter
    · simp at ending
    · exact shorter

theorem exists_related {α β : Type} {related : α → β → Prop} {as : List α} {bs : List β}
    (pairs : List.Forall₂ related as bs) {b : β} (listed : b ∈ bs) : ∃ a ∈ as, related a b := by
  induction pairs with
  | nil => cases listed
  | cons here _ ih =>
    rcases List.mem_cons.1 listed with rfl | later
    · exact ⟨_, List.mem_cons_self, here⟩
    · obtain ⟨a, inRest, there⟩ := ih later
      exact ⟨a, List.mem_cons_of_mem _ inRest, there⟩

theorem exists_part_of_mem_lines {text line : List Char} (listed : line ∈ lines text) :
    ∃ part ∈ text.splitOn '\n', ReadAs part line :=
  exists_related (splitOn_readAs_lines text) (List.mem_append_left _ listed)

theorem exists_line_of_mem_splitOn {text part : List Char} (listed : part ∈ text.splitOn '\n') :
    ∃ line, (line ∈ lines text ∨ line = []) ∧ ReadAs part line := by
  obtain ⟨line, inLines, read⟩ := exists_related (splitOn_readAs_lines text).flip listed
  refine ⟨line, ?_, read⟩
  rcases List.mem_append.1 inLines with inText | inEnd
  · exact .inl inText
  · split at inEnd
    · exact .inr (List.mem_singleton.1 inEnd)
    · cases inEnd

/-- A text without a line feed that stands right behind one begins a physical line. -/
theorem exists_line_of_isPrefix {start : List Char} (single : '\n' ∉ start) (filled : start ≠ [])
    (ending : start.getLast? ≠ Option.some '\r') (front behind : List Char) :
    ∃ line ∈ lines (front ++ '\n' :: (start ++ behind)), start <+: line := by
  obtain ⟨rest, others, split⟩ : ∃ rest others, (start ++ behind).splitOn '\n' = (start ++ rest) :: others := by
    clear filled ending
    induction start with
    | nil => exact List.exists_cons_of_ne_nil (List.splitOn_ne_nil '\n' behind)
    | cons c start ih =>
      rw [List.mem_cons, not_or] at single
      obtain ⟨rest, others, split⟩ := ih single.2
      refine ⟨rest, others, ?_⟩
      rw [List.cons_append, List.splitOn_cons_eq_if_modifyHead, if_neg (by simpa using Ne.symm single.1), split]
      rfl
  have listed : start ++ rest ∈ (front ++ '\n' :: (start ++ behind)).splitOn '\n' := by
    rw [List.splitOn_append_cons_self, split]
    simp
  obtain ⟨line, inLines, read⟩ := exists_line_of_mem_splitOn listed
  have begins := read.isPrefix (List.prefix_append start rest) ending
  rcases inLines with inText | rfl
  · exact ⟨line, inText, begins⟩
  · exact absurd (List.prefix_nil.1 begins) filled

theorem lineFeed_not_mem_of_mem_lines {text line : List Char} (listed : line ∈ lines text) :
    '\n' ∉ line := by
  obtain ⟨part, inText, read⟩ := exists_part_of_mem_lines listed
  have clear := lineFeed_not_mem_of_mem_splitOn inText
  rcases read with rfl | rfl
  · exact clear
  · exact fun feed => clear (List.mem_append_left _ feed)

theorem map_eq_of_readAs {f : List Char → List Char} (feeds : ∀ line, f (line ++ ['\r']) = f line)
    {parts ls : List (List Char)} (related : List.Forall₂ ReadAs parts ls) : parts.map f = ls.map f := by
  induction related with
  | nil => rfl
  | cons read _ ih =>
    rcases read with rfl | rfl
    · rw [List.map_cons, ih, List.map_cons]
    · rw [List.map_cons, feeds, ih, List.map_cons]

/-- Where every line loses its white space, the carriage returns go with it, and what the end of the text
counts as does not matter once the ends are trimmed. -/
theorem trim_joinLines_map_lines {f : List Char → List Char} (empty : f [] = [])
    (feeds : ∀ line, f (line ++ ['\r']) = f line) (text : List Char) :
    trim (joinLines ((lines text).map f)) = trim (joinLines ((text.splitOn '\n').map f)) := by
  rw [map_eq_of_readAs feeds (splitOn_readAs_lines text), List.map_append]
  split
  · rw [List.map_singleton, empty, trim_joinLines_concat]
  · rw [List.map_nil, List.append_nil]

/-- Lines, each with a line feed behind it. -/
def endLines (ls : List (List Char)) : List Char := ls.flatMap (· ++ ['\n'])

theorem endLines_cons (line : List Char) (others : List (List Char)) :
    endLines (line :: others) = line ++ '\n' :: endLines others := by
  simp [endLines]

theorem endLines_append (front behind : List (List Char)) :
    endLines (front ++ behind) = endLines front ++ endLines behind :=
  List.flatMap_append

theorem endLines_eq_joinLines {ls : List (List Char)} (filled : ls ≠ []) : endLines ls = joinLines ls ++ ['\n'] := by
  induction ls with
  | nil => exact absurd rfl filled
  | cons line others ih =>
    rw [endLines_cons]
    by_cases last : others = []
    · subst last
      simp [endLines, joinLines]
    · rw [ih last, joinLines_cons last, List.append_assoc, List.cons_append]

/-- Lines that were put together count as one line among others. -/
theorem endLines_joinLines_cons {ls : List (List Char)} (filled : ls ≠ []) (behind : List (List Char)) :
    endLines (joinLines ls :: behind) = endLines (ls ++ behind) := by
  rw [endLines_cons, endLines_append, endLines_eq_joinLines filled, List.append_assoc, List.singleton_append]

/-- A character that begins no line ending joins the first line. -/
theorem lines_cons_of_ne {c : Char} (notFeed : c ≠ '\n') (notReturn : c ≠ '\r') (rest : List Char) :
    lines (c :: rest) =
      match lines rest with
      | [] => [[c]]
      | line :: others => (c :: line) :: others :=
  lines.eq_4 c rest notFeed fun _ same => absurd same notReturn

/-- A text without line endings, and behind its line feed another text. -/
theorem lines_append_lineFeed {line : List Char} (single : '\n' ∉ line) (noReturn : '\r' ∉ line)
    (rest : List Char) : lines (line ++ '\n' :: rest) = line :: lines rest := by
  induction line with
  | nil => rfl
  | cons c line ih =>
    rw [List.mem_cons, not_or] at single noReturn
    rw [List.cons_append, lines_cons_of_ne (Ne.symm single.1) (Ne.symm noReturn.1), ih single.2 noReturn.2]

theorem lines_endLines {ls : List (List Char)} (single : ∀ line ∈ ls, '\n' ∉ line)
    (noReturn : ∀ line ∈ ls, '\r' ∉ line) : lines (endLines ls) = ls := by
  induction ls with
  | nil => rfl
  | cons line others ih =>
    rw [List.forall_mem_cons] at single noReturn
    rw [endLines_cons, lines_append_lineFeed single.1 noReturn.1, ih single.2 noReturn.2]

theorem lines_of_not_mem {line : List Char} (filled : line ≠ []) (single : '\n' ∉ line) (noReturn : '\r' ∉ line) :
    lines line = [line] := by
  induction line with
  | nil => exact absurd rfl filled
  | cons c line ih =>
    rw [List.mem_cons, not_or] at single noReturn
    rw [lines_cons_of_ne (Ne.symm single.1) (Ne.symm noReturn.1)]
    by_cases last : line = []
    · subst last
      rfl
    · rw [ih last single.2 noReturn.2]

/-- Lines with something in them, put together, are the lines of what they make up. -/
theorem lines_joinLines {ls : List (List Char)} (filled : ∀ line ∈ ls, line ≠ [])
    (single : ∀ line ∈ ls, '\n' ∉ line) (noReturn : ∀ line ∈ ls, '\r' ∉ line) : lines (joinLines ls) = ls := by
  induction ls with
  | nil => rfl
  | cons line others ih =>
    rw [List.forall_mem_cons] at filled single noReturn
    by_cases last : others = []
    · subst last
      rw [joinLines, List.intercalate_singleton]
      exact lines_of_not_mem filled.1 single.1 noReturn.1
    · rw [joinLines_cons last, lines_append_lineFeed single.1 noReturn.1, ih filled.2 single.2 noReturn.2]

/-- A text that no line feed ends has its last character at the end of its last line. -/
theorem exists_lines_concat {front : List Char} {c : Char} (noReturn : '\r' ∉ front) (notFeed : c ≠ '\n') :
    ∃ above last, lines (front ++ [c]) = above ++ [last ++ [c]] := by
  induction front with
  | nil => exact ⟨[], [], by simp [lines]⟩
  | cons d front ih =>
    rw [List.mem_cons, not_or] at noReturn
    obtain ⟨above, last, split⟩ := ih noReturn.2
    by_cases feed : d = '\n'
    · subst feed
      exact ⟨[] :: above, last, by rw [List.cons_append, lines, split, List.cons_append]⟩
    · rw [List.cons_append, lines_cons_of_ne feed (Ne.symm noReturn.1), split]
      cases above with
      | nil => exact ⟨[], d :: last, rfl⟩
      | cons line above => exact ⟨(d :: line) :: above, last, rfl⟩

end ClientStub.Text
