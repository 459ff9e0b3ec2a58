import ClientStub.DocBlock
import ClientStub.Proofs.Text.Normalised

/-!
# Tidied texts

Bodies are tidied and the text of a block is cleared of stars, line by line. Neither looks at white space at
the ends of a line or of the text, so both see the parts between line feeds. The text of a block is
normalised, and of a part of it tidying leaves the trimmed part.
-/

namespace ClientStub.DocBlock

open ClientStub.Text

theorem tidy_eq_splitOn (text : List Char) :
    tidy text = trim (joinLines ((text.splitOn '\n').map trimEnd)) :=
  trim_joinLines_map_lines rfl (fun line => trimEnd_append_of_blank rfl line) text

theorem trimEnd_cons (c : Char) (rest : List Char) :
    trimEnd (c :: rest) = if trimEnd rest = [] ∧ isBlank c = true then [] else c :: trimEnd rest := by
  obtain ⟨behind, blank, source⟩ := trimEnd_source rest
  have clear := getLast?_trimEnd rest
  conv => lhs; rw [source]
  rw [← List.cons_append, trimEnd_append_of_blank blank]
  by_cases empty : trimEnd rest = []
  · rw [empty]
    by_cases blankHead : isBlank c = true
    · rw [if_pos ⟨rfl, blankHead⟩]
      exact trimEnd_of_blank (by simp [isBlankText, blankHead])
    · rw [if_neg fun both => blankHead both.2]
      exact trimEnd_eq_self (by simpa using blankHead)
  · rw [if_neg fun both => empty both.1]
    refine trimEnd_eq_self fun d last => clear d ?_
    rwa [List.getLast?_cons_of_ne_nil empty] at last

/-- A white space character behind a line goes with the line's other white space. -/
theorem map_trimEnd_splitOn_concat {c : Char} (blank : isBlank c = true) (ne : c ≠ '\n') (text : List Char) :
    ((text ++ [c]).splitOn '\n').map trimEnd = (text.splitOn '\n').map trimEnd := by
  induction text with
  | nil => simp [List.splitOn_cons_eq_if_modifyHead, ne, blank, trimEnd, dropEndWhile]
  | cons d text ih =>
    rw [List.cons_append, List.splitOn_cons_eq_if_modifyHead, List.splitOn_cons_eq_if_modifyHead]
    split
    · rw [List.map_cons, ih, List.map_cons]
    · obtain ⟨longer, others, split⟩ := List.exists_cons_of_ne_nil (List.splitOn_ne_nil '\n' (text ++ [c]))
      obtain ⟨line, more, parts⟩ := List.exists_cons_of_ne_nil (List.splitOn_ne_nil '\n' text)
      rw [split, parts, List.map_cons, List.map_cons] at ih
      obtain ⟨first, rest⟩ := List.cons.inj ih
      rw [split, parts, List.modifyHead_cons, List.modifyHead_cons, List.map_cons, List.map_cons, rest,
        trimEnd_cons, trimEnd_cons, first]

theorem tidy_concat_of_blank {c : Char} (blank : isBlank c = true) (text : List Char) :
    tidy (text ++ [c]) = tidy text := by
  rw [tidy_eq_splitOn, tidy_eq_splitOn]
  by_cases feed : c = '\n'
  · subst feed
    rw [List.splitOn_append_cons_self, List.splitOn_nil, List.map_append,
      joinLines_append (by simp) (by simp)]
    exact trim_append_of_blank (by decide) _
  · rw [map_trimEnd_splitOn_concat blank feed]

theorem tidy_cons_of_blank {c : Char} (blank : isBlank c = true) (text : List Char) :
    tidy (c :: text) = tidy text := by
  rw [tidy_eq_splitOn, tidy_eq_splitOn, List.splitOn_cons_eq_if_modifyHead]
  obtain ⟨line, more, parts⟩ := List.exists_cons_of_ne_nil (List.splitOn_ne_nil '\n' text)
  split
  · rw [List.map_cons, joinLines_cons (by simp)]
    exact trim_cons_of_blank isBlank_lineFeed _
  · rw [parts, List.modifyHead_cons, List.map_cons, List.map_cons, trimEnd_cons]
    split
    · rename_i empty
      rw [empty.1]
    · rw [joinLines, List.intercalate_cons_cons_left]
      exact trim_cons_of_blank blank _

theorem tidy_append_of_blank {behind : List Char} (blank : isBlankText behind = true) (text : List Char) :
    tidy (text ++ behind) = tidy text := by
  induction behind generalizing text with
  | nil => rw [List.append_nil]
  | cons c behind ih =>
    rw [isBlankText, List.all_cons, Bool.and_eq_true] at blank
    rw [List.append_cons, ih blank.2, tidy_concat_of_blank blank.1]

theorem tidy_blank_append {front : List Char} (blank : isBlankText front = true) (text : List Char) :
    tidy (front ++ text) = tidy text := by
  induction front with
  | nil => rfl
  | cons c front ih =>
    rw [isBlankText, List.all_cons, Bool.and_eq_true] at blank
    rw [List.cons_append, tidy_cons_of_blank blank.1, ih blank.2]

theorem tidy_trim (text : List Char) : tidy (trim text) = tidy text := by
  obtain ⟨front, behind, blankFront, blankBehind, source⟩ := trim_source text
  conv => rhs; rw [source]
  rw [tidy_append_of_blank blankBehind, tidy_blank_append blankFront]

/-- A normalised text is tidy already. -/
theorem tidy_of_normalised {text : List Char} (normalised : Normalised text) : tidy text = text := by
  have kept : (text.splitOn '\n').map trimEnd = text.splitOn '\n' := by
    conv => rhs; rw [← List.map_id (text.splitOn '\n')]
    exact List.map_congr_left fun line listed => trimEnd_eq_self (normalised.lines line listed).2
  rw [tidy_eq_splitOn, kept, joinLines_splitOn, normalised.ends.trim_eq]

/-- Of a part of a normalised text only the white space at its ends goes. -/
theorem tidy_part {front text behind : List Char} (normalised : Normalised (front ++ text ++ behind)) :
    tidy text = trim text := by
  rw [← tidy_trim, tidy_of_normalised normalised.trim_part]

/-- A line loses the star that it begins with once it is trimmed. -/
theorem plainLine_eq (line : List Char) :
    plainLine line = ((dropStart? ['*'] (trim line)).elim (trim line) trim) := by
  have ending : trim line = trimEnd (trimStart line) := rfl
  unfold plainLine
  rw [ending]
  cases started : trimStart line with
  | nil => rfl
  | cons c rest =>
    have clear : isBlank c = false := head?_trimStart line c (by rw [started]; rfl)
    have cut : trimEnd (c :: rest) = c :: trimEnd rest := by
      rw [trimEnd_cons, if_neg fun both => by simp [clear] at both]
    rw [cut]
    by_cases star : c = '*'
    · subst star
      obtain ⟨behind, blank, source⟩ := trimEnd_source rest
      simp only [dropStart?, List.isPrefixOf, beq_self_eq_true, Bool.true_and, if_true, List.length_singleton,
        List.drop_one, List.tail_cons, Option.elim_some]
      conv => lhs; rw [source]
      exact trim_append_of_blank blank _
    · have other : ('*' == c) = false := beq_false_of_ne (Ne.symm star)
      simp [dropStart?, List.isPrefixOf, other, cut]

theorem bare_plainLine (line : List Char) : Bare (plainLine line) := by
  rw [plainLine_eq]
  cases dropStart? ['*'] (trim line) with
  | none => rw [Option.elim_none]; exact bare_trim line
  | some rest => rw [Option.elim_some]; exact bare_trim rest

theorem plainLine_sublist (line : List Char) : (plainLine line).Sublist line := by
  unfold plainLine
  have trimmed : ∀ text : List Char, (trimEnd text).Sublist text := fun text => by
    obtain ⟨behind, -, source⟩ := trimEnd_source text
    conv => rhs; rw [source]
    exact List.sublist_append_left _ _
  refine (trimmed _).trans ?_
  unfold dropStart?
  split
  · exact (List.dropWhile_sublist _).trans ((List.drop_sublist _ _).trans (List.dropWhile_sublist _))
  · exact List.dropWhile_sublist _

theorem plainText_eq_splitOn (block : String) :
    plainText block = trim (joinLines (((withoutDelimiters block.toList).splitOn '\n').map plainLine)) := by
  refine trim_joinLines_map_lines rfl (fun line => ?_) _
  have trimmed : trim (line ++ ['\r']) = trim line := trim_append_of_blank rfl line
  rw [plainLine_eq, plainLine_eq, trimmed]

theorem normalised_plainText (block : String) : Normalised (plainText block) := by
  rw [plainText_eq_splitOn]
  refine normalised_trim_joinLines ?_ ?_
  · intro line listed
    obtain ⟨source, -, rfl⟩ := List.mem_map.1 listed
    exact bare_plainLine source
  · intro line listed
    obtain ⟨source, split, rfl⟩ := List.mem_map.1 listed
    exact fun feed => lineFeed_not_mem_of_mem_splitOn split ((plainLine_sublist source).mem feed)

end ClientStub.DocBlock
