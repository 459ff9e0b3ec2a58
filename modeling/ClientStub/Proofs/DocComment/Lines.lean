import ClientStub.Proofs.DocComment.Closing

/-!
# The lines of a comment

A comment stands in lines of its own: the delimiters have one each, and between them every physical line of the
logical lines stands behind its star, in order. Taking the stars away gives the physical lines back, so none of the
text is lost and none of it stands outside. A reader that counts a carriage return before a line feed as part of the
line ending finds the same lines, without a carriage return at their ends.
-/

namespace ClientStub.DocComment

open ClientStub.Text

/-- What stands in a line of a comment: nothing behind a lone star, or a text behind a star and a space. Other lines
are none of a comment's. -/
def content? (line : List Char) : Option (List Char) :=
  if line = " *".toList then some [] else (dropStart? " * ".toList line).filter (· ≠ [])

theorem content?_starred (line : List Char) : content? (starred line) = some line := by
  unfold starred
  split
  · rename_i empty
    rw [List.isEmpty_iff.1 empty]
    rfl
  · rename_i filled
    have other : " * ".toList ++ line ≠ " *".toList := fun same => by simpa using congrArg List.length same
    rw [content?, if_neg other, dropStart?_append, Option.filter_some, if_pos (by simpa using filled)]

theorem starred_cases (line : List Char) :
    starred line = " *".toList ∨ ∃ text, text ≠ [] ∧ starred line = " * ".toList ++ text := by
  unfold starred
  split
  · exact .inl rfl
  · rename_i filled
    exact .inr ⟨line, by simpa using filled, rfl⟩

theorem lineFeed_not_mem_of_mem_starredLines {texts : List String} {line : List Char}
    (listed : line ∈ starredLines texts) : '\n' ∉ line := by
  obtain ⟨text, -, inText⟩ := List.mem_flatMap.1 listed
  obtain ⟨physical, inLines, rfl⟩ := List.mem_map.1 inText
  exact lineFeed_not_mem_starred (lineFeed_not_mem_physicalLines inLines)

theorem splitOn_block (texts : List String) :
    (block texts).toList.splitOn '\n' = "/**".toList :: (starredLines texts ++ [" */".toList]) := by
  rw [toList_block_eq_joinLines]
  refine splitOn_joinLines (fun line listed => ?_) (by simp)
  rcases List.mem_cons.1 listed with rfl | listed
  · decide
  · rcases List.mem_append.1 listed with inTexts | last
    · exact lineFeed_not_mem_of_mem_starredLines inTexts
    · obtain rfl := List.mem_singleton.1 last
      decide

/-- A line without the carriage return at its end, if it has one. -/
def withoutReturn (line : List Char) : List Char := if line.getLast? = some '\r' then line.dropLast else line

theorem withoutReturn_cons {c : Char} {line : List Char} (more : line ≠ []) :
    withoutReturn (c :: line) = c :: withoutReturn line := by
  obtain ⟨d, rest, rfl⟩ := List.exists_cons_of_ne_nil more
  rw [withoutReturn, withoutReturn, List.getLast?_cons_cons]
  split <;> rfl

/-- A line feed ends a line, and the carriage return before it goes with it. -/
theorem lines_append_feed {line : List Char} (single : '\n' ∉ line) (rest : List Char) :
    lines (line ++ '\n' :: rest) = withoutReturn line :: lines rest := by
  induction line with
  | nil => rfl
  | cons c line ih =>
    rw [List.mem_cons, not_or] at single
    have behind := ih single.2
    cases line with
    | nil =>
      by_cases returned : c = '\r'
      · subst returned
        rfl
      · have kept : withoutReturn [c] = [c] := by simp [withoutReturn, returned]
        rw [kept, List.singleton_append, lines_cons_of_ne (Ne.symm single.1) returned]
        rfl
    | cons d line =>
      have notFeed : d ≠ '\n' := fun same => single.2 (same ▸ List.mem_cons_self)
      have inside : ∀ more, c = '\r' → d :: (line ++ '\n' :: rest) = '\n' :: more → False := by
        intro more _ same
        exact notFeed (List.cons.inj same).1
      rw [withoutReturn_cons (by simp), List.cons_append, List.cons_append,
        lines.eq_4 c (d :: (line ++ '\n' :: rest)) (Ne.symm single.1) inside, ← List.cons_append, behind]

theorem lines_joinLines_concat {ls : List (List Char)} (single : ∀ line ∈ ls, '\n' ∉ line) (last : List Char) :
    lines (joinLines (ls ++ [last])) = ls.map withoutReturn ++ lines last := by
  induction ls with
  | nil => simp [joinLines]
  | cons line others ih =>
    rw [List.forall_mem_cons] at single
    rw [List.cons_append, joinLines_cons (by simp), lines_append_feed single.1, ih single.2]
    rfl

theorem lines_block (texts : List String) :
    lines (block texts).toList =
      "/**".toList :: ((starredLines texts).map withoutReturn ++ [" */".toList]) := by
  have single : ∀ line ∈ "/**".toList :: starredLines texts, '\n' ∉ line := by
    rw [List.forall_mem_cons]
    exact ⟨by decide, fun line => lineFeed_not_mem_of_mem_starredLines⟩
  rw [toList_block_eq_joinLines, ← List.cons_append, lines_joinLines_concat single]
  rfl

/-- Between its delimiters, which stand in lines of their own, a comment has lines that are a lone star or a star, a
space and some text. What stands in them is, in order, the physical lines of the logical lines, of which an empty one
has one. Only carriage returns at the ends of these lines are lost to a reader that takes them for a part of the line
ending. -/
theorem block_frames_every_line (texts : List String) :
    ∃ framed : List (List Char),
      (block texts).toList.splitOn '\n' = "/**".toList :: (framed ++ [" */".toList]) ∧
      (∀ line ∈ framed, line = " *".toList ∨ ∃ text, text ≠ [] ∧ line = " * ".toList ++ text) ∧
      framed.map content? =
        (texts.flatMap fun text => if text = "" then [[]] else lines text.toList).map some ∧
      lines (block texts).toList = "/**".toList :: (framed.map withoutReturn ++ [" */".toList]) := by
  have physical (text : String) : physicalLines text.toList = if text = "" then [[]] else lines text.toList := by
    rw [physicalLines]
    simp only [List.isEmpty_iff, String.toList_eq_nil_iff]
  have source : starredLines texts = (texts.flatMap fun text => physicalLines text.toList).map starred := by
    rw [starredLines, List.map_flatMap]
  have contents : content? ∘ starred = some := funext content?_starred
  simp only [← physical]
  refine ⟨starredLines texts, splitOn_block texts, ?_, ?_, lines_block texts⟩
  · rw [source, List.forall_mem_map]
    exact fun line _ => starred_cases line
  · rw [source, List.map_map, contents]

/-- An empty text, and one with an empty line, line endings of both kinds and a carriage return at its end. -/
theorem block_frames_every_line_of_carriage_returns :
    let texts := ["", "a\n\n  b\r\nc\r"]
    (block texts).toList.splitOn '\n' =
      ["/**", " *", " * a", " *", " *   b", " * c\r", " */"].map String.toList ∧
    ∃ framed : List (List Char),
      framed.map content? = ["", "a", "", "  b", "c\r"].map (fun line => some line.toList) ∧
      lines (block texts).toList = "/**".toList :: (framed.map withoutReturn ++ [" */".toList]) ∧
      framed.map withoutReturn = [" *", " * a", " *", " *   b", " * c"].map String.toList := by
  intro texts
  obtain ⟨framed, split, -, contents, physical⟩ := block_frames_every_line texts
  have parts : (block texts).toList.splitOn '\n' =
      ["/**", " *", " * a", " *", " *   b", " * c\r", " */"].map String.toList := by decide
  have same : framed ++ [" */".toList] = [" *", " * a", " *", " *   b", " * c\r", " */"].map String.toList :=
    (List.cons.inj (split.symm.trans parts)).2
  obtain rfl : framed = [" *", " * a", " *", " *   b", " * c\r"].map String.toList :=
    List.append_cancel_right (same.trans rfl)
  exact ⟨parts, _, contents.trans (by decide), physical, by decide⟩

end ClientStub.DocComment
