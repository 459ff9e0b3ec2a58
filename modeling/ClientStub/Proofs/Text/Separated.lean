import ClientStub.Text.Lines
import Mathlib.Data.List.Basic

/-!
# Texts between separators

A text is cut at every occurrence of a separator, from the left. Parts that do not hold the first character
of the separator are found again, however many there are.
-/

namespace ClientStub.Text

/-- The parts of a text between separators, where the first `skip` characters still belong to a separator. -/
def partsBehind (separator : List Char) : Nat → List Char → List (List Char)
  | _, [] => [[]]
  | skip + 1, _ :: rest => partsBehind separator skip rest
  | 0, c :: rest =>
    if separator.isPrefixOf (c :: rest) then [] :: partsBehind separator (separator.length - 1) rest
    else (partsBehind separator 0 rest).modifyHead (c :: ·)

/-- The parts of a text between separators. -/
def partsAt (separator text : List Char) : List (List Char) := partsBehind separator 0 text

theorem partsBehind_length (separator front text : List Char) :
    partsBehind separator front.length (front ++ text) = partsAt separator text := by
  induction front with
  | nil => rfl
  | cons c front ih => exact ih

section

variable {mark : Char} {more : List Char}

theorem partsAt_separator (text : List Char) :
    partsAt (mark :: more) (mark :: more ++ text) = [] :: partsAt (mark :: more) text := by
  have begins : (mark :: more).isPrefixOf (mark :: (more ++ text)) = true :=
    List.isPrefixOf_iff_prefix.2 (List.prefix_append (mark :: more) text)
  rw [List.cons_append, partsAt, partsBehind, if_pos begins]
  exact congrArg _ (partsBehind_length _ more text)

theorem partsAt_cons_of_ne {c : Char} (other : c ≠ mark) (text : List Char) :
    partsAt (mark :: more) (c :: text) = (partsAt (mark :: more) text).modifyHead (c :: ·) := by
  rw [partsAt, partsBehind, if_neg]
  · rfl
  · simp [List.isPrefixOf, Ne.symm other]

theorem partsAt_of_not_mem {part : List Char} (absent : mark ∉ part) :
    partsAt (mark :: more) part = [part] := by
  induction part with
  | nil => rfl
  | cons c part ih =>
    rw [List.mem_cons, not_or] at absent
    rw [partsAt_cons_of_ne (Ne.symm absent.1), ih absent.2]
    rfl

theorem partsAt_append {part : List Char} (absent : mark ∉ part) (text : List Char) :
    partsAt (mark :: more) (part ++ (mark :: more ++ text)) = part :: partsAt (mark :: more) text := by
  induction part with
  | nil => exact partsAt_separator text
  | cons c part ih =>
    rw [List.mem_cons, not_or] at absent
    rw [List.cons_append, partsAt_cons_of_ne (Ne.symm absent.1), ih absent.2]
    rfl

/-- A part, and others behind a separator each. -/
theorem partsAt_separated {first : List Char} {others : List (List Char)} (absent : mark ∉ first)
    (absentOthers : ∀ part ∈ others, mark ∉ part) :
    partsAt (mark :: more) (first ++ others.flatMap fun part => mark :: more ++ part) = first :: others := by
  induction others generalizing first with
  | nil => simpa using partsAt_of_not_mem absent
  | cons second others ih =>
    rw [List.forall_mem_cons] at absentOthers
    rw [List.flatMap_cons, List.append_assoc, partsAt_append absent, ih absentOthers.1 absentOthers.2]

end

theorem toList_join_cons (separator first : String) (others : List String) :
    (join separator (first :: others)).toList =
      first.toList ++ others.flatMap fun part => separator.toList ++ part.toList := by
  induction others generalizing first with
  | nil => simp [join]
  | cons second others ih =>
    rw [join, String.toList_append, String.toList_append, ih, List.flatMap_cons]
    · simp
    · simp

/-- One of several texts stands at the start or behind a separator, and at the end or before one. -/
theorem join_of_mem (separator : String) {texts : List String} {text : String} (listed : text ∈ texts) :
    ∃ front behind, join separator texts = front ++ text ++ behind ∧
      (front = "" ∨ ∃ before, front = before ++ separator) ∧
      (behind = "" ∨ ∃ after, behind = separator ++ after) := by
  induction texts with
  | nil => cases listed
  | cons first others ih =>
    cases others with
    | nil =>
      obtain rfl := List.mem_singleton.1 listed
      exact ⟨"", "", by simp [join], .inl rfl, .inl rfl⟩
    | cons second others =>
      rcases List.mem_cons.1 listed with rfl | later
      · exact ⟨"", separator ++ join separator (second :: others), by simp [join, String.append_assoc],
          .inl rfl, .inr ⟨_, rfl⟩⟩
      · obtain ⟨front, behind, source, begun, ended⟩ := ih later
        refine ⟨first ++ separator ++ front, behind, ?_, .inr ?_, ended⟩
        · rw [join, source]
          · simp only [String.append_assoc]
          · simp
        · rcases begun with rfl | ⟨before, rfl⟩
          · exact ⟨first, String.append_empty⟩
          · exact ⟨first ++ separator ++ before, by simp only [String.append_assoc]⟩

/-- Joined texts are the parts of what they make up. -/
theorem partsAt_join {separator : String} {mark : Char} {more : List Char}
    (source : separator.toList = mark :: more) {texts : List String} (filled : texts ≠ [])
    (absent : ∀ text ∈ texts, mark ∉ text.toList) :
    partsAt separator.toList (join separator texts).toList = texts.map String.toList := by
  obtain ⟨first, others, rfl⟩ := List.exists_cons_of_ne_nil filled
  rw [List.forall_mem_cons] at absent
  have parts : ∀ part ∈ others.map String.toList, mark ∉ part := by
    intro part listed
    obtain ⟨text, inOthers, rfl⟩ := List.mem_map.1 listed
    exact absent.2 text inOthers
  have split := @partsAt_separated mark more _ _ absent.1 parts
  rw [List.flatMap_map] at split
  rw [toList_join_cons, source, List.map_cons]
  exact split

end ClientStub.Text
