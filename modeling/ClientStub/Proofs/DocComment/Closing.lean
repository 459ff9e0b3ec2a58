import ClientStub.Proofs.DocComment.Frame
import ClientStub.Proofs.Text.Pattern

/-!
# Where a comment ends

A comment is over at its first closing delimiter. The delimiter that a comment is written with is the first
one exactly if none of the logical lines has one: stars and line endings make none.
-/

namespace ClientStub.DocComment

open ClientStub.Text

variable {pattern : List Char}

theorem lacks_starred_iff (filled : pattern ≠ []) (space : ' ' ∉ pattern) (star : Lacks pattern ['*'])
    {line : List Char} : Lacks pattern (starred line) ↔ Lacks pattern line := by
  have margin : Lacks pattern " *".toList := (lacks_cons filled space).2 star
  unfold starred
  split
  · rename_i empty
    rw [List.isEmpty_iff.1 empty]
    exact iff_of_true margin (lacks_nil filled)
  · change Lacks pattern (" *".toList ++ ' ' :: line) ↔ _
    rw [lacks_append_cons filled space]
    exact and_iff_right margin

theorem lacks_physicalLines (filled : pattern ≠ []) {text : List Char} (lacks : Lacks pattern text) :
    ∀ line ∈ physicalLines text, Lacks pattern line := by
  unfold physicalLines
  split
  · simpa using lacks_nil filled
  · exact fun line listed => lacks.of_isInfix (isInfix_of_mem_lines listed)

theorem lacks_starredLines (filled : pattern ≠ []) (space : ' ' ∉ pattern) (star : Lacks pattern ['*'])
    {texts : List String} (lacks : ∀ text ∈ texts, Lacks pattern text.toList) :
    ∀ line ∈ starredLines texts, Lacks pattern line := by
  intro line listed
  obtain ⟨text, inTexts, inText⟩ := List.mem_flatMap.1 listed
  obtain ⟨physical, inLines, rfl⟩ := List.mem_map.1 inText
  exact (lacks_starred_iff filled space star).2 (lacks_physicalLines filled (lacks text inTexts) physical inLines)

/-- A pattern that no line ending touches stands in a logical line only if it does in a physical one. -/
theorem lacks_starredLines_iff (filled : pattern ≠ []) (space : ' ' ∉ pattern) (star : Lacks pattern ['*'])
    (single : '\n' ∉ pattern) (noReturn : '\r' ∉ pattern) {texts : List String} :
    (∀ line ∈ starredLines texts, Lacks pattern line) ↔ ∀ text ∈ texts, Lacks pattern text.toList := by
  refine ⟨fun lacks text inTexts => ?_, lacks_starredLines filled space star⟩
  rw [← lacks_lines_iff filled single noReturn]
  intro line listed
  have physical : line ∈ physicalLines text.toList := by
    unfold physicalLines
    split
    · rename_i empty
      rw [List.isEmpty_iff.1 empty] at listed
      cases listed
    · exact listed
  have inComment : starred line ∈ starredLines texts :=
    List.mem_flatMap.2 ⟨text, inTexts, List.mem_map_of_mem physical⟩
  exact (lacks_starred_iff filled space star).1 (lacks _ inComment)

/-- A comment as its physical lines. -/
theorem toList_block_eq_joinLines (texts : List String) :
    (block texts).toList = joinLines ("/**".toList :: (starredLines texts ++ [" */".toList])) := by
  rw [toList_block, joinLines_cons (by simp), joinLines_cons (by simp)]
  by_cases empty : starredLines texts = []
  · rw [empty]
    decide
  · rw [joinLines_append empty (by simp), joinLines_append empty (by simp)]
    simp [joinLines]

/-- A comment without its last line. -/
def opened (texts : List String) : List Char := joinLines ("/**".toList :: starredLines texts) ++ ['\n']

theorem toList_block_eq_opened (texts : List String) :
    (block texts).toList = opened texts ++ ' ' :: "*/".toList := by
  rw [toList_block_eq_joinLines, ← List.cons_append, joinLines_append (by simp) (by simp), opened]
  simp [joinLines]

/-- A comment has the closing delimiter at its end alone exactly if its logical lines have none. -/
theorem places_block_iff (texts : List String) :
    places "*/".toList (block texts).toList = [(block texts).toList.length - 2] ↔
      ∀ text ∈ texts, Lacks "*/".toList text.toList := by
  have filled : "*/".toList ≠ [] := by decide
  have single : '\n' ∉ "*/".toList := by decide
  have parts : opened texts ++ ' ' :: "*/".toList = (opened texts ++ [' ']) ++ "*/".toList := by simp
  have length : ((opened texts ++ [' ']) ++ "*/".toList).length - 2 = (opened texts ++ [' ']).length := by
    rw [List.length_append]
    exact Nat.add_sub_cancel _ 2
  rw [toList_block_eq_opened, parts, length, places_append_eq_singleton_iff filled, ← parts,
    atEndOnly_append_cons_iff filled (by decide), opened, lacks_append_cons filled single,
    lacks_joinLines_iff filled single, List.forall_mem_cons,
    lacks_starredLines_iff filled (by decide) (by decide) single (by decide)]
  constructor
  · exact fun lacks => lacks.1.2
  · exact fun lacks => ⟨⟨by decide, lacks⟩, lacks_nil filled⟩

end ClientStub.DocComment
