import ClientStub.Description
import ClientStub.Proofs.DocBlock.Words

/-!
# Declarations by their words

A declaration takes a body apart one word at a time. What it takes for the type and the name are the first two
of the words that white space divides the body into, as far as there are so many.
-/

namespace ClientStub

open ClientStub.Text ClientStub.DocBlock

namespace Text

/-- The words of a text: the parts between white space that have any characters. -/
def words (text : List Char) : List (List Char) := (text.splitOnP isBlank).filter (· ≠ [])

theorem ne_nil_of_mem_words {text word : List Char} (listed : word ∈ words text) : word ≠ [] := by
  simpa using (List.mem_filter.1 listed).2

theorem words_blank_append {front : List Char} (blank : isBlankText front = true) (text : List Char) :
    words (front ++ text) = words text := by
  induction front with
  | nil => rfl
  | cons c front ih =>
    rw [isBlankText, List.all_cons, Bool.and_eq_true] at blank
    rw [List.cons_append, words, List.splitOnP_cons_eq_if_modifyHead, if_pos blank.1,
      List.filter_cons_of_neg (by simp)]
    exact ih blank.2

theorem words_of_solid {word : List Char} (filled : word ≠ []) (solid : ∀ c ∈ word, isBlank c = false) :
    words word = [word] := by
  rw [words, List.splitOnP_eq_singleton solid, List.filter_cons_of_pos (by simpa using filled), List.filter_nil]

/-- A word, and behind white space the words of the rest. -/
theorem words_append {word gap rest : List Char} (filled : word ≠ []) (solid : ∀ c ∈ word, isBlank c = false)
    (blank : isBlankText gap = true) (apart : gap ≠ []) :
    words (word ++ gap ++ rest) = word :: words rest := by
  obtain ⟨c, more, rfl⟩ := List.exists_cons_of_ne_nil apart
  rw [isBlankText, List.all_cons, Bool.and_eq_true] at blank
  have source : word ++ c :: more ++ rest = word ++ c :: (more ++ rest) := by simp
  rw [source, words, List.splitOnP_append_cons_of_forall_mem solid _ blank.1,
    List.filter_cons_of_pos (by simpa using filled)]
  exact congrArg (word :: ·) (words_blank_append blank.2 rest)

/-- A text without a first word has nothing behind it. -/
theorem splitWord_eq_nil {text : List Char} (empty : (splitWord text).1 = []) : (splitWord text).2 = [] := by
  have clear := head?_trimStart text
  unfold splitWord at empty ⊢
  dsimp only at empty ⊢
  cases begun : trimStart text with
  | nil => rfl
  | cons c rest =>
    rw [begun] at empty clear
    simp [clear c rfl] at empty

/-- The first word is the first of the words, and the others are those of the rest. -/
theorem words_eq_splitWord (text : List Char) :
    words text = if (splitWord text).1 = [] then [] else (splitWord text).1 :: words (splitWord text).2 := by
  obtain ⟨front, gap, blankFront, blankGap, source, spaced⟩ := splitWord_source text
  have solid : ∀ c ∈ (splitWord text).1, isBlank c = false := fun c listed => isBlank_of_mem_word listed
  conv => lhs; rw [source, List.append_assoc, List.append_assoc, words_blank_append blankFront]
  split
  · rename_i empty
    rw [splitWord_eq_nil empty, empty, List.nil_append, words_blank_append blankGap]
    rfl
  · rename_i filled
    by_cases apart : gap = []
    · have nothing : (splitWord text).2 = [] := by
        by_contra rest
        exact spaced rest apart
      rw [apart, nothing, List.append_nil, List.append_nil, words_of_solid filled solid]
      rfl
    · rw [← List.append_assoc]
      exact words_append filled solid blankGap apart

theorem head?_words (text : List Char) : (words text).head?.getD [] = (splitWord text).1 := by
  rw [words_eq_splitWord]
  split
  · rename_i empty
    rw [empty]
    rfl
  · rfl

theorem tail_words (text : List Char) : (words text).tail = words (splitWord text).2 := by
  rw [words_eq_splitWord]
  split
  · rename_i empty
    rw [splitWord_eq_nil empty]
    rfl
  · rfl

end Text

/-- The name of the parameter that the body of a tag declares: the body's second word without the dollar signs
it begins with. It is empty where there is no second word. -/
def declaredName (body : String) : String :=
  String.ofList (((words body.toList)[1]?.getD []).dropWhile (· = '$'))

/-- The declared type is the first word, if the body has any. -/
theorem type?_ofTag (body : String) : (Declaration.ofTag body).type? = (words body.toList)[0]?.map String.ofList := by
  have first : (Declaration.ofTag body).type = String.ofList ((words body.toList).head?.getD []) := by
    rw [head?_words]
    rfl
  rw [Declaration.type?, first, ← List.head?_eq_getElem?]
  cases split : words body.toList with
  | nil => rfl
  | cons word others =>
    have filled : word ≠ [] := ne_nil_of_mem_words (split ▸ List.mem_cons_self)
    rw [List.head?_cons, Option.getD_some, if_neg (by simpa using filled)]
    rfl

theorem name_ofTag (body : String) :
    (Declaration.ofTag body).name = String.ofList ((words body.toList)[1]?.getD []) := by
  have second : (words body.toList)[1]? = (words body.toList).tail.head? := by
    rw [List.head?_tail]
  rw [second, tail_words, head?_words]
  simp only [Declaration.ofTag, nextWord, String.toList_ofList]

/-- A declaration has a name exactly if the body has a second word. -/
theorem name_ofTag_ne_empty_iff (body : String) :
    (Declaration.ofTag body).name ≠ "" ↔ 2 ≤ (words body.toList).length := by
  rw [name_ofTag, ne_eq, String.ofList_eq_empty_iff]
  cases second : (words body.toList)[1]? with
  | none =>
    have few := List.getElem?_eq_none_iff.1 second
    exact iff_of_false (fun filled => filled rfl) (by omega)
  | some word =>
    have more := (List.getElem?_eq_some_iff.1 second).1
    exact iff_of_true (ne_nil_of_mem_words (List.mem_of_getElem? second)) more

theorem parameterName_ofTag (body : String) : (Declaration.ofTag body).parameterName = declaredName body := by
  rw [Declaration.parameterName, name_ofTag, String.toList_ofList, declaredName]

end ClientStub
