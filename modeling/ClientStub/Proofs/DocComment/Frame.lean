import ClientStub.DocComment
import ClientStub.Proofs.DocBlock.Reading

/-!
# The text of a written comment

A comment frames its logical lines: delimiters around them, and a star before each physical line. Read as a
documentation block it gives the physical lines back, each without the white space at its ends. So its tag
map is that of the logical lines put one below the other.
-/

namespace ClientStub.DocComment

open ClientStub.Text ClientStub.DocBlock

theorem physicalLines_ne_nil (text : List Char) : physicalLines text ≠ [] := by
  unfold physicalLines
  split
  · simp
  · rename_i filled
    exact lines_ne_nil (by simpa using filled)

theorem lineFeed_not_mem_physicalLines {text line : List Char} (listed : line ∈ physicalLines text) :
    '\n' ∉ line := by
  unfold physicalLines at listed
  split at listed
  · simp_all
  · exact lineFeed_not_mem_of_mem_lines listed

theorem lineFeed_not_mem_starred {line : List Char} (single : '\n' ∉ line) : '\n' ∉ starred line := by
  unfold starred
  split <;> simp [single]

/-- Its star and the white space at its ends apart, a physical line is read as it was written. -/
theorem plainLine_starred (line : List Char) : plainLine (starred line) = trim line := by
  rw [plainLine_eq]
  unfold starred
  split
  · rename_i empty
    rw [List.isEmpty_iff.1 empty]
    decide
  · have trimmed : trim (" * ".toList ++ line) = '*' :: trimEnd (' ' :: line) := by
      change trim (' ' :: '*' :: ' ' :: line) = _
      rw [trim_cons_of_blank rfl, trim, trimStart_eq_self (by simp [isBlank, blanks]), trimEnd_cons,
        if_neg fun both => by simp [isBlank, blanks] at both]
    rw [trimmed]
    simp only [dropStart?, List.isPrefixOf, beq_self_eq_true, Bool.true_and, if_true, List.length_singleton,
      List.drop_one, List.tail_cons, Option.elim_some]
    obtain ⟨behind, blank, source⟩ := trimEnd_source (' ' :: line)
    rw [← trim_append_of_blank blank, ← source, trim_cons_of_blank rfl]

/-- A text that no line feed ends has the physical lines that its line feeds divide, white space at their
ends apart. -/
theorem map_trim_physicalLines {text : List Char} (ending : text.getLast? ≠ some '\n') :
    (physicalLines text).map trim = (text.splitOn '\n').map trim := by
  unfold physicalLines
  split
  · rename_i empty
    rw [List.isEmpty_iff.1 empty]
    rfl
  · rename_i filled
    have related := splitOn_readAs_lines text
    rw [if_neg (by simp_all), List.append_nil] at related
    exact (map_eq_of_readAs (fun line => trim_append_of_blank rfl line) related).symm

theorem withoutDelimiters_comment (inner : List Char) :
    withoutDelimiters ("/**".toList ++ inner ++ "*/".toList) = inner := by
  have bare : Bare ("/**".toList ++ inner ++ "*/".toList) := by
    have last : ("/**".toList ++ inner ++ "*/".toList).getLast? = some '/' := by
      rw [List.getLast?_append]
      rfl
    refine ⟨fun c first => ?_, fun c ending => ?_⟩
    · obtain rfl : '/' = c := by simpa using first
      decide
    · obtain rfl : '/' = c := Option.some.inj (last.symm.trans ending)
      decide
  unfold withoutDelimiters
  dsimp only
  rw [bare.trim_eq, List.append_assoc, dropStart?_append, Option.orElse_some, Option.getD_some,
    dropEnd?_append, Option.getD_some]

/-- The physical lines of a comment, each behind its star. -/
def starredLines (texts : List String) : List (List Char) :=
  texts.flatMap fun text => (physicalLines text.toList).map starred

theorem toList_block (texts : List String) :
    (block texts).toList =
      "/**".toList ++ joinLines ([] :: (starredLines texts ++ [[' ']])) ++ "*/".toList := by
  have filled : ∀ text : String, (physicalLines text.toList).map starred ≠ [] := fun text => by
    simpa using physicalLines_ne_nil text.toList
  rw [joinLines_cons (by simp), starredLines, ← flatMap_joinLines filled, block]
  simp [String.toList_join, List.flatMap_map, line]

theorem plainText_block (texts : List String) :
    plainText (block texts) =
      trim (joinLines (texts.flatMap fun text => (physicalLines text.toList).map trim)) := by
  have single : ∀ l ∈ [] :: (starredLines texts ++ [[' ']]), '\n' ∉ l := by
    intro l listed
    rcases List.mem_cons.1 listed with rfl | listed
    · simp
    · rcases List.mem_append.1 listed with listed | listed
      · obtain ⟨text, -, inText⟩ := List.mem_flatMap.1 listed
        obtain ⟨physical, inLines, rfl⟩ := List.mem_map.1 inText
        exact lineFeed_not_mem_starred (lineFeed_not_mem_physicalLines inLines)
      · simp_all
  have plain : (starredLines texts).map plainLine =
      texts.flatMap fun text => (physicalLines text.toList).map trim := by
    rw [starredLines, List.map_flatMap]
    simp [Function.comp_def, plainLine_starred]
  rw [plainText_eq_splitOn, toList_block, withoutDelimiters_comment, splitOn_joinLines single (by simp),
    List.map_cons, List.map_append, plain]
  change trim (joinLines ([] :: (_ ++ [[]]))) = _
  rw [joinLines_cons (by simp), List.nil_append, trim_cons_of_blank isBlank_lineFeed, trim_joinLines_concat]

/-- A text without the white space at the ends of its lines. -/
def cleared (text : List Char) : List Char := joinLines ((text.splitOn '\n').map trim)

theorem cleared_of_normalised {text : List Char} (normalised : Normalised text) : cleared text = text := by
  rw [cleared, normalised.map_trim, joinLines_splitOn]

/-- The tag map of a comment is that of its logical lines, each ended by a line feed. -/
theorem tags_block {texts : List String} (endings : ∀ text ∈ texts, text.toList.getLast? ≠ some '\n') :
    tags (some (block texts)) = readText (texts.flatMap fun text => cleared text.toList ++ ['\n']) := by
  have parts : (texts.flatMap fun text => (physicalLines text.toList).map trim) =
      texts.flatMap fun text => (text.toList.splitOn '\n').map trim :=
    List.flatMap_congr fun text listed => map_trim_physicalLines (endings text listed)
  have filled : ∀ text : String, (text.toList.splitOn '\n').map trim ≠ [] := fun text => by simp
  have feeds := flatMap_joinLines filled texts []
  rw [List.append_nil] at feeds
  unfold cleared
  rw [feeds, ← readText_trim, trim_joinLines_concat, tags_eq_readText, blockText, plainText_block, parts]

/-- An empty line at the top is not read. -/
theorem tags_block_empty_cons {texts : List String}
    (endings : ∀ text ∈ texts, text.toList.getLast? ≠ some '\n') :
    tags (some (block ("" :: texts))) = tags (some (block texts)) := by
  have more : ∀ text ∈ "" :: texts, text.toList.getLast? ≠ some '\n' := by
    rw [List.forall_mem_cons]
    exact ⟨by decide, endings⟩
  have empty : cleared "".toList ++ ['\n'] = ['\n'] := by decide
  rw [tags_block more, tags_block endings, List.flatMap_cons, empty]
  exact readText_blank_append (by decide) _

end ClientStub.DocComment
