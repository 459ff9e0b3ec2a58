import ClientStub.Proofs.DocBlock.Words
import ClientStub.Proofs.Text.Pattern

/-!
# What is kept is a part of the text

Words and declarations are parts of the body that they are read from, and a body is a part of its block's
text. The text of a block has lost stars and white space, but nothing has come together over a line feed: a
pattern without line feeds that the block lacks between its delimiters is lacked by all that is kept of it.
-/

namespace ClientStub.DocBlock

open ClientStub.Text

theorem isInfix_splitWord (text : List Char) :
    (splitWord text).1 <:+: text ∧ (splitWord text).2 <:+: text := by
  obtain ⟨front, gap, -, -, source, -⟩ := splitWord_source text
  constructor
  · exact ⟨front, gap ++ (splitWord text).2, by rw [← List.append_assoc, ← source]⟩
  · exact ⟨front ++ (splitWord text).1 ++ gap, [], by rw [List.append_nil, ← source]⟩

theorem isInfix_nextWord (text : String) :
    (nextWord text).1.toList <:+: text.toList ∧ (nextWord text).2.toList <:+: text.toList := by
  unfold nextWord
  rw [String.toList_ofList, String.toList_ofList]
  exact isInfix_splitWord text.toList

theorem isInfix_ofTag (body : String) :
    (Declaration.ofTag body).type.toList <:+: body.toList ∧
      (Declaration.ofTag body).name.toList <:+: body.toList ∧
      (Declaration.ofTag body).description.toList <:+: body.toList := by
  obtain ⟨type, rest⟩ := isInfix_nextWord body
  obtain ⟨name, description⟩ := isInfix_nextWord (nextWord body).2
  exact ⟨type, name.trans rest, description.trans rest⟩

theorem isInfix_ofField (body : String) :
    (Declaration.ofField body).type.toList <:+: body.toList ∧
      (Declaration.ofField body).name.toList <:+: body.toList ∧
      (Declaration.ofField body).description.toList <:+: body.toList := by
  obtain ⟨head, description⟩ := isInfix_nextWord body
  unfold Declaration.ofField splitAtFirst
  dsimp only
  rw [String.toList_ofList, String.toList_ofList]
  refine ⟨List.IsInfix.trans ?_ head, (List.takeWhile_prefix _).isInfix.trans head, description⟩
  exact ((List.drop_suffix 1 _).trans (List.dropWhile_suffix _)).isInfix

theorem isInfix_trim (text : List Char) : trim text <:+: text := by
  obtain ⟨front, behind, -, -, source⟩ := trim_source text
  exact ⟨front, behind, source.symm⟩

theorem isInfix_plainLine (line : List Char) : plainLine line <:+: line := by
  rw [plainLine_eq]
  cases found : dropStart? ['*'] (trim line) with
  | none => exact isInfix_trim line
  | some rest =>
    have behindStar : rest <:+: trim line := ⟨['*'], [], by simp [dropStart?_source found]⟩
    exact ((isInfix_trim rest).trans behindStar).trans (isInfix_trim line)

variable {pattern : List Char}

theorem lacks_plainText {block : String} (filled : pattern ≠ []) (single : '\n' ∉ pattern)
    (noReturn : '\r' ∉ pattern) (lacks : Lacks pattern (withoutDelimiters block.toList)) :
    Lacks pattern (plainText block) := by
  refine Lacks.of_isInfix ?_ (isInfix_trim _)
  rw [lacks_joinLines_iff filled single, List.forall_mem_map]
  intro line listed
  exact ((lacks_lines_iff filled single noReturn).2 lacks line listed).of_isInfix (isInfix_plainLine line)

theorem isInfix_leadingText (block : Option String) :
    (leadingText (blockText block)).toList <:+: blockText block := by
  have normalised := normalised_blockText block
  have source := cut_source none (blockText block)
  rw [← source, ← List.nil_append (cut none (blockText block)).1] at normalised
  rw [leadingText, String.toList_ofList, leading, tidy_part normalised]
  exact (isInfix_trim _).trans ⟨[], _, source⟩

theorem isInfix_text {block : Option String} {span : Span} (listed : span ∈ spans (blockText block)) :
    span.text.toList <:+: blockText block := by
  obtain ⟨⟨front, behind, source⟩, -⟩ := span_source listed
  have normalised := normalised_blockText block
  rw [source] at normalised
  rw [Span.text, String.toList_ofList, tidy_part normalised]
  exact (isInfix_trim _).trans ⟨front, behind, source.symm⟩

/-- Each body of a block's map stands in the block's text. -/
theorem isInfix_of_mem_tags {block : Option String} {name body : String}
    (listed : body ∈ (tags block).all name) : body.toList <:+: blockText block := by
  rcases mem_all_tags listed with rfl | ⟨span, inText, -, rfl⟩
  · exact isInfix_leadingText block
  · exact isInfix_text inText

theorem lacks_dropEnd? {text : List Char} (filled : pattern ≠ []) (closed : AtEndOnly pattern text) :
    Lacks pattern ((dropEnd? pattern text).getD text) := by
  rw [atEndOnly_iff filled] at closed
  cases found : dropEnd? pattern text with
  | none =>
    -- Where the pattern stands, it stands at the end, and would have been dropped.
    rintro ⟨front, behind, source⟩
    obtain rfl := closed front behind source.symm
    rw [List.append_nil, Option.getD_none] at source
    rw [← source, dropEnd?_append] at found
    cases found
  | some rest =>
    rintro ⟨front, behind, source⟩
    rw [Option.getD_some] at source
    have nothing := closed front (behind ++ pattern) (by rw [dropEnd?_source found, ← source, List.append_assoc])
    exact filled (List.append_eq_nil_iff.1 nothing).2

/-- A block that has the closing delimiter at its end at most is rid of it with its delimiters. -/
theorem lacks_withoutDelimiters {block : List Char} (closed : AtEndOnly "*/".toList (trim block)) :
    Lacks "*/".toList (withoutDelimiters block) := by
  have shorter (start rest : List Char) (found : dropStart? start (trim block) = some rest) :
      AtEndOnly "*/".toList rest := closed.of_suffix (by decide) ⟨start, (dropStart?_source found).symm⟩
  refine lacks_dropEnd? (by decide) ?_
  cases opening : dropStart? "/**".toList (trim block) with
  | some rest => exact shorter _ rest opening
  | none =>
    rw [Option.orElse_none]
    cases other : dropStart? "/*".toList (trim block) with
    | some rest => exact shorter _ rest other
    | none => exact closed

theorem lacks_of_mem_tags {block : Option String}
    (closed : ∀ text ∈ block, AtEndOnly "*/".toList (trim text.toList)) {name body : String}
    (listed : body ∈ (tags block).all name) : Lacks "*/".toList body.toList := by
  refine Lacks.of_isInfix ?_ (isInfix_of_mem_tags listed)
  cases block with
  | none => exact lacks_nil (by decide)
  | some block =>
    exact lacks_plainText (by decide) (by decide) (by decide) (lacks_withoutDelimiters (closed block rfl))

end ClientStub.DocBlock
