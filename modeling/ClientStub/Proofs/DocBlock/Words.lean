import ClientStub.Declaration
import ClientStub.Proofs.DocBlock.Reading

/-!
# Words of what is kept

What tags hold is settled: normalised and quiet. A word of a settled text has no white space and no
introducer, and what follows the word is settled again. So are the parts of the declarations that such texts
make.
-/

namespace ClientStub.DocBlock

open ClientStub.Text

/-- A text that may stand anywhere in a line. -/
structure Inline (text : List Char) : Prop where
  single : '\n' ∉ text
  quiet : Quiet text

theorem inline_of_not_mem {text : List Char} (single : '\n' ∉ text) (absent : introducer ∉ text) :
    Inline text := ⟨single, quiet_of_not_mem absent⟩

theorem Inline.append {first second : List Char} (inlineFirst : Inline first) (inlineSecond : Inline second) :
    Inline (first ++ second) := by
  refine ⟨?_, inlineFirst.quiet.append inlineSecond.quiet⟩
  rw [List.mem_append, not_or]
  exact ⟨inlineFirst.single, inlineSecond.single⟩

/-- A text that may stand at the end of a line. -/
structure EndsLine (text : List Char) : Prop extends Inline text where
  ending : ∃ c ∈ text.getLast?, isBlank c = false

theorem Inline.append_endsLine {first second : List Char} (inLine : Inline first) (ends : EndsLine second) :
    EndsLine (first ++ second) := by
  refine ⟨inLine.append ends.toInline, ?_⟩
  obtain ⟨c, last, clear⟩ := ends.ending
  refine ⟨c, ?_, clear⟩
  rw [Option.mem_def, List.getLast?_append, Option.mem_def.1 last, Option.some_or]

theorem Inline.endsLine {text : List Char} (inLine : Inline text) (filled : text ≠ [])
    (clear : ∀ c ∈ text, isBlank c = false) : EndsLine text :=
  ⟨inLine, text.getLast filled, List.getLast?_eq_some_getLast filled, clear _ (List.getLast_mem filled)⟩

/-- A text without a line feed and an at sign, by its last character. -/
theorem endsLine_of_getLast? {text : List Char} {c : Char} (single : '\n' ∉ text) (absent : introducer ∉ text)
    (last : text.getLast? = some c) (clear : isBlank c = false) : EndsLine text :=
  ⟨inline_of_not_mem single absent, c, last, clear⟩

/-- A line, and behind a space a settled text if there is any. -/
theorem EndsLine.settled_described {line text : List Char} (ends : EndsLine line)
    (first : ∀ c ∈ line.head?, isBlank c = false) (settled : Settled text) :
    Settled (line ++ if text = [] then [] else ' ' :: text) := by
  obtain ⟨c, last, clear⟩ := ends.ending
  have begun : line ≠ [] := by
    rintro rfl
    simp at last
  have bare : Bare line := by
    refine ⟨first, fun d other => ?_⟩
    obtain rfl : c = d := Option.mem_unique last other
    exact clear
  by_cases empty : text = []
  · rw [if_pos empty, List.append_nil]
    exact ⟨normalised_of_line bare ends.single, ends.quiet⟩
  · rw [if_neg empty]
    have space : Quiet [' '] := quiet_of_not_mem (by decide)
    exact ⟨settled.normalised.after_space empty bare ends.single begun,
      ends.quiet.append (space.append settled.quiet)⟩

/-- Where a word stands: behind white space, and white space stands between it and the rest. -/
theorem splitWord_source (text : List Char) :
    ∃ front gap, isBlankText front = true ∧ isBlankText gap = true ∧
      text = front ++ (splitWord text).1 ++ gap ++ (splitWord text).2 ∧
      ((splitWord text).2 ≠ [] → gap ≠ []) := by
  obtain ⟨front, blankFront, source⟩ := trimStart_source text
  obtain ⟨gap, blankGap, after⟩ := trimStart_source ((trimStart text).dropWhile fun c => !isBlank c)
  have parts := List.takeWhile_append_dropWhile (p := fun c => !isBlank c) (l := trimStart text)
  refine ⟨front, gap, blankFront, blankGap, ?_, ?_⟩
  · unfold splitWord
    dsimp only
    rw [List.append_assoc, ← after, List.append_assoc, parts]
    exact source
  · intro filled empty
    subst empty
    rw [List.nil_append] at after
    -- Without a gap the rest begins with white space, and white space has been taken off it.
    obtain ⟨c, rest, begins⟩ := List.exists_cons_of_ne_nil filled
    have clear : isBlank c = false := by
      refine head?_trimStart ((trimStart text).dropWhile fun c => !isBlank c) c ?_
      unfold splitWord at begins
      dsimp only at begins
      rw [begins]
      rfl
    have stopped := List.head?_dropWhile_not (fun c => !isBlank c) (trimStart text)
    unfold splitWord at begins
    dsimp only at begins
    rw [after, begins] at stopped
    simp [clear] at stopped

theorem isBlank_of_mem_word {text : List Char} {c : Char} (listed : c ∈ (splitWord text).1) :
    isBlank c = false := by
  have passed : ((splitWord text).1.all fun c => !isBlank c) = true := List.all_takeWhile
  have clear := List.all_eq_true.1 passed c listed
  simpa using clear

theorem Settled.word {text : List Char} (settled : Settled text) : Inline (splitWord text).1 := by
  obtain ⟨front, gap, blankFront, blankGap, source, spaced⟩ := splitWord_source text
  have quiet := settled.quiet
  constructor
  · intro feed
    exact absurd (isBlank_of_mem_word feed) (by decide)
  · rw [source, List.append_assoc] at quiet
    have unbraced : (gap ++ (splitWord text).2).head? ≠ some '\x7b' := by
      cases gap with
      | nil =>
        have empty : (splitWord text).2 = [] := by
          by_contra filled
          exact spaced filled rfl
        simp [empty]
      | cons c gap =>
        rw [List.cons_append, List.head?_cons]
        exact head?_ne_of_blank blankGap rfl
    exact (quiet.of_append_left unbraced).of_append_right fun _ => any_getLast?_of_blank blankFront

theorem Settled.rest {text : List Char} (settled : Settled text) : Settled (splitWord text).2 := by
  obtain ⟨front, gap, blankFront, blankGap, source, spaced⟩ := splitWord_source text
  by_cases empty : (splitWord text).2 = []
  · rw [empty]
    exact settled_nil
  · have bare : Bare (splitWord text).2 := by
      refine ⟨?_, ?_⟩
      · intro c first
        unfold splitWord at first
        exact head?_trimStart _ c first
      · intro c last
        refine settled.normalised.ends.2 c ?_
        rw [source, List.getLast?_append_of_ne_nil _ empty]
        exact last
    have normalised := settled.normalised
    have quiet := settled.quiet
    rw [source] at normalised quiet
    rw [← List.append_nil (front ++ (splitWord text).1 ++ gap ++ (splitWord text).2)] at normalised
    have whole := normalised.trim_part
    rw [bare.trim_eq] at whole
    refine ⟨whole, quiet.of_append_right fun _ => ?_⟩
    rw [List.getLast?_append_of_ne_nil _ (spaced empty)]
    exact any_getLast?_of_blank blankGap

theorem settled_nextWord {body : String} (settled : Settled body.toList) :
    Inline (nextWord body).1.toList ∧ Settled (nextWord body).2.toList := by
  unfold nextWord
  rw [String.toList_ofList, String.toList_ofList]
  exact ⟨settled.word, settled.rest⟩

/-- The type, the name and the description of a parameter's declaration. -/
theorem Settled.ofTag {body : String} (settled : Settled body.toList) :
    Inline (Declaration.ofTag body).type.toList ∧ Inline (Declaration.ofTag body).name.toList ∧
      Settled (Declaration.ofTag body).description.toList := by
  obtain ⟨type, rest⟩ := settled_nextWord settled
  obtain ⟨name, description⟩ := settled_nextWord rest
  exact ⟨type, name, description⟩

/-- The parts on both sides of a mark that does not hold back an at sign. -/
theorem Inline.splitAtFirst {text : List Char} (inLine : Inline text) {mark : Char}
    (loose : bindsIntroducer mark = false) (other : mark ≠ '\x7b') :
    Inline (splitAtFirst mark text).1 ∧ Inline (splitAtFirst mark text).2 := by
  have source := List.takeWhile_append_dropWhile (p := (· != mark)) (l := text)
  have stopped := List.head?_dropWhile_not (· != mark) text
  unfold Text.splitAtFirst
  dsimp only
  cases behind : text.dropWhile (· != mark) with
  | nil =>
    rw [behind, List.append_nil] at source
    rw [source]
    exact ⟨inLine, inline_of_not_mem (by decide) (by decide)⟩
  | cons c after =>
    rw [behind] at source stopped
    obtain rfl : c = mark := by simpa using stopped
    have single := inLine.single
    have quiet := inLine.quiet
    rw [← source] at single quiet
    rw [List.mem_append, List.mem_cons, not_or, not_or] at single
    refine ⟨⟨single.1, quiet.of_append_left (by simpa using other)⟩, ⟨single.2.2, ?_⟩⟩
    rw [List.append_cons] at quiet
    refine quiet.of_append_right fun _ => ?_
    rw [List.getLast?_concat]
    exact loose

/-- The type, the name and the description of a field's declaration. Its name is a part of a word. -/
theorem Settled.ofField {body : String} (settled : Settled body.toList) :
    Inline (Declaration.ofField body).type.toList ∧
      (Inline (Declaration.ofField body).name.toList ∧
        ∀ c ∈ (Declaration.ofField body).name.toList, isBlank c = false) ∧
      Settled (Declaration.ofField body).description.toList := by
  obtain ⟨head, description⟩ := settled_nextWord settled
  have loose : bindsIntroducer ':' = false := by decide +kernel
  obtain ⟨name, type⟩ := head.splitAtFirst loose (by decide)
  unfold Declaration.ofField
  dsimp only
  rw [String.toList_ofList, String.toList_ofList]
  refine ⟨type, ⟨name, fun c listed => ?_⟩, description⟩
  have inWord : c ∈ (nextWord body).1.toList := (List.takeWhile_sublist _).mem listed
  rw [nextWord, String.toList_ofList] at inWord
  exact isBlank_of_mem_word inWord

theorem inline_payloadType {body : String} (settled : Settled body.toList) :
    Inline (payloadType body).toList := by
  have word := (settled_nextWord settled).1
  unfold payloadType
  split
  · exact inline_of_not_mem (by decide) (by decide)
  · exact inline_of_not_mem (by decide) (by decide)
  · exact inline_of_not_mem (by decide) (by decide)
  · exact word

end ClientStub.DocBlock
