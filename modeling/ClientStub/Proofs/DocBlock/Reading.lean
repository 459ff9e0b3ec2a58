import ClientStub.Proofs.DocBlock.Quiet
import ClientStub.Proofs.DocBlock.Tags
import ClientStub.Proofs.DocBlock.Tidy

/-!
# What a text is read as

White space around a text is not read: in front it joins the leading part and behind it the last part, and
both are tidied. What is kept of a text is normalised, and quiet unless an at sign stands right behind the
name of its tag.
-/

namespace ClientStub.DocBlock

open ClientStub.Text

theorem isNameChar_of_isBlank {c : Char} (blank : isBlank c = true) : isNameChar c = false := by
  have clear : blanks.all (fun b => !isNameChar b) = true := by decide
  have listed : c ∈ blanks := by simpa [isBlank] using blank
  simpa using List.all_eq_true.1 clear c listed

theorem introducer_not_mem_of_blank {text : List Char} (blank : isBlankText text = true) :
    introducer ∉ text := by
  intro listed
  have blankSign := List.all_eq_true.1 blank introducer listed
  exact absurd blankSign (by decide)

theorem cut_blank_append {front : List Char} (blank : isBlankText front = true) (text : List Char) :
    cut none (front ++ text) = (front ++ (cut none text).1, (cut none text).2) := by
  induction front with
  | nil => rfl
  | cons c front ih =>
    rw [isBlankText, List.all_cons, Bool.and_eq_true] at blank
    have other : c ≠ introducer := by
      rintro rfl
      exact absurd blank.1 (by decide)
    have loose : (some c).any bindsIntroducer = none.any bindsIntroducer :=
      bindsIntroducer_of_isBlank blank.1
    simp [cut, beginsTag, other, cut_congr loose, ih blank.2]

/-- Whether a part is another one, or goes on behind it with the given text. -/
def GoesOn (behind longer part : List Char) : Prop := longer = part ∨ longer = part ++ behind

theorem cut_append_blank {behind : List Char} (blank : isBlankText behind = true) (before : Option Char)
    (text : List Char) :
    GoesOn behind (cut before (text ++ behind)).1 (cut before text).1 ∧
      List.Forall₂ (GoesOn behind) (cut before (text ++ behind)).2 (cut before text).2 := by
  induction text generalizing before with
  | nil =>
    rw [List.nil_append, cut_of_not_mem (introducer_not_mem_of_blank blank)]
    exact ⟨.inr rfl, .nil⟩
  | cons c rest ih =>
    obtain ⟨lead, parts⟩ := ih (some c)
    have same : beginsTag before c (rest ++ behind) = beginsTag before c rest := by
      cases rest with
      | nil =>
        have unbraced : (behind.head? != some '\x7b') = true := bne_iff_ne.2 (head?_ne_of_blank blank rfl)
        rw [beginsTag, beginsTag, List.nil_append, unbraced]
        rfl
      | cons d rest => rfl
    rw [List.cons_append]
    simp only [cut, same]
    split
    · exact ⟨.inl rfl, .cons lead parts⟩
    · refine ⟨?_, parts⟩
      rcases lead with lead | lead
      · exact .inl (by rw [lead])
      · exact .inr (by rw [lead]; rfl)

/-- A name ends before the first character that none has. -/
theorem ofText_append {behind : List Char} (stop : ∀ c ∈ behind.head?, isNameChar c = false)
    (part : List Char) :
    Span.ofText (part ++ behind) = ⟨(Span.ofText part).name, (Span.ofText part).body ++ behind⟩ := by
  have vacant : behind.takeWhile isNameChar = [] := by
    cases behind with
    | nil => rfl
    | cons c behind => simp [stop c rfl]
  have all : behind.dropWhile isNameChar = behind := by
    have source := List.takeWhile_append_dropWhile (p := isNameChar) (l := behind)
    rwa [vacant, List.nil_append] at source
  unfold Span.ofText
  rw [List.takeWhile_append, List.dropWhile_append, vacant, all, List.append_nil]
  congr 1
  · split
    · rename_i whole
      exact ((List.takeWhile_prefix _).eq_of_length whole).symm
    · rfl
  · split
    · rename_i empty
      rw [List.isEmpty_iff.1 empty, List.nil_append]
    · rfl

theorem kept?_append_blank {behind : List Char} (blank : isBlankText behind = true) (part : List Char) :
    (Span.ofText (part ++ behind)).kept? = (Span.ofText part).kept? := by
  have stop : ∀ c ∈ behind.head?, isNameChar c = false := fun c first =>
    isNameChar_of_isBlank (List.all_eq_true.1 blank c (List.mem_of_head? (Option.mem_def.1 first)))
  rw [ofText_append stop, Span.kept?, Span.kept?, Span.text, tidy_append_of_blank blank]
  rfl

theorem GoesOn.tidy_eq {behind longer part : List Char} (related : GoesOn behind longer part)
    (blank : isBlankText behind = true) : tidy longer = tidy part := by
  rcases related with rfl | rfl
  · rfl
  · exact tidy_append_of_blank blank part

theorem filterMap_kept {behind : List Char} (blank : isBlankText behind = true)
    {longer parts : List (List Char)} (related : List.Forall₂ (GoesOn behind) longer parts) :
    (longer.map Span.ofText).filterMap Span.kept? = (parts.map Span.ofText).filterMap Span.kept? := by
  induction related with
  | nil => rfl
  | cons related _ ih =>
    rw [List.map_cons, List.map_cons, List.filterMap_cons, List.filterMap_cons, ih]
    rcases related with rfl | rfl
    · rfl
    · rw [kept?_append_blank blank]

theorem readText_append_blank {behind : List Char} (blank : isBlankText behind = true) (text : List Char) :
    readText (text ++ behind) = readText text := by
  obtain ⟨lead, parts⟩ := cut_append_blank blank none text
  rw [readText, readText, leadingText, leadingText, leading, leading, spans, spans, lead.tidy_eq blank,
    filterMap_kept blank parts]

theorem readText_blank_append {front : List Char} (blank : isBlankText front = true) (text : List Char) :
    readText (front ++ text) = readText text := by
  rw [readText, readText, leadingText, leadingText, leading, leading, spans, spans,
    cut_blank_append blank, tidy_blank_append blank]

theorem readText_trim (text : List Char) : readText (trim text) = readText text := by
  obtain ⟨front, behind, blankFront, blankBehind, source⟩ := trim_source text
  conv => rhs; rw [source]
  rw [readText_append_blank blankBehind, readText_blank_append blankFront]

theorem normalised_blockText (block : Option String) : Normalised (blockText block) := by
  cases block with
  | none => exact normalised_nil
  | some block => exact normalised_plainText block

/-- Where a part of a text stands in it. -/
theorem cut_part_source {text part : List Char} (listed : part ∈ (cut none text).2) :
    ∃ front behind, text = front ++ introducer :: part ++ behind := by
  obtain ⟨above, below, parts⟩ := List.append_of_mem listed
  refine ⟨(cut none text).1 ++ above.flatMap (introducer :: ·), below.flatMap (introducer :: ·), ?_⟩
  conv => lhs; rw [← cut_source none text, parts]
  simp

theorem normalised_leadingText (block : Option String) :
    Normalised (leadingText (blockText block)).toList := by
  have source := cut_source none (blockText block)
  have normalised := normalised_blockText block
  rw [← source, ← List.nil_append (cut none (blockText block)).1] at normalised
  rw [leadingText, String.toList_ofList, leading, tidy_part normalised]
  exact normalised.trim_part

theorem quiet_leadingText (block : Option String) : Quiet (leadingText (blockText block)).toList := by
  have source := cut_source none (blockText block)
  have normalised := normalised_blockText block
  rw [← source, ← List.nil_append (cut none (blockText block)).1] at normalised
  rw [leadingText, String.toList_ofList, leading, tidy_part normalised]
  exact (quiet_leading (blockText block)).trim

theorem span_source {text : List Char} {span : Span} (listed : span ∈ spans text) :
    (∃ front behind, text = front ++ span.body ++ behind) ∧ Quiet (span.name ++ span.body) := by
  obtain ⟨part, cutOut, rfl⟩ := List.mem_map.1 listed
  obtain ⟨front, behind, source⟩ := cut_part_source cutOut
  rw [Span.ofText_source]
  refine ⟨⟨front ++ introducer :: (Span.ofText part).name, behind, ?_⟩, (cut_parts none text).2 part cutOut⟩
  conv => lhs; rw [source, ← Span.ofText_source part]
  simp

theorem normalised_text {block : Option String} {span : Span} (listed : span ∈ spans (blockText block)) :
    Normalised span.text.toList := by
  obtain ⟨⟨front, behind, source⟩, -⟩ := span_source listed
  have normalised := normalised_blockText block
  rw [source] at normalised
  rw [Span.text, String.toList_ofList, tidy_part normalised]
  exact normalised.trim_part

/-- A body is quiet unless an at sign stands right behind the name. -/
theorem quiet_text {block : Option String} {span : Span} (listed : span ∈ spans (blockText block))
    (apart : span.body.head? ≠ some introducer) : Quiet span.text.toList := by
  obtain ⟨⟨front, behind, source⟩, quiet⟩ := span_source listed
  have normalised := normalised_blockText block
  rw [source] at normalised
  rw [Span.text, String.toList_ofList, tidy_part normalised]
  exact (quiet.of_append_right fun sign => absurd sign apart).trim

theorem mem_all_tags {block : Option String} {name body : String} (listed : body ∈ (tags block).all name) :
    body = leadingText (blockText block) ∨
      ∃ span ∈ spans (blockText block), span.name ≠ [] ∧ span.text = body := by
  rw [all_tags] at listed
  rcases List.mem_append.1 listed with listed | listed
  · split at listed
    · exact .inl (List.mem_singleton.1 listed)
    · simp at listed
  · obtain ⟨span, kept, rfl⟩ := List.mem_map.1 listed
    obtain ⟨inText, named⟩ := List.mem_filter.1 kept
    refine .inr ⟨span, inText, fun empty => ?_, rfl⟩
    rw [name?_eq_none_iff.2 empty] at named
    simp at named

theorem normalised_of_mem_tags {block : Option String} {name body : String}
    (listed : body ∈ (tags block).all name) : Normalised body.toList := by
  rcases mem_all_tags listed with rfl | ⟨span, inText, -, rfl⟩
  · exact normalised_leadingText block
  · exact normalised_text inText

/-- No at sign of the block stands right behind the name of a tag. -/
def NamesApart (block : Option String) : Prop :=
  ∀ span ∈ spans (blockText block), span.name ≠ [] → span.body.head? ≠ some introducer

instance (block : Option String) : Decidable (NamesApart block) :=
  inferInstanceAs (Decidable (∀ span ∈ spans (blockText block),
    span.name ≠ [] → span.body.head? ≠ some introducer))

/-- A text that is read as it stands, wherever it begins. -/
structure Settled (text : List Char) : Prop where
  normalised : Normalised text
  quiet : Quiet text

theorem settled_nil : Settled [] := ⟨normalised_nil, quiet_of_not_mem (by decide)⟩

theorem settled_of_mem_tags {block : Option String} (apart : NamesApart block) {name body : String}
    (listed : body ∈ (tags block).all name) : Settled body.toList := by
  rcases mem_all_tags listed with rfl | ⟨span, inText, named, rfl⟩
  · exact ⟨normalised_leadingText block, quiet_leadingText block⟩
  · exact ⟨normalised_text inText, quiet_text inText (apart span inText named)⟩

end ClientStub.DocBlock
