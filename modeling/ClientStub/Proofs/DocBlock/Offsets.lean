import ClientStub.DocBlock
import ClientStub.Proofs.Text.Gaps
import ClientStub.Proofs.Text.Slices

/-!
# Where tags begin among the bytes of a text

The introducers of a text by their byte offsets. One pass over the text finds them with the character before, and they
are just the at signs that nothing on either side binds. Cut at these offsets no character is divided, and the parts
are the leading part and the tags that `cut` makes without counting bytes. So the parts make up the text again.
-/

namespace ClientStub.DocBlock

open ClientStub.Text
open String (utf8Len)

/-- The offsets of the introducers of a text that stands at `offset`, behind the character `before`. -/
def offsetsFrom (before : Option Char) (offset : Nat) : List Char → List Nat
  | [] => []
  | c :: rest =>
    (if beginsTag before c rest then [offset] else []) ++ offsetsFrom (some c) (offset + c.utf8Size) rest

/-- The byte offsets of a text at which tags begin, in the order of one pass. -/
def introducerOffsets (text : String) : List Nat := offsetsFrom none 0 text.toList

theorem eq_introducer_of_beginsTag {before : Option Char} {c : Char} {behind : List Char}
    (begins : beginsTag before c behind = true) : c = introducer := by
  simp only [beginsTag, Bool.and_eq_true, decide_eq_true_eq] at begins
  exact begins.1.1

/-- What the pass finds, by what stands on both sides; `before` counts only where nothing else stands in front. -/
theorem mem_offsetsFrom_iff {before : Option Char} {offset place : Nat} {text : List Char} :
    place ∈ offsetsFrom before offset text ↔
      ∃ front behind, text = front ++ introducer :: behind ∧ place = offset + utf8Len front ∧
        beginsTag (front.getLast?.or before) introducer behind = true := by
  induction text generalizing before offset with
  | nil => simp [offsetsFrom]
  | cons c rest ih =>
    rw [offsetsFrom, List.mem_append, ih]
    constructor
    · rintro (here | ⟨front, behind, source, place, begins⟩)
      · split at here
        · rename_i begins
          obtain rfl := eq_introducer_of_beginsTag begins
          exact ⟨[], rest, rfl, by simpa using here, begins⟩
        · cases here
      · refine ⟨c :: front, behind, by rw [source]; rfl, by rw [place, String.utf8Len_cons]; omega, ?_⟩
        rw [List.getLast?_cons]
        simpa using begins
    · rintro ⟨front, behind, source, place, begins⟩
      cases front with
      | nil =>
        obtain ⟨rfl, rfl⟩ := List.cons.inj source
        have here : beginsTag before introducer rest = true := begins
        exact .inl (by simpa [here] using place)
      | cons d front =>
        obtain ⟨rfl, rfl⟩ := List.cons.inj source
        refine .inr ⟨front, behind, rfl, by rw [place, String.utf8Len_cons]; omega, ?_⟩
        rw [List.getLast?_cons] at begins
        simpa using begins

theorem pairwise_offsetsFrom (before : Option Char) (offset : Nat) (text : List Char) :
    (offsetsFrom before offset text).Pairwise (· < ·) := by
  induction text generalizing before offset with
  | nil => exact .nil
  | cons c rest ih =>
    have later : ∀ place ∈ offsetsFrom (some c) (offset + c.utf8Size) rest, offset < place := by
      intro place listed
      obtain ⟨front, -, -, rfl, -⟩ := mem_offsetsFrom_iff.1 listed
      have size := c.utf8Size_pos
      omega
    rw [offsetsFrom]
    split
    · exact .cons later (ih _ _)
    · exact ih _ _

/-- What stands behind the introducer at each of the offsets, up to the next one. -/
def stretchesAt? (text : String) : List Nat → Option (List String)
  | [] => some []
  | offset :: offsets => do
    let stretch ← slice? text (offset + introducer.utf8Size) (offsets.headD text.utf8ByteSize)
    let others ← stretchesAt? text offsets
    some (stretch :: others)

/-- The offset of the first character that belongs to no name, or the size of a text without one. -/
def nameSize : List Char → Nat
  | [] => 0
  | c :: rest => if isNameChar c then nameSize rest + c.utf8Size else 0

/-- The tag of a stretch, cut where its name ends. -/
def spanAt? (stretch : String) : Option Span := do
  let name ← slice? stretch 0 (nameSize stretch.toList)
  let body ← slice? stretch (nameSize stretch.toList) stretch.utf8ByteSize
  some ⟨name.toList, body.toList⟩

/-- The leading part and the tags of a text, cut at byte offsets. There is nothing if one of the cuts divides a
character or leads backwards. -/
def cutAt? (text : String) (offsets : List Nat) : Option (String × List Span) := do
  let leading ← slice? text 0 (offsets.headD text.utf8ByteSize)
  let stretches ← stretchesAt? text offsets
  let spans ← stretches.mapM spanAt?
  some (leading, spans)

theorem headD_offsetsFrom (before : Option Char) (offset : Nat) (text : List Char) :
    (offsetsFrom before offset text).headD (offset + utf8Len text) = offset + utf8Len (cut before text).1 := by
  induction text generalizing before offset with
  | nil => rfl
  | cons c rest ih =>
    have later := ih (some c) (offset + c.utf8Size)
    simp only [offsetsFrom, cut]
    split
    · simp
    · have shifted : offset + utf8Len (c :: rest) = offset + c.utf8Size + utf8Len rest := by
        rw [String.utf8Len_cons]
        omega
      rw [List.nil_append, shifted, later, String.utf8Len_cons]
      omega

/-- Every stretch is in range, whatever stands in front of the text, and is the part that `cut` makes. -/
theorem stretchesAt?_offsetsFrom (before : Option Char) (front : String) (text : List Char) :
    stretchesAt? (front ++ String.ofList text) (offsetsFrom before front.utf8ByteSize text) =
      some ((cut before text).2.map String.ofList) := by
  -- Each character goes over to the text in front, so the offsets stay those of the whole text.
  induction text generalizing before front with
  | nil => rfl
  | cons c rest ih =>
    have source : front ++ String.ofList (c :: rest) = front.push c ++ String.ofList rest :=
      String.toList_injective (by simp)
    have size : (front.push c).utf8ByteSize = front.utf8ByteSize + c.utf8Size := String.utf8ByteSize_push
    have later := ih (some c) (front.push c)
    rw [size] at later
    rw [source]
    simp only [offsetsFrom, cut]
    split
    · rename_i begins
      obtain rfl := eq_introducer_of_beginsTag begins
      have parts := cut_source (some introducer) rest
      have ends := headD_offsetsFrom (some introducer) (front.utf8ByteSize + introducer.utf8Size) rest
      have total : (front.push introducer ++ String.ofList rest).utf8ByteSize =
          front.utf8ByteSize + introducer.utf8Size + utf8Len rest := by
        rw [String.utf8ByteSize_append, size, String.utf8ByteSize_ofList]
      have stretch := slice?_append (front.push introducer) (String.ofList (cut (some introducer) rest).1)
        (String.ofList ((cut (some introducer) rest).2.flatMap (introducer :: ·)))
      rw [String.append_assoc, ← String.ofList_append, parts, size, String.utf8ByteSize_ofList] at stretch
      rw [List.singleton_append, stretchesAt?, total, ends, stretch, later]
      rfl
    · rw [List.nil_append, later]

theorem nameSize_eq (text : List Char) : nameSize text = utf8Len (text.takeWhile isNameChar) := by
  induction text with
  | nil => rfl
  | cons c rest ih =>
    rw [nameSize, List.takeWhile_cons]
    split
    · rw [ih, String.utf8Len_cons]
    · rfl

theorem spanAt?_eq (stretch : String) : spanAt? stretch = some (Span.ofText stretch.toList) := by
  obtain ⟨name, body, named, rest⟩ : ∃ name body : String,
      stretch.toList.takeWhile isNameChar = name.toList ∧ stretch.toList.dropWhile isNameChar = body.toList :=
    ⟨String.ofList _, String.ofList _, String.toList_ofList.symm, String.toList_ofList.symm⟩
  have source : stretch = name ++ body := by
    rw [← String.toList_inj, String.toList_append, ← named, ← rest, List.takeWhile_append_dropWhile]
  have size : nameSize stretch.toList = name.utf8ByteSize := by
    rw [nameSize_eq, named, String.utf8Len_toList]
  rw [Span.ofText, named, rest, spanAt?, size, source, slice?_start, slice?_end]
  rfl

/-- Nothing that is cut at the offsets is out of range, and what is cut is what `cut` makes in one pass. -/
theorem cutAt?_introducerOffsets (text : String) :
    cutAt? text (introducerOffsets text) = some (String.ofList (leading text.toList), spans text.toList) := by
  have ends := headD_offsetsFrom none 0 text.toList
  rw [Nat.zero_add, Nat.zero_add, String.utf8Len_toList] at ends
  have front : slice? text 0 (utf8Len (cut none text.toList).1) = some (String.ofList (leading text.toList)) := by
    have start := slice?_start (String.ofList (leading text.toList))
      (String.ofList ((cut none text.toList).2.flatMap (introducer :: ·)))
    rwa [← String.ofList_append, leading, cut_source, String.ofList_toList, String.utf8ByteSize_ofList] at start
  have stretches := stretchesAt?_offsetsFrom none "" text.toList
  rw [String.empty_append, String.ofList_toList, String.utf8ByteSize_empty] at stretches
  have tags : ((cut none text.toList).2.map String.ofList).mapM spanAt? = some (spans text.toList) := by
    have read : spanAt? = fun stretch => pure (Span.ofText stretch.toList) := funext spanAt?_eq
    rw [read, List.mapM_pure, List.map_map, spans]
    simp only [Function.comp_def, String.toList_ofList]
    rfl
  simp only [cutAt?, introducerOffsets, ends, front, stretches, tags, Option.bind_eq_bind, Option.bind_some]

/-- One at sign of a text, by its offset and by what stands before and behind it. -/
theorem mem_introducerOffsets_iff {text : String} {offset : Nat} :
    offset ∈ introducerOffsets text ↔
      ∃ front behind : String, text = front ++ "@" ++ behind ∧ offset = front.utf8ByteSize ∧
        (∀ c ∈ front.toList.getLast?, isAlphanumeric c = false ∧ c ≠ '_' ∧ c ≠ '\x7b' ∧ c ≠ '\\') ∧
        behind.toList.head? ≠ some '\x7b' := by
  have binds (front behind : List Char) : beginsTag (front.getLast?.or none) introducer behind = true ↔
      (∀ c ∈ front.getLast?, isAlphanumeric c = false ∧ c ≠ '_' ∧ c ≠ '\x7b' ∧ c ≠ '\\') ∧
        behind.head? ≠ some '\x7b' := by
    rw [Option.or_none]
    cases front.getLast? <;> simp [beginsTag, bindsIntroducer, and_assoc]
  rw [introducerOffsets, mem_offsetsFrom_iff]
  simp only [Nat.zero_add, binds]
  constructor
  · rintro ⟨front, behind, source, place, bound⟩
    refine ⟨String.ofList front, String.ofList behind, ?_, ?_, ?_⟩
    · exact String.toList_injective (by simp [source, introducer])
    · rw [place, String.utf8ByteSize_ofList]
    · simpa only [String.toList_ofList] using bound
  · rintro ⟨front, behind, rfl, rfl, bound⟩
    exact ⟨front.toList, behind.toList, by simp [introducer], (String.utf8Len_toList front).symm, bound⟩

theorem leading_append_spans (text : List Char) :
    leading text ++ (spans text).flatMap (fun span => introducer :: (span.name ++ span.body)) = text := by
  have parts : (spans text).flatMap (fun span => introducer :: (span.name ++ span.body)) =
      (cut none text).2.flatMap (introducer :: ·) := by
    rw [spans, List.flatMap_map]
    simp only [Span.ofText_source]
  rw [parts, leading, cut_source]

theorem name_maximal_of_mem_spans {text : List Char} {span : Span} (listed : span ∈ spans text) :
    (∀ c ∈ span.name, isNameChar c = true) ∧ ∀ c ∈ span.body.head?, isNameChar c = false := by
  obtain ⟨stretch, -, rfl⟩ := List.mem_map.1 listed
  exact ⟨fun c inName => List.mem_takeWhile_imp inName, eq_false_of_head?_dropWhile⟩

/-- The introducers of a text are found in increasing order of their offsets: the at signs that neither a letter, a
number, an underscore, an opening brace or a backslash before them nor an opening brace behind them binds, and no
others. All offsets stand between characters, and every cut at them is in range; it makes the leading part and the
tags. Put one behind the other, each tag behind its at sign, these are the text again, and each name is as long as it
can be. -/
theorem introducers_cut_text (text : String) :
    (introducerOffsets text).Pairwise (· < ·) ∧
    (∀ offset, offset ∈ introducerOffsets text ↔
      ∃ front behind : String, text = front ++ "@" ++ behind ∧ offset = front.utf8ByteSize ∧
        (∀ c ∈ front.toList.getLast?, isAlphanumeric c = false ∧ c ≠ '_' ∧ c ≠ '\x7b' ∧ c ≠ '\\') ∧
        behind.toList.head? ≠ some '\x7b') ∧
    (∀ offset ∈ introducerOffsets text, (⟨offset⟩ : String.Pos.Raw).IsValid text) ∧
    cutAt? text (introducerOffsets text) = some (String.ofList (leading text.toList), spans text.toList) ∧
    leading text.toList ++ (spans text.toList).flatMap (fun span => '@' :: (span.name ++ span.body)) = text.toList ∧
    ∀ span ∈ spans text.toList,
      (∀ c ∈ span.name, isNameChar c = true) ∧ ∀ c ∈ span.body.head?, isNameChar c = false := by
  refine ⟨pairwise_offsetsFrom none 0 text.toList, fun offset => mem_introducerOffsets_iff, ?_,
    cutAt?_introducerOffsets text, leading_append_spans text.toList, fun span => name_maximal_of_mem_spans⟩
  intro offset listed
  obtain ⟨front, behind, source, rfl, -⟩ := mem_introducerOffsets_iff.1 listed
  rw [source, String.append_assoc]
  exact isValid_utf8ByteSize front ("@" ++ behind)

/-- At signs that are bound on one side or the other, a tag without a name, and an introducer at the end of the text. -/
theorem introducers_cut_text_of_bound_signs :
    let text := "Größe @id-2 é@x \\@y \x7b@z\x7d @\x7bu\x7d @ w @"
    introducerOffsets text = [8, 33, 37] ∧
    (⟨33⟩ : String.Pos.Raw).IsValid text ∧
    cutAt? text [8, 33, 37] = some ("Größe ",
      [⟨"id-2".toList, " é@x \\@y \x7b@z\x7d @\x7bu\x7d ".toList⟩, ⟨[], " w ".toList⟩, ⟨[], []⟩]) ∧
    (∀ c ∈ "id-2".toList, isNameChar c = true) ∧ ∀ c ∈ " w ".toList.head?, isNameChar c = false := by
  intro text
  have offsets : introducerOffsets text = [8, 33, 37] := by decide +kernel
  have tags : spans text.toList =
      [⟨"id-2".toList, " é@x \\@y \x7b@z\x7d @\x7bu\x7d ".toList⟩, ⟨[], " w ".toList⟩, ⟨[], []⟩] := by decide +kernel
  have front : String.ofList (leading text.toList) = "Größe " := by decide +kernel
  obtain ⟨-, -, valid, parts, -, maximal⟩ := introducers_cut_text text
  rw [offsets, front, tags] at parts
  rw [offsets] at valid
  rw [tags] at maximal
  exact ⟨offsets, valid 33 (by decide), parts, (maximal _ List.mem_cons_self).1,
    (maximal _ (List.mem_cons_of_mem _ List.mem_cons_self)).2⟩

end ClientStub.DocBlock
