import ClientStub.Description
import ClientStub.Proofs.DocBlock.Introducers
import ClientStub.Proofs.TagMap

/-!
# The tag map of a block

The tags of a block are added to its map one by one, in the order of the text. Under each name the map then
holds the bodies of the tags of that name, in that order, and under `description` the leading part before
them; tags without a name are told of and left out. So the tag that is looked for without making the map is
the one that the map has first.
-/

namespace ClientStub.DocBlock

open ClientStub.Text

/-- The text of a block; an absent block has none. -/
def blockText : Option String → List Char
  | none => []
  | some block => plainText block

/-- The text before the first tag of a text, as it is kept. -/
def leadingText (text : List Char) : String := String.ofList (tidy (leading text))

/-- The name and the body under which a tag is kept, if it has a name. -/
def Span.kept? (span : Span) : Option (String × String) := span.name?.map fun name => (name, span.text)

/-- The tag map of a text. -/
def readText (text : List Char) : TagMap :=
  (TagMap.ofDescription (leadingText text)).insertAll ((spans text).filterMap Span.kept?)

theorem name?_eq_none_iff {span : Span} : span.name? = none ↔ span.name = [] := by
  unfold Span.name?
  split
  · rename_i empty
    simpa using empty
  · rename_i filled
    split <;> simpa using filled

theorem foldl_addSpan (tags : TagMap) (spans : List Span) :
    spans.foldl addSpan tags = tags.insertAll (spans.filterMap Span.kept?) := by
  unfold TagMap.insertAll
  induction spans generalizing tags with
  | nil => rfl
  | cons span spans ih =>
    rw [List.foldl_cons, ih, List.filterMap_cons, addSpan, Span.kept?]
    cases span.name? <;> rfl

theorem tags_eq_readText (block : Option String) : tags block = readText (blockText block) := by
  cases block with
  | none => rfl
  | some block => exact foldl_addSpan _ _

/-- What the tags of a name say, in the order of the text. -/
def bodiesOf (spans : List Span) (name : String) : List String :=
  (spans.filter fun span => span.name? = some name).map Span.text

theorem filter_kept (spans : List Span) (name : String) :
    ((spans.filterMap Span.kept?).filter fun body => body.1 = name).map Prod.snd = bodiesOf spans name := by
  unfold bodiesOf
  induction spans with
  | nil => rfl
  | cons span spans ih =>
    rw [List.filterMap_cons, List.filter_cons, Span.kept?]
    cases named : span.name? with
    | none => simpa using ih
    | some other =>
      by_cases same : other = name
      · simpa [same, List.filter_cons] using ih
      · simpa [same, List.filter_cons] using ih

/-- The bodies under a name: the leading text, if it is kept under the name, and those of the tags. -/
theorem all_tags (block : Option String) (name : String) :
    (tags block).all name =
      (if name = TagMap.descriptionName then [leadingText (blockText block)] else []) ++
        bodiesOf (spans (blockText block)) name := by
  rw [tags_eq_readText, readText, TagMap.all_ofDescription_insertAll, filter_kept]

theorem all_tags_of_ne {name : String} (other : name ≠ TagMap.descriptionName) (block : Option String) :
    (tags block).all name = bodiesOf (spans (blockText block)) name := by
  rw [all_tags, if_neg other, List.nil_append]

theorem length_spans (text : List Char) : (spans text).length = (introducers text).length := by
  rw [spans, cut_eq_stretches, List.length_map, length_stretches, introducers]

theorem length_kept (spans : List Span) :
    (spans.filterMap Span.kept?).length + spans.countP (fun span => span.name.isEmpty) = spans.length := by
  induction spans with
  | nil => rfl
  | cons span spans ih =>
    rw [List.filterMap_cons, List.countP_cons, List.length_cons, Span.kept?]
    cases named : span.name? with
    | none =>
      have empty := name?_eq_none_iff.1 named
      simp only [Option.map_none, empty, List.isEmpty_nil, if_true]
      omega
    | some name =>
      have filled : span.name.isEmpty = false := by
        refine Bool.eq_false_iff.2 fun empty => ?_
        rw [name?_eq_none_iff.2 (List.isEmpty_iff.1 empty)] at named
        cases named
      simp only [Option.map_some, filled, Bool.false_eq_true, if_false, List.length_cons]
      omega

theorem countP_notices (block : Option String) :
    (notices block).countP (fun notice => notice.message = "skipping tag span without a name") =
      (spans (blockText block)).countP fun span => span.name.isEmpty := by
  have told : namelessCount block = (spans (blockText block)).countP fun span => span.name.isEmpty := by
    cases block <;> rfl
  rw [← told]
  simp [notices, List.countP_replicate, Notice.message]

theorem name?_ne_empty (span : Span) : span.name? ≠ some "" := by
  unfold Span.name?
  split
  · simp
  · split
    · decide
    · rename_i filled _
      intro same
      have empty : span.name = [] := String.ofList_injective (Option.some.inj same)
      simp [empty] at filled

theorem name?_ne_return (span : Span) : span.name? ≠ some "return" := by
  unfold Span.name?
  split
  · simp
  · split
    · decide
    · rename_i other
      intro same
      exact other (String.ofList_injective (Option.some.inj same))

theorem bodiesOf_eq_nil {name : String} (unused : ∀ span : Span, span.name? ≠ some name) (spans : List Span) :
    bodiesOf spans name = [] := by
  simp [bodiesOf, unused]

/-- A tag is kept under its name, the name `return` as `returns`. -/
theorem name?_eq_some_iff {span : Span} {name : String} :
    span.name? = some name ↔ String.ofList span.name ≠ "" ∧
      (if String.ofList span.name = "return" then "returns" else String.ofList span.name) = name := by
  have isReturn : span.name = "return".toList ↔ String.ofList span.name = "return" :=
    ⟨fun same => by rw [same, String.ofList_toList], fun same => by rw [← same, String.toList_ofList]⟩
  rw [Span.name?]
  by_cases empty : span.name = []
  · simp [empty]
  · simp only [isReturn, List.isEmpty_iff, String.ofList_eq_empty_iff, empty, if_false, ne_eq, not_false_eq_true,
      true_and]
    split <;> simp

/-- The map of a block and the parts that the introducers of its text cut it into. Each part begins with the name
of a tag, which is as long as it can be, and `return` is read as `returns`. Under every name stand the bodies of the
tags of that name, in their order and without white space at the ends of lines and around them, behind the leading
part where the name is `description`; a slot has the form that its number of bodies asks for; and every part is held
once, but for the tags without a name, each of which is told of. -/
theorem tags_keep_every_part (block : Option String) :
    let text := blockText block
    let parts := stretches text (introducers text)
    let inName (c : Char) : Bool := c.isAlphanum || c = '_' || c = '-'
    let word (part : List Char) : String := String.ofList (part.takeWhile inName)
    let kept (body : List Char) : String := String.ofList (trim (joinLines ((lines body).map trimEnd)))
    let bodies (name : String) : List String :=
      (if name = "description" then [kept (lead text (introducers text))] else []) ++
        (parts.filter fun part => word part ≠ "" ∧ (if word part = "return" then "returns" else word part) = name).map
          fun part => kept (part.dropWhile inName)
    (∀ name, (tags block).all name = bodies name) ∧
    (∀ name, (tags block).get? name = none ↔ bodies name = []) ∧
    (∀ name body, (tags block).get? name = some (.single body) ↔ bodies name = [body]) ∧
    (∀ name first second more,
      (tags block).get? name = some (.many first second more) ↔ bodies name = first :: second :: more) ∧
    "description" ∈ (tags block).slots.names ∧
    "" ∉ (tags block).slots.names ∧
    "return" ∉ (tags block).slots.names ∧
    (tags block).bodyCount
        + (notices block).countP (fun notice => notice.message = "skipping tag span without a name") =
      1 + (introducers text).length := by
  intro text parts inName word kept bodies
  have all : ∀ name, (tags block).all name = bodies name := by
    intro name
    have leads : leadingText text = kept (lead text (introducers text)) := by
      rw [leadingText, leading, cut_eq_stretches]
      rfl
    have named : parts.filter ((fun span : Span => span.name? = some name) ∘ Span.ofText) =
        parts.filter fun part => word part ≠ "" ∧ (if word part = "return" then "returns" else word part) = name :=
      List.filter_congr fun part _ => decide_eq_decide.2 name?_eq_some_iff
    have stored : bodiesOf (spans text) name =
        (parts.filter fun part =>
          word part ≠ "" ∧ (if word part = "return" then "returns" else word part) = name).map
            fun part => kept (part.dropWhile inName) := by
      rw [bodiesOf, spans, cut_eq_stretches, List.filter_map, List.map_map]
      exact congrArg (List.map _) named
    rw [all_tags, leads, stored]
    rfl
  have absent : ∀ name, (∀ span : Span, span.name? ≠ some name) → name ≠ "description" →
      name ∉ (tags block).slots.names := by
    intro name unused other listed
    rw [TagMap.mem_names_iff, TagMap.contains_iff, all_tags, bodiesOf_eq_nil unused] at listed
    simp [TagMap.descriptionName, other] at listed
  refine ⟨all, ?_, ?_, ?_, ?_, ?_, ?_, ?_⟩
  · intro name
    rw [TagMap.get?_eq_none_iff, all]
  · intro name body
    rw [TagMap.get?_eq_single_iff, all]
  · intro name first second more
    rw [TagMap.get?_eq_many_iff, all]
  · rw [TagMap.mem_names_iff, TagMap.contains_iff, all_tags]
    simp [TagMap.descriptionName]
  · exact absent "" name?_ne_empty (by decide)
  · exact absent "return" name?_ne_return (by decide)
  · change _ = 1 + (introducers (blockText block)).length
    have counted := length_kept (spans (blockText block))
    rw [length_spans] at counted
    rw [countP_notices, tags_eq_readText, readText, TagMap.bodyCount_insertAll,
      TagMap.bodyCount_ofDescription]
    omega

/-- A block with one tag twice, a tag without a name, and tags named `return` and `description`. -/
theorem tags_keep_every_part_of_repeated_tags :
    let block := some ("/**\n * Lead. \n *\n * @param a,\n *   b\n * @ lost\n * @return int\n" ++
      " * @description more\n * @param c */")
    (tags block).all "param" = ["a,\nb", "c"] ∧
    (tags block).get? "param" = some (.many "a,\nb" "c" []) ∧
    (tags block).get? "returns" = some (.single "int") ∧
    (tags block).get? "description" = some (.many "Lead." "more" []) ∧
    (tags block).get? "lost" = none ∧
    "return" ∉ (tags block).slots.names ∧
    (tags block).bodyCount
        + (notices block).countP (fun notice => notice.message = "skipping tag span without a name") = 1 + 5 := by
  intro block
  have signs : (introducers (blockText block)).length = 5 := by decide +kernel
  obtain ⟨all, isAbsent, isSingle, isMany, -, -, noReturn, count⟩ := tags_keep_every_part block
  rw [signs] at count
  refine ⟨(all "param").trans ?_, (isMany _ _ _ _).2 ?_, (isSingle _ _).2 ?_, (isMany _ _ _ _).2 ?_,
    (isAbsent _).2 ?_, noReturn, count⟩
  all_goals decide +kernel

theorem tag?_eq_head? (name : String) (block : Option String) :
    tag? name block = (bodiesOf (spans (blockText block)) name).head? := by
  cases block with
  | none => rfl
  | some block =>
    unfold tag? bodiesOf blockText
    rw [List.head?_map, List.head?_filter]
    simp only [Bool.beq_eq_decide_eq]

/-- Looking for one tag and asking the map for its first body come to the same, but for `description`, where
the map has the leading part first. So a method that is not static is described exactly when the map that its
descriptor holds has the tag `api`. -/
theorem tag?_agrees_with_tags :
    (∀ name block, tag? name block =
      if name = "description" then ((tags block).all name)[1]? else (tags block).first? name) ∧
    (∀ name block, (tag? name block).isSome =
      if name = "description" then decide (1 < ((tags block).all name).length)
      else (tags block).contains name) ∧
    (∀ block, tag? "return" block = none) ∧
    (∀ entry : ClassEntry, entry.describe.methods =
      ((entry.methods.filter fun method => !method.isStatic).map Method.describe).filter
        fun descriptor => descriptor.tags.contains "api") := by
  have first : ∀ name block, tag? name block =
      if name = "description" then ((tags block).all name)[1]? else (tags block).first? name := by
    intro name block
    rw [tag?_eq_head?, TagMap.first?_eq_head?, all_tags]
    unfold TagMap.descriptionName
    split
    · rw [List.singleton_append, List.getElem?_cons_succ, List.head?_eq_getElem?]
    · rw [List.nil_append]
  have present : ∀ name block, (tag? name block).isSome =
      if name = "description" then decide (1 < ((tags block).all name).length)
      else (tags block).contains name := by
    intro name block
    rw [first]
    split
    · rw [Bool.eq_iff_iff, isSome_getElem?, decide_eq_true_eq]
    · rw [TagMap.first?, TagMap.contains, Option.isSome_map]
  refine ⟨first, present, ?_, ?_⟩
  · intro block
    rw [tag?_eq_head?, bodiesOf_eq_nil name?_ne_return]
    rfl
  · intro entry
    have exposed : ∀ method ∈ entry.methods,
        method.isExposed = (method.describe.tags.contains "api" && !method.isStatic) := by
      intro method _
      have marked := present "api" method.doc
      rw [if_neg (by decide)] at marked
      rw [Method.isExposed, Method.isMarked, marked, Bool.and_comm]
      rfl
    rw [List.filter_map, List.filter_filter]
    exact congrArg (List.map Method.describe) (List.filter_congr exposed)

end ClientStub.DocBlock
