import ClientStub.Proofs.DocComment.Closing
import ClientStub.Proofs.Stub.CommentMarks
import ClientStub.Proofs.Stub.CommentReading

/-!
# Where a stub's comment ends

Nothing that a method's block says can close the comment above its function, for the block was closed by the
same delimiter. The literal of a default can: quoting leaves stars and slashes as they are. So a comment ends
at its last two characters, and not before, exactly if no text among the defaults has the delimiter.
-/

namespace ClientStub.Layout

open ClientStub.Text ClientStub.DocBlock ClientStub.DocComment

variable {pattern : List Char}

theorem lacks_quote_iff {text : String} :
    Lacks "*/".toList (quote text).toList ↔ Lacks "*/".toList text.toList := by
  have filled : "*/".toList ≠ [] := by decide
  have marks : Foreign "*/".toList escapeMarks := by decide
  have quotes : ∀ c ∉ "*/".toList, quoteChar c ≠ [] ∧ Foreign "*/".toList (quoteChar c) := by
    intro c apart
    constructor
    · unfold quoteChar
      split
      · simp
      · simp
      · simp
      · simp
      · simp
      · split <;> simp
    · intro d listed
      rcases mem_quoteChar listed with mark | ⟨rfl, -⟩
      · exact marks d mark
      · exact apart
  have kept : ∀ c ∈ "*/".toList, quoteChar c = [c] :=
    List.forall_mem_cons.2 ⟨by decide, List.forall_mem_singleton.2 (by decide)⟩
  have source : (quote text).toList = '\'' :: (text.toList.flatMap quoteChar ++ ['\'']) := String.toList_ofList
  rw [source, lacks_cons filled (by decide),
    lacks_append_foreign filled (by decide) (by decide), lacks_flatMap_iff filled kept quotes]

/-- Of all values a text alone has a literal that may close a comment. -/
theorem lacks_defaultLiteral_iff {value : Json} :
    Lacks "*/".toList value.defaultLiteral.toList ↔
      ∀ text, value = .string text → Lacks "*/".toList text.toList := by
  rcases text_or_not_mem_defaultLiteral '/' (by decide) (by decide) value with ⟨text, rfl⟩ | slash
  · change Lacks "*/".toList (quote text).toList ↔ _
    rw [lacks_quote_iff]
    constructor
    · rintro lacks other same
      obtain rfl := Json.string.inj same
      exact lacks
    · exact fun lacks => lacks text rfl
  · have lacks : Lacks "*/".toList value.defaultLiteral.toList := fun found => slash (found.subset (by decide))
    refine iff_of_true lacks ?_
    rintro text rfl
    exact lacks_quote_iff.1 lacks

theorem lacks_parameterHead_describe (mark : Mark pattern) {parameter : Parameter} {tags : TagMap}
    (name : Lacks pattern parameter.name.toList) :
    Lacks pattern (parameterHead (parameter.describe tags)).toList ↔
      ∀ value, parameter.default = some value → Lacks pattern value.defaultLiteral.toList := by
  rw [parameterHead_describe]
  cases given : parameter.default with
  | none => exact iff_of_true name nofun
  | some value =>
    have source : ("[" ++ parameter.name ++ "=" ++ value.defaultLiteral ++ "]").toList =
        '[' :: (parameter.name.toList ++ '=' :: (value.defaultLiteral.toList ++ "]".toList)) := by simp
    simp only [Option.some.injEq, forall_eq']
    rw [source, lacks_cons mark.filled (mark.not_mem (by decide)),
      lacks_append_cons mark.filled (mark.not_mem (by decide)),
      lacks_append_foreign mark.filled (by decide) (mark.foreign (by decide))]
    exact and_iff_right name

theorem unmarked_describe (mark : Mark pattern) (templates : Templates) {method : Method}
    (name : Lacks pattern method.name.toList)
    (tags : ∀ name, ∀ body ∈ (DocBlock.tags method.doc).all name, Lacks pattern body.toList) :
    (⟨templates, .builtin⟩ : Layout).Unmarked pattern method.describe where
  types _ lacks := lacks_translate_builtin mark lacks
  clientName := by
    change Lacks pattern (method.clientName (DocBlock.tags method.doc)).toList
    unfold Method.clientName
    rw [TagMap.first?_eq_head?]
    split
    · exact name
    · rename_i renamed _ first
      exact tags "alias" renamed (List.mem_of_head? first)
    · exact name
  tags := tags
  route := by
    intro routed listed
    obtain ⟨parameter, -, rfl⟩ := List.mem_map.1 listed
    unfold Parameter.describe
    cases found : (DocBlock.tags method.doc).declaration? parameter.name with
    | none => exact ⟨lacks_nil mark.filled, lacks_nil mark.filled⟩
    | some declaration =>
      obtain ⟨body, inTags, rfl⟩ := declaration?_source found
      obtain ⟨type, -, said⟩ := isInfix_ofTag body
      have lacks := tags "param" body inTags
      refine ⟨?_, lacks.of_isInfix said⟩
      rw [Option.bind_some, Declaration.type?]
      split
      · exact lacks_nil mark.filled
      · exact lacks.of_isInfix type
  query := by
    intro query listed
    obtain ⟨body, inTags, rfl⟩ := List.mem_map.1 listed
    obtain ⟨type, name, said⟩ := isInfix_ofTag body
    have lacks := tags "query" body inTags
    exact ⟨lacks.of_isInfix type, lacks.of_isInfix name, lacks.of_isInfix said⟩

/-- Where a method's block has the closing delimiter at its end at most, and the names of the method and of
its parameters lack it, the comment of its stub has the delimiter at its end alone exactly if no default is a
text that has it. -/
theorem comment_closes_at_end_iff (templates : Templates) (method : Method)
    (block : ∀ text ∈ method.doc, AtEndOnly "*/".toList (trim text.toList))
    (name : Lacks "*/".toList method.name.toList)
    (names : ∀ parameter ∈ method.parameters, Lacks "*/".toList parameter.name.toList) :
    let descriptor := method.describe
    let comment := ((⟨templates, .builtin⟩ : Layout).methodDoc descriptor (typeName descriptor)).comment.toList
    places "*/".toList comment = [comment.length - 2] ↔
      ∀ parameter ∈ method.parameters, ∀ text,
        parameter.default = some (.string text) → Lacks "*/".toList text.toList := by
  intro descriptor comment
  have mark := mark_closing
  have tags : ∀ name, ∀ body ∈ (DocBlock.tags method.doc).all name, Lacks "*/".toList body.toList :=
    fun name body listed => lacks_of_mem_tags block listed
  have unmarked := unmarked_describe mark templates name tags
  have route : descriptor.route = method.parameters.map fun parameter => parameter.describe descriptor.tags := rfl
  unfold comment
  rw [methodDoc, places_block_iff, unmarked.commentLines_iff mark, route, List.forall_mem_map]
  refine forall₂_congr fun parameter listed => ?_
  rw [lacks_parameterHead_describe mark (names parameter listed)]
  constructor
  · exact fun lacks text given => lacks_defaultLiteral_iff.1 (lacks _ given) text rfl
  · exact fun lacks value given => lacks_defaultLiteral_iff.2 fun text same => lacks text (by rw [given, same])

/-- Stars and slashes that do not stand side by side are no delimiter. -/
theorem comment_closes_at_end_of_spaced_default :
    let method : Method := ⟨"getItem", false, some "/** One. @api */\n", [⟨"every", some (.string "* /5")⟩]⟩
    let comment := (builtin.methodDoc method.describe (typeName method.describe)).comment.toList
    places "*/".toList comment = [comment.length - 2] := by
  intro method comment
  have block : ∀ text ∈ method.doc, AtEndOnly "*/".toList (trim text.toList) := by
    intro text given
    obtain rfl := Option.some.inj given
    decide
  have names : ∀ parameter ∈ method.parameters, Lacks "*/".toList parameter.name.toList := by decide
  have defaults : ∀ parameter ∈ method.parameters, ∀ text,
      parameter.default = some (.string text) → Lacks "*/".toList text.toList := by
    intro parameter listed text given
    obtain rfl := List.mem_singleton.1 listed
    obtain rfl := Json.string.inj (Option.some.inj given)
    decide
  exact (comment_closes_at_end_iff .builtin method block (by decide) names).2 defaults

/-- A default may close its comment: the delimiter stands in the line of the parameter, too. -/
theorem comment_closed_by_default :
    let method : Method := ⟨"getItem", false, some "/** @api */", [⟨"every", some (.string "*/5")⟩]⟩
    let comment := (builtin.methodDoc method.describe (typeName method.describe)).comment
    (∀ text ∈ method.doc, AtEndOnly "*/".toList (trim text.toList)) ∧
    Lacks "*/".toList method.name.toList ∧
    (∀ parameter ∈ method.parameters, Lacks "*/".toList parameter.name.toList) ∧
    comment = "/**\n * @param \x7b*\x7d [every='*/5']\n * @returns \x7bPromise\x7d\n */" ∧
    places "*/".toList comment.toList = [26, 55] := by
  intro method comment
  refine ⟨?_, by decide, by decide, ?_, ?_⟩
  · intro text given
    obtain rfl := Option.some.inj given
    decide
  · decide +kernel
  · decide +kernel

end ClientStub.Layout
