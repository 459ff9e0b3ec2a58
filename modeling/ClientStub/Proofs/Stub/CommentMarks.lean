import ClientStub.Proofs.DocBlock.Parts
import ClientStub.Proofs.Stub.CommentLines
import ClientStub.Stub.Method

/-!
# Marks in a stub's comment

The lines of a comment are put together from the texts of a descriptor and from fixed texts between them. A
mark is a pattern that the fixed texts neither have nor help to make. Where the descriptor's texts lack it,
the defaults in the heads of parameters are the only ones that can bring it into a line.
-/

namespace ClientStub.Layout

open ClientStub.Text ClientStub.DocBlock

/-- The characters that marks are made of. -/
def markChars : List Char := ['*', '/', '\r']

/-- A pattern of such characters that the type of which nothing is known is not a case of. -/
structure Mark (pattern : List Char) : Prop where
  filled : pattern ≠ []
  chars : ∀ c ∈ pattern, c ∈ markChars
  unknown : Lacks pattern TypeTable.unknown.toList

theorem mark_closing : Mark "*/".toList := ⟨by decide, by simp [markChars], by decide⟩

theorem mark_return : Mark ['\r'] := ⟨by decide, by simp [markChars], by decide⟩

variable {pattern : List Char} (mark : Mark pattern)

include mark

theorem Mark.foreign {text : List Char} (apart : Foreign markChars text) : Foreign pattern text :=
  fun c listed inPattern => apart c listed (mark.chars c inPattern)

theorem Mark.not_mem {c : Char} (apart : c ∉ markChars) : c ∉ pattern := fun listed => apart (mark.chars c listed)

theorem Mark.lacks {text : List Char} (apart : Foreign markChars text) : Lacks pattern text := by
  have parts := @lacks_foreign_append pattern [] text mark.filled (mark.foreign apart)
  rw [List.append_nil] at parts
  exact parts.2 (lacks_nil mark.filled)

theorem lacks_append_described {front : List Char} {description : String} :
    Lacks pattern (front ++ (described description).toList) ↔
      Lacks pattern front ∧ Lacks pattern description.toList := by
  rw [toList_described]
  split
  · rename_i empty
    rw [empty, List.append_nil]
    exact (and_iff_left (lacks_nil mark.filled)).symm
  · exact lacks_append_cons mark.filled (mark.not_mem (by decide))

theorem lacks_braced_append {type rest : String} :
    Lacks pattern (braced type ++ rest).toList ↔ Lacks pattern type.toList ∧ Lacks pattern rest.toList := by
  have source : (braced type ++ rest).toList = '\x7b' :: (type.toList ++ '\x7d' :: rest.toList) := by
    simp [braced]
  rw [source, lacks_cons mark.filled (mark.not_mem (by decide)),
    lacks_append_cons mark.filled (mark.not_mem (by decide))]

theorem lacks_entry_iff {type head description : String} :
    Lacks pattern (entry type head description).toList ↔
      Lacks pattern type.toList ∧ Lacks pattern head.toList ∧ Lacks pattern description.toList := by
  have source : (" " ++ (head ++ described description)).toList =
      ' ' :: (head.toList ++ (described description).toList) := by simp
  rw [entry, String.append_assoc, String.append_assoc, lacks_braced_append mark, source,
    lacks_cons mark.filled (mark.not_mem (by decide)), lacks_append_described mark]

/-- A line says the mark exactly if what stands behind its tag does. -/
theorem lacks_tag_iff {name body : String} (apart : Foreign markChars ("@" ++ name ++ " ").toList) :
    Lacks pattern (CommentLine.tag name body).text.toList ↔ Lacks pattern body.toList := by
  rw [CommentLine.text, String.toList_append]
  exact lacks_foreign_append mark.filled (mark.foreign apart)

theorem lacks_translate_builtin {type : String} (lacks : Lacks pattern type.toList) :
    Lacks pattern (TypeTable.builtin.translate type).toList := by
  have named : ∀ name ∈ ["number", "boolean"], Foreign markChars name.toList := by decide
  rcases translate_builtin type with known | same
  · rcases List.mem_cons.1 known with unknown | known
    · rw [unknown]
      exact mark.unknown
    · exact mark.lacks (named _ known)
  · rw [same]
    exact lacks

theorem lacks_payloadType {body : String} (lacks : Lacks pattern body.toList) :
    Lacks pattern (payloadType body).toList := by
  unfold payloadType
  split
  · exact mark.lacks (by decide)
  · exact mark.lacks (by decide)
  · exact mark.lacks (by decide)
  · exact lacks.of_isInfix (isInfix_nextWord body).1

theorem lacks_upperFirst {text : String} (lacks : Lacks pattern text.toList) :
    Lacks pattern (upperFirst text).toList := by
  have low : ∀ c ∈ markChars, c < 'A' := by
    simp only [markChars, List.forall_mem_cons]
    exact ⟨by decide, by decide, by decide, nofun⟩
  unfold upperFirst
  cases source : text.toList with
  | nil => exact lacks_nil mark.filled
  | cons c rest =>
    rw [source] at lacks
    rw [String.toList_ofList]
    by_cases inPattern : c ∈ pattern
    · rw [toUppercase_of_lt (low c (mark.chars c inPattern))]
      exact lacks
    · have foreign : Foreign pattern (toUppercase c) := by
        intro d listed other
        rcases mem_toUppercase listed with rfl | high
        · exact inPattern other
        · exact absurd (low d (mark.chars d other)) (Char.not_lt.2 high)
      rw [lacks_foreign_append mark.filled foreign]
      exact (lacks_cons mark.filled inPattern).1 lacks

omit mark

/-- A descriptor whose texts lack a pattern, defaults and the names of parameters apart. -/
structure Unmarked (layout : Layout) (pattern : List Char) (method : MethodDescriptor) : Prop where
  types : ∀ type : String, Lacks pattern type.toList → Lacks pattern (layout.types.translate type).toList
  clientName : Lacks pattern method.clientName.toList
  tags : ∀ name, ∀ body ∈ method.tags.all name, Lacks pattern body.toList
  route : ∀ parameter ∈ method.route,
    Lacks pattern (parameter.type.getD "").toList ∧ Lacks pattern parameter.description.toList
  query : ∀ query ∈ method.query,
    Lacks pattern query.type.toList ∧ Lacks pattern query.name.toList ∧ Lacks pattern query.description.toList

namespace Unmarked

variable {layout : Layout} {method : MethodDescriptor} (unmarked : layout.Unmarked pattern method)

include unmarked

theorem first? {name body : String} (first : method.tags.first? name = some body) : Lacks pattern body.toList := by
  rw [TagMap.first?_eq_head?] at first
  exact unmarked.tags name body (List.mem_of_head? first)

include mark

theorem description : Lacks pattern method.tags.description.toList := by
  unfold TagMap.description
  cases first : method.tags.first? TagMap.descriptionName with
  | none => exact lacks_nil mark.filled
  | some body => exact unmarked.first? first

theorem routeBodies_iff : (∀ body ∈ layout.routeBodies method, Lacks pattern body.toList) ↔
    ∀ parameter ∈ method.route, Lacks pattern (parameterHead parameter).toList := by
  unfold Layout.routeBodies
  rw [List.map_append, List.forall_mem_append]
  have payload : ∀ body ∈ (payloadParameter? method.tags).toList.map layout.parameterBody,
      Lacks pattern body.toList := by
    intro body listed
    obtain ⟨parameter, asked, rfl⟩ := List.mem_map.1 listed
    obtain ⟨said, first, rfl⟩ := Option.map_eq_some_iff.1 (Option.mem_toList.1 asked)
    have type := unmarked.types _ (lacks_payloadType mark (unmarked.first? first))
    have name : Lacks pattern payloadName.toList := mark.lacks (by decide)
    have introduced : Lacks pattern payloadDescription.toList := mark.lacks (by decide)
    exact (lacks_entry_iff mark).2 ⟨type, name, introduced⟩
  rw [and_iff_right payload, List.forall_mem_map]
  refine forall₂_congr fun parameter inRoute => ?_
  obtain ⟨type, said⟩ := unmarked.route parameter inRoute
  rw [parameterBody, lacks_entry_iff mark]
  constructor
  · exact fun lacks => lacks.2.1
  · exact fun head => ⟨unmarked.types _ type, head, said⟩

theorem payloadFieldBodies : ∀ body ∈ layout.payloadFieldBodies method.tags, Lacks pattern body.toList := by
  intro body listed
  obtain ⟨field, declared, rfl⟩ := List.mem_map.1 listed
  obtain ⟨inTags, -⟩ := List.mem_filter.1 declared
  obtain ⟨source, inBodies, rfl⟩ := List.mem_map.1 inTags
  have lacks := unmarked.tags "payload-field" source inBodies
  obtain ⟨type, name, said⟩ := isInfix_ofField source
  have head : Lacks pattern (payloadName ++ "." ++ (Declaration.ofField source).name).toList := by
    rw [String.toList_append]
    exact (lacks_foreign_append mark.filled (mark.foreign (by decide))).2 (lacks.of_isInfix name)
  exact (lacks_entry_iff mark).2 ⟨unmarked.types _ (lacks.of_isInfix type), head, lacks.of_isInfix said⟩

theorem queryBodies : ∀ body ∈ layout.queryBodies method, Lacks pattern body.toList := by
  unfold Layout.queryBodies
  split
  · simp
  · rw [List.forall_mem_cons, List.forall_mem_map]
    refine ⟨mark.lacks (by decide), fun query declared => ?_⟩
    obtain ⟨type, name, said⟩ := unmarked.query query declared
    have head : Lacks pattern ("[" ++ queryParamsName ++ "." ++ query.name ++ "]").toList := by
      rw [String.toList_append, String.toList_append,
        lacks_append_foreign mark.filled (by decide) (mark.foreign (by decide))]
      exact (lacks_foreign_append mark.filled (mark.foreign (by decide))).2 name
    exact (lacks_entry_iff mark).2 ⟨unmarked.types _ type, head, said⟩

theorem promiseName : Lacks pattern (promiseName (typeName method)).toList := by
  rw [Layout.promiseName, String.toList_append,
    lacks_append_foreign mark.filled (by decide) (mark.foreign (by decide))]
  exact lacks_upperFirst mark unmarked.clientName

theorem returnsBody : Lacks pattern (returnsBody method.tags (typeName method)).toList := by
  have type : Lacks pattern (returnType method.tags (typeName method)).toList := by
    unfold returnType
    split
    · exact mark.lacks (by decide)
    · exact unmarked.promiseName mark
  have said : Lacks pattern (returnDescription method.tags).toList := by
    unfold returnDescription
    cases first : method.tags.first? "returns" with
    | none => exact lacks_nil mark.filled
    | some body => exact (unmarked.first? first).of_isInfix (isInfix_nextWord body).2
  rw [Layout.returnsBody, lacks_braced_append mark, ← List.nil_append (described _).toList,
    lacks_append_described mark]
  exact ⟨type, lacks_nil mark.filled, said⟩

/-- A mark comes into a comment's lines with the head of a parameter only. -/
theorem commentLines_iff :
    (∀ line ∈ layout.commentLines method (typeName method), Lacks pattern line.toList) ↔
      ∀ parameter ∈ method.route, Lacks pattern (parameterHead parameter).toList := by
  have param : Foreign markChars ("@" ++ "param" ++ " ").toList := by decide
  have returns : Foreign markChars ("@" ++ "returns" ++ " ").toList := by decide
  have tagged (bodies : List String) :
      (∀ line ∈ bodies.map (CommentLine.tag "param"), Lacks pattern line.text.toList) ↔
        ∀ body ∈ bodies, Lacks pattern body.toList := by
    rw [List.forall_mem_map]
    exact forall₂_congr fun body _ => lacks_tag_iff mark param
  have said : ∀ line ∈ (if method.tags.description = "" then [] else [method.tags.description, ""]),
      Lacks pattern line.toList := by
    split
    · simp
    · rw [List.forall_mem_cons, List.forall_mem_singleton]
      exact ⟨unmarked.description mark, lacks_nil mark.filled⟩
  have apart : ∀ line ∈ (if fields method.tags "payload-field" = [] then [] else [CommentLine.empty]),
      Lacks pattern line.text.toList := by
    split
    · simp
    · rw [List.forall_mem_singleton]
      exact lacks_nil mark.filled
  rw [commentLines_eq, List.forall_mem_append, and_iff_right said, List.forall_mem_map, tagLines]
  simp only [List.forall_mem_append, List.forall_mem_singleton, tagged, lacks_tag_iff mark returns]
  rw [unmarked.routeBodies_iff mark]
  constructor
  · exact fun lacks => lacks.1.1.1.1
  · exact fun heads => ⟨⟨⟨⟨heads, apart⟩, unmarked.payloadFieldBodies mark⟩, unmarked.queryBodies mark⟩,
      unmarked.returnsBody mark⟩

end Unmarked

end ClientStub.Layout
