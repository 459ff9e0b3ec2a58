import ClientStub.Proofs.DocBlock.Words
import ClientStub.Proofs.DocComment.ReadBack
import ClientStub.Stub.Doc

/-!
# The lines of a stub's comment

What the tags above a generated function say is put together from types, names and descriptions. Where each
part fits its place, what is said is settled, and the comment is read back as its description and its tags.
-/

namespace ClientStub.Layout

open ClientStub.Text ClientStub.DocBlock ClientStub.DocComment

/-- What the tag of a parameter says. -/
def entry (type head description : String) : String :=
  braced type ++ " " ++ head ++ described description

theorem toList_described (description : String) :
    (described description).toList = if description.toList = [] then [] else ' ' :: description.toList := by
  unfold described
  by_cases empty : description = ""
  · simp [empty]
  · simp [empty]

theorem endsLine_closing {text : String} (inLine : Inline text.toList) :
    EndsLine (text ++ "\x7d").toList := by
  have closing : EndsLine "\x7d".toList := endsLine_of_getLast? (by decide) (by decide) rfl (by decide)
  rw [String.toList_append]
  exact inLine.append_endsLine closing

theorem endsLine_braced {type : String} (inLine : Inline type.toList) : EndsLine (braced type).toList := by
  refine endsLine_closing ?_
  rw [String.toList_append]
  exact (inline_of_not_mem (by decide) (by decide)).append inLine

theorem head?_braced_append (type rest : String) :
    ∀ c ∈ (braced type ++ rest).toList.head?, isBlank c = false := by
  intro c first
  obtain rfl : '\x7b' = c := by simpa [braced] using first
  decide

theorem settled_entry {type head description : String} (inLine : Inline type.toList)
    (ends : EndsLine head.toList) (settled : Settled description.toList) :
    Settled (entry type head description).toList := by
  have line : EndsLine (braced type ++ " " ++ head).toList := by
    rw [String.toList_append, String.toList_append]
    have space : Inline " ".toList := inline_of_not_mem (by decide) (by decide)
    exact ((endsLine_braced inLine).toInline.append space).append_endsLine ends
  unfold entry
  rw [String.toList_append, toList_described]
  refine line.settled_described ?_ settled
  rw [String.append_assoc]
  exact head?_braced_append type (" " ++ head)

theorem settled_braced_described {type description : String} (inLine : Inline type.toList)
    (settled : Settled description.toList) : Settled (braced type ++ described description).toList := by
  rw [String.toList_append, toList_described]
  refine (endsLine_braced inLine).settled_described ?_ settled
  have first := head?_braced_append type ""
  rwa [String.append_empty] at first

theorem translate_builtin (type : String) :
    TypeTable.builtin.translate type ∈ ["*", "number", "boolean"] ∨ TypeTable.builtin.translate type = type := by
  unfold TypeTable.translate
  split
  · exact .inl List.mem_cons_self
  · cases found : TypeTable.builtin.names.get? type with
    | none => exact .inr rfl
    | some name =>
      have listed : name ∈ TypeTable.builtin.names.map Prod.snd := by
        obtain ⟨front, behind, source, -⟩ := List.lookup_eq_some_iff.1 found
        rw [source]
        simp
      have known : ∀ name ∈ TypeTable.builtin.names.map Prod.snd, name ∈ ["*", "number", "boolean"] := by
        decide
      exact .inl (known name listed)

theorem inline_translate {type : String} (inLine : Inline type.toList) :
    Inline (TypeTable.builtin.translate type).toList := by
  have fixed : ∀ name ∈ ["*", "number", "boolean"], '\n' ∉ name.toList ∧ introducer ∉ name.toList := by decide
  rcases translate_builtin type with known | same
  · obtain ⟨single, absent⟩ := fixed _ known
    exact inline_of_not_mem single absent
  · rw [same]
    exact inLine

variable (layout : Layout)

def parameterBody (parameter : RouteParameter) : String :=
  entry (layout.types.translate (parameter.type.getD "")) (parameterHead parameter) parameter.description

def payloadFieldBody (field : Declaration) : String :=
  entry (layout.types.translate field.type) (payloadName ++ "." ++ field.name) field.description

def queryIntroductionBody : String := entry "Object" ("[" ++ queryParamsName ++ "]") queryParamsDescription

def queryBody (query : QueryParameter) : String :=
  entry (layout.types.translate query.type) ("[" ++ queryParamsName ++ "." ++ query.name ++ "]")
    query.description

def queryBodies (method : MethodDescriptor) : List String :=
  if method.query = [] then [] else queryIntroductionBody :: method.query.map layout.queryBody

def routeBodies (method : MethodDescriptor) : List String :=
  ((payloadParameter? method.tags).toList ++ method.route).map layout.parameterBody

def payloadFieldBodies (tags : TagMap) : List String :=
  (fields tags "payload-field").map layout.payloadFieldBody

def returnsBody (tags : TagMap) (typeName : String) : String :=
  braced (returnType tags typeName) ++ described (returnDescription tags)

theorem text_param (body : String) : (CommentLine.tag "param" body).text = "@param " ++ body := by
  have start : "@" ++ "param" ++ " " = "@param " := by decide
  rw [CommentLine.text, start]

theorem parameterLine_eq (parameter : RouteParameter) :
    layout.parameterLine parameter = (CommentLine.tag "param" (layout.parameterBody parameter)).text := by
  rw [text_param]
  delta parameterLine parameterBody entry
  simp only [String.append_assoc]

theorem payloadFieldLine_eq (field : Declaration) :
    layout.payloadFieldLine field = (CommentLine.tag "param" (layout.payloadFieldBody field)).text := by
  rw [text_param]
  delta payloadFieldLine payloadFieldBody entry
  simp only [String.append_assoc]

theorem queryLine_eq (query : QueryParameter) :
    layout.queryLine query = (CommentLine.tag "param" (layout.queryBody query)).text := by
  have opening : " [" = " " ++ "[" := by decide
  rw [text_param]
  delta queryLine queryBody entry
  rw [opening]
  simp only [String.append_assoc]

/-- The lines of a comment behind the description. -/
def tagLines (method : MethodDescriptor) (typeName : String) : List CommentLine :=
  (layout.routeBodies method).map (.tag "param") ++
    (if fields method.tags "payload-field" = [] then [] else [.empty]) ++
    (layout.payloadFieldBodies method.tags).map (.tag "param") ++
    (layout.queryBodies method).map (.tag "param") ++ [.tag "returns" (returnsBody method.tags typeName)]

theorem commentLines_eq (method : MethodDescriptor) (typeName : String) :
    layout.commentLines method typeName =
      (if method.tags.description = "" then [] else [method.tags.description, ""]) ++
        (layout.tagLines method typeName).map CommentLine.text := by
  have fieldLines : layout.payloadFieldLines method.tags =
      (if fields method.tags "payload-field" = [] then [] else [""]) ++
        (fields method.tags "payload-field").map layout.payloadFieldLine := by
    unfold payloadFieldLines
    cases fields method.tags "payload-field" with
    | nil => rfl
    | cons field others => rfl
  have queryLines : layout.queryLines method =
      (layout.queryBodies method).map fun body => (CommentLine.tag "param" body).text := by
    unfold Layout.queryLines queryBodies
    cases method.query with
    | nil => rfl
    | cons query others =>
      rw [if_neg (by simp), List.map_cons, List.map_map]
      have introduction : queryIntroduction = (CommentLine.tag "param" queryIntroductionBody).text := by
        decide
      rw [introduction]
      exact congrArg _ (List.map_congr_left fun query _ => layout.queryLine_eq query)
  have returns : returnsLine method.tags typeName =
      (CommentLine.tag "returns" (returnsBody method.tags typeName)).text := by
    have start : "@" ++ "returns" ++ " " = "@returns " := by decide
    rw [CommentLine.text, start, returnsLine, returnsBody, String.append_assoc]
  have empty : (if fields method.tags "payload-field" = [] then [] else [CommentLine.empty]).map
      CommentLine.text = if fields method.tags "payload-field" = [] then [] else [""] := by
    split
    · rfl
    · rfl
  rw [commentLines, descriptionLines, parameterLines, fieldLines, queryLines, returns, tagLines, routeBodies,
    payloadFieldBodies]
  simp only [List.map_append, List.map_map, List.append_assoc, empty]
  simp only [Function.comp_def, ← parameterLine_eq, ← payloadFieldLine_eq]
  rfl

theorem filterMap_tagLines (method : MethodDescriptor) (typeName : String) :
    (layout.tagLines method typeName).filterMap CommentLine.tag? =
      (layout.routeBodies method ++ layout.payloadFieldBodies method.tags ++ layout.queryBodies method).map
          (fun body => ("param", body)) ++ [("returns", returnsBody method.tags typeName)] := by
  have empty : (if fields method.tags "payload-field" = [] then [] else [CommentLine.empty]).filterMap
      CommentLine.tag? = [] := by
    split
    · rfl
    · rfl
  have written : ∀ bodies : List String, (bodies.map (CommentLine.tag "param")).filterMap CommentLine.tag? =
      bodies.map fun body => ("param", body) := by
    intro bodies
    rw [List.filterMap_map]
    exact congrFun List.filterMap_eq_map bodies
  unfold tagLines
  rw [List.filterMap_append, List.filterMap_append, List.filterMap_append, List.filterMap_append, empty,
    written, written, written, List.append_nil, List.map_append, List.map_append]
  rfl

/-- Each part of a descriptor fits where the comment puts it. -/
structure Legible (method : MethodDescriptor) : Prop where
  types : ∀ type : String, Inline type.toList → Inline (layout.types.translate type).toList
  tags : ∀ name, ∀ body ∈ method.tags.all name, Settled body.toList
  route : ∀ parameter ∈ method.route, Inline (parameter.type.getD "").toList ∧
    EndsLine (parameterHead parameter).toList ∧ Settled parameter.description.toList
  query : ∀ query ∈ method.query, Inline query.type.toList ∧ Inline query.name.toList ∧
    Settled query.description.toList

variable {layout : Layout} {method : MethodDescriptor}

theorem Legible.first? (legible : layout.Legible method) {name body : String}
    (first : method.tags.first? name = some body) : Settled body.toList := by
  rw [TagMap.first?_eq_head?] at first
  exact legible.tags name body (List.mem_of_head? first)

theorem Legible.description (legible : layout.Legible method) : Settled method.tags.description.toList := by
  unfold TagMap.description
  cases first : method.tags.first? TagMap.descriptionName with
  | none => exact settled_nil
  | some body => exact legible.first? first

theorem Legible.routeBodies (legible : layout.Legible method) :
    ∀ body ∈ layout.routeBodies method, Settled body.toList := by
  unfold Layout.routeBodies
  rw [List.map_append, List.forall_mem_append]
  constructor
  · intro body listed
    obtain ⟨parameter, asked, rfl⟩ := List.mem_map.1 listed
    obtain ⟨payload, first, rfl⟩ := Option.map_eq_some_iff.1 (Option.mem_toList.1 asked)
    have head : EndsLine payloadName.toList := endsLine_of_getLast? (by decide) (by decide) rfl (by decide)
    have said : Settled payloadDescription.toList := ⟨by decide +kernel, quiet_of_not_mem (by decide)⟩
    exact settled_entry (legible.types _ (inline_payloadType (legible.first? first))) head said
  · intro body listed
    obtain ⟨parameter, inRoute, rfl⟩ := List.mem_map.1 listed
    obtain ⟨type, head, said⟩ := legible.route parameter inRoute
    exact settled_entry (legible.types _ type) head said

theorem Legible.payloadFieldBodies (legible : layout.Legible method) :
    ∀ body ∈ layout.payloadFieldBodies method.tags, Settled body.toList := by
  intro body listed
  obtain ⟨field, declared, rfl⟩ := List.mem_map.1 listed
  obtain ⟨inTags, named⟩ := List.mem_filter.1 declared
  obtain ⟨source, inBodies, rfl⟩ := List.mem_map.1 inTags
  obtain ⟨type, ⟨name, clear⟩, said⟩ := (legible.tags "payload-field" source inBodies).ofField
  refine settled_entry (legible.types _ type) ?_ said
  rw [String.toList_append]
  have path : Inline (payloadName ++ ".").toList := inline_of_not_mem (by decide) (by decide)
  exact path.append_endsLine (name.endsLine (by simpa using named) clear)

theorem Legible.queryBodies (legible : layout.Legible method) :
    ∀ body ∈ layout.queryBodies method, Settled body.toList := by
  have closing : EndsLine "]".toList := endsLine_of_getLast? (by decide) (by decide) rfl (by decide)
  unfold Layout.queryBodies
  split
  · simp
  · rw [List.forall_mem_cons]
    constructor
    · exact ⟨by decide +kernel, quiet_of_not_mem (by decide)⟩
    · intro body listed
      obtain ⟨query, declared, rfl⟩ := List.mem_map.1 listed
      obtain ⟨type, name, said⟩ := legible.query query declared
      refine settled_entry (legible.types _ type) ?_ said
      rw [String.toList_append, String.toList_append]
      have path : Inline ("[" ++ queryParamsName ++ ".").toList := inline_of_not_mem (by decide) (by decide)
      exact (path.append name).append_endsLine closing

theorem Legible.returnDescription (legible : layout.Legible method) :
    Settled (returnDescription method.tags).toList := by
  unfold Layout.returnDescription
  cases first : method.tags.first? "returns" with
  | none => exact settled_nil
  | some body => exact (settled_nextWord (legible.first? first)).2

/-- A legible descriptor is read back from its comment. -/
theorem Legible.tags_comment (legible : layout.Legible method) {typeName : String}
    (returned : Inline (returnType method.tags typeName).toList) :
    DocBlock.tags (some (layout.methodDoc method typeName).comment) =
      (TagMap.ofDescription method.tags.description).insertAll
        ((layout.routeBodies method ++ layout.payloadFieldBodies method.tags ++ layout.queryBodies method).map
            (fun body => ("param", body)) ++ [("returns", returnsBody method.tags typeName)]) := by
  have readable : ∀ name body, CommentLine.tag name body ∈ layout.tagLines method typeName →
      CommentLine.Readable name body := by
    intro name body listed
    have kept : (name, body) ∈ (layout.tagLines method typeName).filterMap CommentLine.tag? :=
      List.mem_filterMap.2 ⟨_, listed, rfl⟩
    rw [filterMap_tagLines, List.mem_append, List.mem_map, List.mem_singleton] at kept
    rcases kept with ⟨said, inBodies, same⟩ | same
    · obtain ⟨rfl, rfl⟩ := Prod.mk.inj same
      have settled : Settled said.toList := by
        rcases List.mem_append.1 inBodies with inBodies | inQuery
        · rcases List.mem_append.1 inBodies with inRoute | inFields
          · exact legible.routeBodies said inRoute
          · exact legible.payloadFieldBodies said inFields
        · exact legible.queryBodies said inQuery
      exact ⟨by decide, List.all_eq_true.1 (by decide), by decide, settled⟩
    · obtain ⟨rfl, rfl⟩ := Prod.mk.inj same
      have settled := settled_braced_described returned legible.returnDescription
      exact ⟨by decide, List.all_eq_true.1 (by decide), by decide, settled⟩
  change DocBlock.tags (some (block (layout.commentLines method typeName))) = _
  rw [commentLines_eq, CommentLine.tags_block_described legible.description readable, filterMap_tagLines]

theorem filter_said (bodies : List String) (returned name : String) :
    ((bodies.map (fun body => ("param", body)) ++ [("returns", returned)]).filter
        fun tag => tag.1 = name).map Prod.snd =
      (if name = "param" then bodies else []) ++ if name = "returns" then [returned] else [] := by
  have parameters : ((bodies.map fun body => ("param", body)).filter fun tag => tag.1 = name).map Prod.snd =
      if name = "param" then bodies else [] := by
    induction bodies with
    | nil => simp
    | cons body bodies ih =>
      rw [List.map_cons, List.filter_cons]
      by_cases same : "param" = name
      · simp_all
      · simp [same, Ne.symm same]
  rw [List.filter_append, List.map_append, parameters]
  by_cases same : "returns" = name
  · simp [same]
  · simp [same, Ne.symm same]

/-- What stands under each name. -/
theorem Legible.all_comment (legible : layout.Legible method) {typeName : String}
    (returned : Inline (returnType method.tags typeName).toList) (name : String) :
    (DocBlock.tags (some (layout.methodDoc method typeName).comment)).all name =
      (if name = "description" then [method.tags.description] else []) ++
        ((if name = "param" then
            layout.routeBodies method ++ layout.payloadFieldBodies method.tags ++ layout.queryBodies method
          else []) ++ if name = "returns" then [returnsBody method.tags typeName] else []) := by
  rw [legible.tags_comment returned, TagMap.all_ofDescription_insertAll, filter_said]
  rfl

end ClientStub.Layout
