import ClientStub.Proofs.DefaultLiteral
import ClientStub.Proofs.Stub.CommentLines
import ClientStub.Proofs.Stub.FormalNames

/-!
# The comment of a stub is read back

The comment above a generated function is a documentation block again. Its description is that of the method,
one tag tells of the return value, and the others of the parameters, in the order in which the function has
them. For this the parts that come from the method's own block and its parameters must fit the comment.
-/

namespace ClientStub.Layout

open ClientStub.Text ClientStub.DocBlock ClientStub.DocComment

theorem declaration?_source {tags : TagMap} {name : String} {declaration : Declaration}
    (found : tags.declaration? name = some declaration) :
    ∃ body ∈ tags.all "param", Declaration.ofTag body = declaration := by
  have listed := List.mem_of_find?_eq_some found
  rw [List.mem_reverse] at listed
  exact List.mem_map.1 listed

/-- The head of a parameter's tag: its name, or the name and the default between brackets. -/
theorem parameterHead_describe (parameter : Parameter) (tags : TagMap) :
    parameterHead (parameter.describe tags) =
      match parameter.default with
      | none => parameter.name
      | some value => "[" ++ parameter.name ++ "=" ++ value.defaultLiteral ++ "]" := by
  unfold parameterHead Parameter.describe
  cases parameter.default with
  | none => rfl
  | some value => rfl

theorem routeBodies_describe (layout : Layout) (method : Method) :
    layout.routeBodies method.describe =
      (if method.describe.tags.contains "payload" then
        [entry (layout.types.translate (payloadType ((method.describe.tags.first? "payload").getD "")))
          "payload" payloadDescription]
      else []) ++
        method.parameters.map fun parameter =>
          let declared := parameter.describe method.describe.tags
          entry (layout.types.translate (declared.type.getD ""))
            (match parameter.default with
              | none => parameter.name
              | some value => "[" ++ parameter.name ++ "=" ++ value.defaultLiteral ++ "]")
            declared.description := by
  have payload : (payloadParameter? method.describe.tags).toList.map layout.parameterBody =
      if method.describe.tags.contains "payload" then
        [entry (layout.types.translate (payloadType ((method.describe.tags.first? "payload").getD "")))
          "payload" payloadDescription]
      else [] := by
    unfold payloadParameter? TagMap.contains TagMap.first?
    cases method.describe.tags.get? "payload" with
    | none => rfl
    | some slot => rfl
  rw [routeBodies, List.map_append, payload]
  unfold Method.describe Method.describeWith
  rw [List.map_map]
  congr 1
  refine List.map_congr_left fun parameter _ => ?_
  rw [Function.comp_apply, parameterBody, parameterHead_describe]

theorem endsLine_parameterHead {parameter : Parameter} {tags : TagMap} (filled : parameter.name ≠ "")
    (clear : ∀ c ∈ parameter.name.toList, isBlank c = false ∧ c ≠ introducer)
    (default : ∀ text, parameter.default = .some (.string text) → introducer ∉ text.toList) :
    EndsLine (parameterHead (parameter.describe tags)).toList := by
  have name : Inline parameter.name.toList := by
    refine inline_of_not_mem (fun feed => ?_) fun sign => (clear _ sign).2 rfl
    exact absurd (clear _ feed).1 (by decide)
  rw [parameterHead_describe]
  split
  · exact name.endsLine (by simpa using filled) fun c listed => (clear c listed).1
  · rename_i value given
    have literal : Inline value.defaultLiteral.toList := inline_defaultLiteral fun text same =>
      default text (by rw [given, same])
    have opening : Inline "[".toList := inline_of_not_mem (by decide) (by decide)
    have mark : Inline "=".toList := inline_of_not_mem (by decide) (by decide)
    have closing : EndsLine "]".toList := endsLine_of_getLast? (by decide) (by decide) rfl (by decide)
    simp only [String.toList_append]
    exact (((opening.append name).append mark).append literal).append_endsLine closing

theorem legible_describe (templates : Templates) {method : Method}
    (names : ∀ parameter ∈ method.parameters,
      parameter.name ≠ "" ∧ ∀ c ∈ parameter.name.toList, isBlank c = false ∧ c ≠ introducer)
    (defaults : ∀ parameter ∈ method.parameters, ∀ text,
      parameter.default = some (.string text) → introducer ∉ text.toList)
    (apart : NamesApart method.doc) : Legible ⟨templates, .builtin⟩ method.describe where
  types _ inLine := inline_translate inLine
  tags _ _ listed := settled_of_mem_tags apart listed
  route := by
    intro routed listed
    obtain ⟨parameter, inMethod, rfl⟩ := List.mem_map.1 listed
    obtain ⟨filled, clear⟩ := names parameter inMethod
    have head : EndsLine (parameterHead (parameter.describe (DocBlock.tags method.doc))).toList :=
      endsLine_parameterHead filled clear (defaults parameter inMethod)
    have empty : Inline "".toList := inline_of_not_mem (by decide) (by decide)
    unfold Parameter.describe at head ⊢
    cases found : (DocBlock.tags method.doc).declaration? parameter.name with
    | none =>
      rw [found] at head
      exact ⟨empty, head, settled_nil⟩
    | some declaration =>
      rw [found] at head
      obtain ⟨body, inTags, rfl⟩ := declaration?_source found
      obtain ⟨type, -, said⟩ := (settled_of_mem_tags apart inTags).ofTag
      refine ⟨?_, head, said⟩
      rw [Option.bind_some, Declaration.type?]
      split
      · exact empty
      · exact type
  query := by
    intro query listed
    obtain ⟨body, inTags, rfl⟩ := List.mem_map.1 listed
    exact (settled_of_mem_tags apart inTags).ofTag

theorem inline_returnType (tags : TagMap) {typeName : String} (absent : introducer ∉ typeName.toList)
    (single : '\n' ∉ typeName.toList) : Inline (returnType tags typeName).toList := by
  unfold returnType
  split
  · exact inline_of_not_mem (by decide) (by decide)
  · rw [promiseName, String.toList_append]
    have ending : Inline "Promise".toList := inline_of_not_mem (by decide) (by decide)
    exact (inline_of_not_mem single absent).append ending

/-- Read as a documentation block, the comment of a method says again what the method's own block and its
parameters say: the description, what is returned, and the payload, the route's parameters, the fields of the
payload and the query in this order, and nothing else. Fields and single query parameters apart, the tags
stand for the parameters of the generated function, one by one. -/
theorem comment_reads_back (templates : Templates) (method : Method) (typeName : String)
    (names : ∀ parameter ∈ method.parameters,
      parameter.name ≠ "" ∧ ∀ c ∈ parameter.name.toList, isBlank c = false ∧ c ≠ introducer)
    (defaults : ∀ parameter ∈ method.parameters, ∀ text,
      parameter.default = some (.string text) → introducer ∉ text.toList)
    (apart : NamesApart method.doc) (absent : introducer ∉ typeName.toList)
    (single : '\n' ∉ typeName.toList) :
    let m := method.describe
    let read := tags (some ((⟨templates, .builtin⟩ : Layout).methodDoc m typeName).comment)
    let payload : List (String × String) :=
      if m.tags.contains "payload" then
        [("payload", entry (TypeTable.builtin.translate (payloadType ((m.tags.first? "payload").getD "")))
          "payload" payloadDescription)]
      else []
    let route := method.parameters.map fun parameter =>
      let declared := parameter.describe m.tags
      (parameter.name, entry (TypeTable.builtin.translate (declared.type.getD ""))
        (match parameter.default with
          | none => parameter.name
          | some value => "[" ++ parameter.name ++ "=" ++ value.defaultLiteral ++ "]")
        declared.description)
    let payloadFields := (fields m.tags "payload-field").map fun field =>
      entry (TypeTable.builtin.translate field.type) ("payload." ++ field.name) field.description
    let introduction : List (String × String) :=
      if m.query = [] then [] else [("queryParams", entry "Object" "[queryParams]" queryParamsDescription)]
    let queries := m.query.map fun query =>
      entry (TypeTable.builtin.translate query.type) ("[queryParams." ++ query.name ++ "]") query.description
    read.all "description" = [m.tags.description] ∧
    read.all "returns" = [braced (returnType m.tags typeName) ++ described (returnDescription m.tags)] ∧
    read.all "param" =
      (payload ++ route).map Prod.snd ++ payloadFields ++ introduction.map Prod.snd ++ queries ∧
    (∀ name ∈ read.slots.names, name = "description" ∨ name = "param" ∨ name = "returns") ∧
    (payload ++ route ++ introduction).map Prod.fst = m.formalNames := by
  intro m read payload route payloadFields introduction queries
  have legible : Legible ⟨templates, .builtin⟩ m := legible_describe templates names defaults apart
  have all := legible.all_comment (inline_returnType m.tags absent single)
  have payloadSaid : payload.map Prod.snd = if m.tags.contains "payload" then
      [entry (TypeTable.builtin.translate (payloadType ((m.tags.first? "payload").getD "")))
        "payload" payloadDescription]
      else [] := by
    unfold payload
    split
    · rfl
    · rfl
  have querySaid : introduction.map Prod.snd ++ queries = queryBodies ⟨templates, .builtin⟩ m := by
    unfold introduction queries queryBodies
    by_cases empty : m.query = []
    · rw [empty]
      rfl
    · rw [if_neg empty, if_neg empty]
      rfl
  have payloadNamed : payload.map Prod.fst = if m.tags.contains "payload" then ["payload"] else [] := by
    unfold payload
    split
    · rfl
    · rfl
  have queryNamed : introduction.map Prod.fst = if m.query = [] then [] else ["queryParams"] := by
    unfold introduction
    split
    · rfl
    · rfl
  have routeSaid : route.map Prod.snd = method.parameters.map fun parameter =>
      let declared := parameter.describe m.tags
      entry (TypeTable.builtin.translate (declared.type.getD ""))
        (match parameter.default with
          | none => parameter.name
          | some value => "[" ++ parameter.name ++ "=" ++ value.defaultLiteral ++ "]")
        declared.description := List.map_map ..
  have routeNamed : route.map Prod.fst = method.parameters.map Parameter.name := List.map_map ..
  refine ⟨all "description", all "returns", ?_, ?_, ?_⟩
  · refine (all "param").trans ?_
    rw [List.map_append, payloadSaid, routeSaid, List.append_assoc _ _ queries, querySaid,
      routeBodies_describe ⟨templates, .builtin⟩ method]
    exact List.append_nil _
  · intro name listed
    rw [TagMap.mem_names_iff, TagMap.contains_iff] at listed
    by_contra other
    rw [not_or, not_or] at other
    refine listed ((all name).trans ?_)
    simp [other.1, other.2.1, other.2.2]
  · rw [formalNames_describe fun parameter inMethod => (names parameter inMethod).1, List.map_append,
      List.map_append, payloadNamed, routeNamed, queryNamed]

/-- A method with a payload, a default, a query and declared output. -/
theorem comment_reads_back_of_documented_method :
    let doc := "/** Mail\n * a@b.c.\n * @param int $id key\n * @payload-field a its \x7b@link a\x7d" ++
      "\n * @payload\n * @query bool all\n * @output id:int\n * @return Item as\n * stored */"
    let method : Method := ⟨"postItem", false, some doc, [⟨"id", none⟩, ⟨"mode", some (.string "a b")⟩]⟩
    let read := tags (some (builtin.methodDoc method.describe "PostItem").comment)
    read.all "description" = ["Mail\na@b.c."] ∧
    read.all "returns" = ["\x7bPostItemPromise\x7d as\nstored"] ∧
    read.all "param" =
      ["\x7bObject\x7d payload Request body sent with the call.", "\x7bnumber\x7d id key",
        "\x7b*\x7d [mode='a b']", "\x7b*\x7d payload.a its \x7b@link a\x7d",
        "\x7bObject\x7d [queryParams] Query parameters encoded into the request URL.",
        "\x7bboolean\x7d [queryParams.all]"] ∧
    method.describe.formalNames = ["payload", "id", "mode", "queryParams"] := by
  intro doc method read
  have names : ∀ parameter ∈ method.parameters,
      parameter.name ≠ "" ∧ ∀ c ∈ parameter.name.toList, isBlank c = false ∧ c ≠ introducer := by
    intro parameter listed
    have clear : (method.parameters.all fun parameter => parameter.name != "" &&
        parameter.name.toList.all fun c => !isBlank c && c != introducer) = true := by decide +kernel
    simpa using List.all_eq_true.1 clear parameter listed
  have defaults : ∀ parameter ∈ method.parameters, ∀ text,
      parameter.default = some (.string text) → introducer ∉ text.toList := by
    intro parameter listed text given
    simp only [method, List.mem_cons, List.not_mem_nil, or_false] at listed
    rcases listed with rfl | rfl
    · cases given
    · cases given
      decide
  obtain ⟨description, returns, params, -, formal⟩ :=
    comment_reads_back .builtin method "PostItem" names defaults (by decide +kernel) (by decide +kernel)
      (by decide +kernel)
  have source : ∀ method : Method, method.describe.tags = tags method.doc := fun _ => rfl
  have asked : ∀ method : Method, method.describe.query = (tags method.doc).queryParameters := fun _ => rfl
  have held : tags method.doc =
      ⟨[("description", .single "Mail\na@b.c."), ("output", .single "id:int"),
        ("param", .single "int $id key"), ("payload", .single ""), ("payload-field", .single "a its \x7b@link a\x7d"),
        ("query", .single "bool all"), ("returns", .single "Item as\nstored")]⟩ := by
    decide +kernel
  rw [source, held] at description returns
  rw [asked, source, held] at params formal
  refine ⟨description.trans ?_, returns.trans ?_, params.trans ?_, formal.symm.trans ?_⟩
  · decide +kernel
  · decide +kernel
  · decide +kernel
  · decide +kernel

end ClientStub.Layout
