import ClientStub.Proofs.DocComment.Closing
import ClientStub.Proofs.Stub.CommentMarks
import ClientStub.Proofs.Stub.MethodText
import ClientStub.Proofs.Stub.Placeholders

/-!
# Carriage returns

A stub has a carriage return only if a text of its descriptor, the base of its URL or the name of a type has
one. Neither the templates nor a change of case bring any.
-/

namespace ClientStub

open ClientStub.Text

/-- The bodies under all names. -/
def TagMap.bodies (tags : TagMap) : List String := tags.slots.flatMap fun entry => entry.2.all

def RouteParameter.texts (parameter : RouteParameter) : List String :=
  [parameter.name, parameter.description] ++ parameter.type.toList ++ parameter.default.toList

def QueryParameter.texts (parameter : QueryParameter) : List String :=
  [parameter.name, parameter.type, parameter.description]

def MethodDescriptor.texts (method : MethodDescriptor) : List String :=
  [method.serverName, method.clientName] ++ method.route.flatMap RouteParameter.texts ++
    method.query.flatMap QueryParameter.texts ++ method.tags.bodies

def ClassDescriptor.texts (descriptor : ClassDescriptor) : List String :=
  descriptor.description :: descriptor.methods.flatMap MethodDescriptor.texts

theorem TagMap.mem_bodies_of_mem_all {tags : TagMap} {name body : String} (listed : body ∈ tags.all name) :
    body ∈ tags.bodies := by
  unfold TagMap.all at listed
  cases found : tags.get? name with
  | none => simp [found] at listed
  | some slot =>
    rw [found] at listed
    obtain ⟨front, behind, source, -⟩ := List.lookup_eq_some_iff.1 found
    exact List.mem_flatMap.2 ⟨(name, slot), by simp [source], listed⟩

/-- A text that has no carriage return. -/
def Returnless (text : String) : Prop := '\r' ∉ text.toList

instance (text : String) : Decidable (Returnless text) := inferInstanceAs (Decidable (¬ _))

theorem returnless_iff_lacks {text : String} : Returnless text ↔ Lacks ['\r'] text.toList :=
  lacks_singleton_iff.symm

theorem returnless_append {front behind : String} :
    Returnless (front ++ behind) ↔ Returnless front ∧ Returnless behind := by
  rw [Returnless, String.toList_append, List.mem_append, not_or]
  rfl

theorem returnless_join {separator : String} {texts : List String} (between : Returnless separator)
    (each : ∀ text ∈ texts, Returnless text) : Returnless (join separator texts) := by
  intro listed
  rcases mem_join listed with inSeparator | ⟨text, inTexts, inText⟩
  · exact between inSeparator
  · exact each text inTexts inText

/-- Snake case has the characters of the name, and others from the capital letters on. -/
theorem mem_snakeFrom {closed afterLower : Bool} {name : List Char} {d : Char}
    (listed : d ∈ snakeFrom closed afterLower name) : d ∈ name ∨ 'A' ≤ d := by
  have underscore : 'A' ≤ '_' := by decide
  induction name generalizing closed afterLower with
  | nil => cases listed
  | cons c rest ih =>
    have behind {closed afterLower : Bool} (inRest : d ∈ snakeFrom closed afterLower rest) :
        d ∈ c :: rest ∨ 'A' ≤ d := (ih inRest).imp_left (List.mem_cons_of_mem c)
    rw [snakeFrom] at listed
    split at listed
    · rw [List.mem_append, List.mem_append] at listed
      rcases listed with (opening | lower) | inRest
      · split at opening
        · exact .inr (List.mem_singleton.1 opening ▸ underscore)
        · cases opening
      · rcases mem_toLowercase lower with rfl | high
        · exact .inl List.mem_cons_self
        · exact .inr high
      · exact behind inRest
    · split at listed
      · rcases List.mem_cons.1 listed with rfl | inRest
        · exact .inl List.mem_cons_self
        · exact behind inRest
      · split at listed
        · rcases List.mem_append.1 listed with opening | inRest
          · split at opening
            · cases opening
            · exact .inr (List.mem_singleton.1 opening ▸ underscore)
          · exact behind inRest
        · exact behind listed

theorem returnless_kebabCase {name : String} (clear : Returnless name) : Returnless (kebabCase name) := by
  intro listed
  rw [kebabCase, String.toList_ofList] at listed
  obtain ⟨c, inSnake, same⟩ := List.mem_map.1 listed
  have inName : c ∈ snakeFrom true false name.toList :=
    List.mem_reverse.1 ((List.dropWhile_sublist _).mem (List.mem_reverse.1 inSnake))
  split at same
  · cases same
  · subst same
    rcases mem_snakeFrom inName with inName | high
    · exact clear inName
    · exact absurd high (by decide)

theorem returnless_strip {name : String} (clear : Returnless name) : Returnless (Verb.strip name) := by
  unfold Verb.strip
  split
  · intro listed
    rw [Verb.afterLeadingWord, String.toList_ofList] at listed
    exact clear ((List.dropWhile_sublist _).mem listed)
  · exact clear

namespace MethodDescriptor

variable {method : MethodDescriptor} (clear : ∀ text ∈ method.texts, Returnless text)

include clear

theorem returnless_serverName : Returnless method.serverName :=
  clear _ (by simp [texts])

theorem returnless_clientName : Returnless method.clientName :=
  clear _ (by simp [texts])

theorem returnless_route {parameter : RouteParameter} (listed : parameter ∈ method.route) :
    ∀ text ∈ parameter.texts, Returnless text := by
  intro text inTexts
  refine clear text ?_
  simp only [texts, List.mem_append, List.mem_flatMap]
  exact .inl (.inl (.inr ⟨parameter, listed, inTexts⟩))

theorem returnless_query {parameter : QueryParameter} (listed : parameter ∈ method.query) :
    ∀ text ∈ parameter.texts, Returnless text := by
  intro text inTexts
  refine clear text ?_
  simp only [texts, List.mem_append, List.mem_flatMap]
  exact .inl (.inr ⟨parameter, listed, inTexts⟩)

theorem returnless_tags {name body : String} (listed : body ∈ method.tags.all name) : Returnless body := by
  refine clear body ?_
  simp only [texts, List.mem_append]
  exact .inr (TagMap.mem_bodies_of_mem_all listed)

theorem returnless_routeName {parameter : RouteParameter} (listed : parameter ∈ method.route) :
    Returnless parameter.name :=
  returnless_route clear listed _ (by simp [RouteParameter.texts])

theorem returnless_queryName {parameter : QueryParameter} (listed : parameter ∈ method.query) :
    Returnless parameter.name :=
  returnless_query clear listed _ (by simp [QueryParameter.texts])

theorem returnless_formalArguments : Returnless method.formalArguments := by
  refine returnless_join (by decide) ?_
  intro name listed
  have among := (List.mem_filter.1 listed).1
  rw [List.mem_append, List.mem_append] at among
  rcases among with (payload | route) | query
  · split at payload
    · rw [List.mem_singleton.1 payload]
      decide
    · cases payload
  · obtain ⟨parameter, inRoute, rfl⟩ := List.mem_map.1 route
    exact returnless_routeName clear inRoute
  · split at query
    · cases query
    · rw [List.mem_singleton.1 query]
      decide

theorem returnless_remoteArguments : Returnless method.remoteArguments := by
  have values : ∀ value ∈ method.placeholderValues, Returnless value := by
    unfold placeholderValues
    rw [List.forall_mem_append, List.forall_mem_map, List.forall_mem_map]
    constructor
    · exact fun parameter inRoute => returnless_routeName clear inRoute
    · intro parameter inQuery
      rw [returnless_append, returnless_append]
      exact ⟨by decide, returnless_queryName clear inQuery⟩
  refine returnless_join (by decide) ?_
  unfold remoteArgumentList
  dsimp only
  rw [List.forall_mem_append]
  constructor
  · split
    · simp
    · rw [List.forall_mem_singleton, returnless_append, returnless_append]
      exact ⟨⟨by decide, returnless_join (by decide) values⟩, by decide⟩
  · split
    · rw [List.forall_mem_append, List.forall_mem_singleton]
      refine ⟨?_, by decide⟩
      split
      · rw [List.forall_mem_singleton]
        decide
      · simp
    · simp

theorem returnless_segmentPath : Returnless method.segmentPath := by
  unfold segmentPath
  split
  · decide
  · rw [returnless_append]
    exact ⟨by decide, returnless_kebabCase (returnless_strip (returnless_serverName clear))⟩

theorem returnless_queryPath : Returnless method.queryPath := by
  unfold queryPath
  split
  · decide
  · rw [returnless_append]
    refine ⟨by decide, returnless_join (by decide) ?_⟩
    intro pair listed
    obtain ⟨i, bound, rfl⟩ := List.mem_mapIdx.1 listed
    rw [returnless_append, returnless_append]
    refine ⟨⟨returnless_queryName clear (List.getElem_mem bound), by decide⟩, fun inNumber => ?_⟩
    exact absurd (Placeholders.isDigit_of_mem_toString inNumber) (by decide)

theorem returnless_url {base : String} (clearBase : Returnless base) : Returnless (method.url base) := by
  have parts : method.url base =
      String.ofList (dropEndWhile (· = '/') base.toList) ++ method.segmentPath ++ method.routePath ++
        method.queryPath := rfl
  rw [parts, returnless_append, returnless_append, returnless_append]
  refine ⟨⟨⟨?_, returnless_segmentPath clear⟩, ?_⟩, returnless_queryPath clear⟩
  · intro listed
    rw [String.toList_ofList] at listed
    exact clearBase (List.mem_reverse.1 ((List.dropWhile_sublist _).mem (List.mem_reverse.1 listed)))
  · intro listed
    rw [routePath, String.toList_join, List.flatMap_map, List.mem_flatMap] at listed
    obtain ⟨parameter, inRoute, inPart⟩ := listed
    have part : Returnless ("/:" ++ parameter.name) :=
      returnless_append.2 ⟨by decide, returnless_routeName clear inRoute⟩
    exact part inPart

theorem returnless_callArguments {base : String} (clearBase : Returnless base) :
    Returnless (method.callArguments base) := by
  have url := returnless_url clear clearBase
  unfold callArguments urlLiteral
  rw [returnless_append, returnless_append, returnless_append]
  refine ⟨⟨⟨by decide, fun listed => ?_⟩, by decide⟩, ?_⟩
  · rw [String.toList_ofList, List.mem_flatMap] at listed
    obtain ⟨c, inUrl, escaped⟩ := listed
    split at escaped
    · exact absurd escaped (by decide)
    · exact url (List.mem_singleton.1 escaped ▸ inUrl)
  · split
    · decide
    · rw [returnless_append]
      exact ⟨by decide, returnless_remoteArguments clear⟩

end MethodDescriptor

namespace Layout

variable {types : TypeTable} {method : MethodDescriptor} {base : String}

theorem returnless_translate (named : ∀ entry ∈ types.names, Returnless entry.2) {type : String}
    (clear : Returnless type) : Returnless (types.translate type) := by
  unfold TypeTable.translate
  split
  · decide
  · cases found : types.names.get? type with
    | none => exact clear
    | some name =>
      obtain ⟨front, behind, source, -⟩ := List.lookup_eq_some_iff.1 found
      exact named (type, name) (by simp [source])

theorem unmarked_return (named : ∀ entry ∈ types.names, Returnless entry.2)
    (clear : ∀ text ∈ method.texts, Returnless text) :
    (⟨.builtin, types⟩ : Layout).Unmarked ['\r'] method where
  types _ lacks := returnless_iff_lacks.1 (returnless_translate named (returnless_iff_lacks.2 lacks))
  clientName := returnless_iff_lacks.1 (method.returnless_clientName clear)
  tags _ _ listed := returnless_iff_lacks.1 (method.returnless_tags clear listed)
  route := by
    intro parameter listed
    have said := method.returnless_route clear listed
    refine ⟨?_, returnless_iff_lacks.1 (said _ (by simp [RouteParameter.texts]))⟩
    cases given : parameter.type with
    | none => exact lacks_nil (by simp)
    | some type => exact returnless_iff_lacks.1 (said type (by simp [RouteParameter.texts, given]))
  query := by
    intro query listed
    have said := method.returnless_query clear listed
    refine ⟨?_, ?_, ?_⟩
    · exact returnless_iff_lacks.1 (said _ (by simp [QueryParameter.texts]))
    · exact returnless_iff_lacks.1 (said _ (by simp [QueryParameter.texts]))
    · exact returnless_iff_lacks.1 (said _ (by simp [QueryParameter.texts]))

theorem returnless_parameterHead {parameter : RouteParameter} (clear : ∀ text ∈ parameter.texts, Returnless text) :
    Returnless (parameterHead parameter) := by
  have name : Returnless parameter.name := clear _ (by simp [RouteParameter.texts])
  unfold parameterHead
  split
  · exact name
  · split
    · rename_i default given
      have literal : Returnless default := clear default (by simp [RouteParameter.texts, given])
      simp only [returnless_append]
      exact ⟨⟨⟨⟨by decide, name⟩, by decide⟩, literal⟩, by decide⟩
    · simp only [returnless_append]
      exact ⟨⟨by decide, name⟩, by decide⟩

theorem returnless_line {text : String} (clear : Returnless text) : Returnless (DocComment.line text) := by
  rw [returnless_iff_lacks, DocComment.line, String.toList_ofList, lacks_joinLines_iff (by simp) (by decide),
    List.forall_mem_map]
  intro line listed
  rw [DocComment.lacks_starred_iff (by simp) (by decide) (by decide)]
  exact DocComment.lacks_physicalLines (by simp) (returnless_iff_lacks.1 clear) line listed

theorem returnless_comment (named : ∀ entry ∈ types.names, Returnless entry.2)
    (clear : ∀ text ∈ method.texts, Returnless text) :
    Returnless ((⟨.builtin, types⟩ : Layout).methodDoc method (typeName method)).comment := by
  have logical := ((unmarked_return named clear).commentLines_iff mark_return).2 fun parameter listed =>
    returnless_iff_lacks.1 (returnless_parameterHead (method.returnless_route clear listed))
  have physical := DocComment.lacks_starredLines (by simp) (by decide) (by decide) logical
  rw [returnless_iff_lacks, methodDoc, DocComment.toList_block_eq_joinLines,
    lacks_joinLines_iff (by simp) (by decide), List.forall_mem_cons, List.forall_mem_append,
    List.forall_mem_singleton]
  exact ⟨by decide, physical, by decide⟩

theorem returnless_typeName (clear : ∀ text ∈ method.texts, Returnless text) : Returnless (typeName method) :=
  returnless_iff_lacks.2
    (lacks_upperFirst mark_return (returnless_iff_lacks.1 (method.returnless_clientName clear)))

theorem returnless_functionText (named : ∀ entry ∈ types.names, Returnless entry.2)
    (clear : ∀ text ∈ method.texts, Returnless text) (clearBase : Returnless base) :
    Returnless ((⟨.builtin, types⟩ : Layout).functionText method base) := by
  have prelude : Returnless (prelude method) := by
    unfold Layout.prelude
    split
    · decide
    · decide
  have typecast : Returnless (typecast method.tags (typeName method)) := by
    unfold Layout.typecast braced promiseName
    split
    · decide
    · simp only [returnless_append]
      exact ⟨⟨by decide, ⟨by decide, returnless_typeName clear, by decide⟩, by decide⟩, by decide⟩
  have verb : Returnless method.verb.name := by
    cases method.verb with
    | get | post | put | delete => decide
  unfold functionText
  dsimp only
  simp only [returnless_append, and_assoc]
  exact ⟨returnless_comment named clear, by decide, method.returnless_clientName clear, by decide,
    method.returnless_formalArguments clear, by decide, prelude, by decide, typecast, by decide, verb, by decide,
    method.returnless_callArguments clear clearBase, by decide⟩

theorem returnless_outputTypes? (named : ∀ entry ∈ types.names, Returnless entry.2)
    (clear : ∀ text ∈ method.texts, Returnless text) {block : String}
    (given : (⟨.builtin, types⟩ : Layout).outputTypes? method.tags (typeName method) = some block) :
    Returnless block := by
  have property : ∀ field ∈ fields method.tags "output",
      Returnless (DocComment.line ("@property \x7b" ++ types.translate field.type ++ "\x7d " ++ field.name
        ++ described field.description)) := by
    intro field declared
    obtain ⟨body, inTags, rfl⟩ := List.mem_map.1 (List.mem_filter.1 declared).1
    obtain ⟨type, name, description⟩ := DocBlock.isInfix_ofField body
    have lacks := returnless_iff_lacks.1 (method.returnless_tags clear inTags)
    have said : Returnless (described (Declaration.ofField body).description) := by
      unfold described
      split
      · decide
      · rw [returnless_append]
        exact ⟨by decide, returnless_iff_lacks.2 (lacks.of_isInfix description)⟩
    refine returnless_line ?_
    simp only [returnless_append]
    exact ⟨⟨⟨⟨by decide, returnless_translate named (returnless_iff_lacks.2 (lacks.of_isInfix type))⟩, by decide⟩,
      returnless_iff_lacks.2 (lacks.of_isInfix name)⟩, said⟩
  rw [outputTypes?_eq] at given
  split at given
  · cases given
  · obtain rfl := Option.some.inj given
    have properties := @returnless_join "\n" _ (by decide) (List.forall_mem_map.2 property)
    simp only [returnless_append, and_assoc]
    exact ⟨by decide, returnless_typeName clear, by decide, properties, by decide, returnless_typeName clear,
      by decide, returnless_typeName clear, by decide⟩

theorem returnless_methodStub (named : ∀ entry ∈ types.names, Returnless entry.2)
    (clear : ∀ text ∈ method.texts, Returnless text) (clearBase : Returnless base) :
    Returnless ((⟨.builtin, types⟩ : Layout).methodStub method base) := by
  rw [methodStub_eq_functionText, returnless_append]
  refine ⟨returnless_functionText named clear clearBase, ?_⟩
  cases given : (⟨.builtin, types⟩ : Layout).outputTypes? method.tags (typeName method) with
  | none => decide
  | some block =>
    rw [returnless_append]
    exact ⟨by decide, returnless_outputTypes? named clear given⟩

end Layout

end ClientStub
