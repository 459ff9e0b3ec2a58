import ClientStub.Description
import ClientStub.Proofs.Declaration
import ClientStub.Proofs.DocBlock.Tags
import ClientStub.Proofs.Stub.Placeholders
import ClientStub.Proofs.Stub.ReturnType

/-!
# Query parameters and their names

Every tag of the query makes a parameter, whose name is the second word of the tag's body. Where a body has no
second word the parameter has no name, and still takes its place: the URL gets a pair without a key, and the
call a value that asks the query for no member. Fields without a name never come so far.
-/

namespace ClientStub

open ClientStub.Text ClientStub.DocBlock

/-- What the body of a tag says of a parameter of the query. -/
def QueryParameter.ofTag (body : String) : QueryParameter :=
  ⟨(Declaration.ofTag body).name, (Declaration.ofTag body).type, (Declaration.ofTag body).description⟩

/-- What the tags of the query say in a method's block, in the order of the block. -/
def Method.queryBodies (method : Method) : List String := bodiesOf (spans (blockText method.doc)) "query"

/-- Every tag of the query has a type and a name in its body. -/
def Method.NamesQuery (method : Method) : Prop := ∀ body ∈ method.queryBodies, 2 ≤ (words body.toList).length

theorem query_describe (method : Method) :
    method.describe.query = method.queryBodies.map QueryParameter.ofTag := by
  have other : "query" ≠ TagMap.descriptionName := by decide
  rw [Method.queryBodies, ← all_tags_of_ne other]
  rfl

theorem type_ofTag (body : String) :
    (Declaration.ofTag body).type = String.ofList ((words body.toList)[0]?.getD []) := by
  rw [← List.head?_eq_getElem?, head?_words]
  rfl

theorem namesQuery_iff_name_ne_empty (method : Method) :
    method.NamesQuery ↔ ∀ parameter ∈ method.describe.query, parameter.name ≠ "" := by
  rw [query_describe, List.forall_mem_map]
  exact forall₂_congr fun body _ => (name_ofTag_ne_empty_iff body).symm

theorem query_describe_eq_filter_iff (method : Method) :
    method.describe.query =
      (method.queryBodies.filter fun body => 2 ≤ (words body.toList).length).map QueryParameter.ofTag ↔
        method.NamesQuery := by
  rw [query_describe]
  constructor
  · intro same
    -- Nothing can have been left out, for the number of parameters is that of the bodies.
    have count := congrArg List.length same
    rw [List.length_map, List.length_map] at count
    simpa [Method.NamesQuery] using List.length_filter_eq_length_iff.1 count.symm
  · intro named
    have whole : (method.queryBodies.filter fun body => 2 ≤ (words body.toList).length) = method.queryBodies :=
      List.filter_eq_self.2 fun body listed => decide_eq_true (named body listed)
    rw [whole]

namespace MethodDescriptor

variable {method : MethodDescriptor}

/-- The values that the call takes from the query. -/
theorem drop_placeholderValues :
    method.placeholderValues.drop method.route.length =
      method.query.map fun parameter => "queryParams." ++ parameter.name := by
  have front : (method.route.map RouteParameter.name).length = method.route.length := List.length_map _
  rw [placeholderValues, ← front, List.drop_left]
  rfl

theorem keys_named_iff :
    (∀ pair ∈ method.placeholders.query, pair.1 ≠ "") ↔ ∀ parameter ∈ method.query, parameter.name ≠ "" := by
  have keys : (∀ pair ∈ method.placeholders.query, pair.1 ≠ "") ↔
      ∀ name ∈ method.placeholders.query.map Prod.fst, name ≠ "" := by
    rw [List.forall_mem_map]
  rw [keys, names_placeholders, List.forall_mem_map]

theorem members_named_iff :
    (∀ value ∈ method.placeholderValues.drop method.route.length, value ≠ "queryParams.") ↔
      ∀ parameter ∈ method.query, parameter.name ≠ "" := by
  rw [drop_placeholderValues, List.forall_mem_map]
  refine forall₂_congr fun parameter _ => ?_
  rw [ne_eq, String.append_eq_left_iff]

/-- What a parameter without a name leaves in the generated code: a pair of the URL has no key, and a value of the
call asks the query for no member. -/
structure MissesName (method : MethodDescriptor) (base : String) : Prop where
  pair : ∃ mark ∈ ["?", "&"], ∃ front behind, method.url base = front ++ mark ++ "=:" ++ behind
  value : ∃ mark ∈ [", ", "]"], ∃ front behind,
    method.remoteArguments = front ++ "queryParams." ++ mark ++ behind

theorem url_of_nameless (nameless : ∃ parameter ∈ method.query, parameter.name = "") (base : String) :
    ∃ mark ∈ ["?", "&"], ∃ front behind, method.url base = front ++ mark ++ "=:" ++ behind := by
  obtain ⟨position, listed⟩ : ∃ position, ("", position) ∈ method.placeholders.query := by
    obtain ⟨parameter, inQuery, empty⟩ := nameless
    have key : "" ∈ method.placeholders.query.map Prod.fst := by
      rw [names_placeholders, ← empty]
      exact List.mem_map_of_mem inQuery
    obtain ⟨⟨_, position⟩, listed, rfl⟩ := List.mem_map.1 key
    exact ⟨position, listed⟩
  obtain ⟨start, query⟩ : ∃ start, method.url base = start ++ method.placeholders.queryText :=
    ⟨_, by rw [url_eq, Placeholders.text, ← String.append_assoc]⟩
  obtain ⟨front, behind, source, begun, -⟩ :=
    join_of_mem "&" (List.mem_map_of_mem (f := Placeholders.pairText) listed)
  rw [query, Placeholders.queryText, if_neg (List.ne_nil_of_mem listed), source, Placeholders.pairText,
    String.empty_append]
  rcases begun with rfl | ⟨before, rfl⟩
  · refine ⟨"?", by simp, start, toString position ++ behind, ?_⟩
    simp only [String.append_assoc, String.empty_append]
  · refine ⟨"&", by simp, start ++ "?" ++ before, toString position ++ behind, ?_⟩
    simp only [String.append_assoc]

theorem remoteArguments_of_nameless (nameless : ∃ parameter ∈ method.query, parameter.name = "") :
    ∃ mark ∈ [", ", "]"], ∃ front behind,
      method.remoteArguments = front ++ "queryParams." ++ mark ++ behind := by
  have listed : "queryParams." ∈ method.placeholderValues := by
    obtain ⟨parameter, inQuery, empty⟩ := nameless
    have value : "queryParams." ++ parameter.name ∈ method.placeholderValues.drop method.route.length := by
      rw [drop_placeholderValues]
      exact List.mem_map_of_mem inQuery
    rw [empty, String.append_empty] at value
    exact List.mem_of_mem_drop value
  obtain ⟨front, behind, source, -, ended⟩ := join_of_mem ", " listed
  rw [remoteArguments_eq, if_neg (List.ne_nil_of_mem listed), source]
  rcases ended with rfl | ⟨after, rfl⟩
  · refine ⟨"]", by simp, "[" ++ front, method.payloadArgument, ?_⟩
    simp only [String.append_assoc, String.empty_append]
  · refine ⟨", ", by simp, "[" ++ front, after ++ "]" ++ method.payloadArgument, ?_⟩
    simp only [String.append_assoc]

theorem missesName_of_nameless (nameless : ∃ parameter ∈ method.query, parameter.name = "") (base : String) :
    method.MissesName base :=
  ⟨url_of_nameless nameless base, remoteArguments_of_nameless nameless⟩

end MethodDescriptor

/-- The parameters of a query are the declarations of its tags, in their order, with or without a name. All have
names exactly if every body has a second word, and then they are the same as without the bodies of fewer words;
then every pair of the URL's query has a key, and every value that the call takes from the query asks for a
member. Otherwise the code has a pair and a value without a name. Fields that are declared without a name are
always left out. -/
theorem query_parameters_named_iff (method : Method) (base : String) :
    let descriptor := method.describe
    let word (i : Nat) (body : String) : String := String.ofList ((words body.toList)[i]?.getD [])
    let values := descriptor.placeholderValues
    descriptor.query.map (fun parameter => (parameter.type, parameter.name)) =
      method.queryBodies.map (fun body => (word 0 body, word 1 body)) ∧
    ((∀ parameter ∈ descriptor.query, parameter.name ≠ "") ↔ method.NamesQuery) ∧
    (descriptor.query =
      (method.queryBodies.filter fun body => 2 ≤ (words body.toList).length).map QueryParameter.ofTag ↔
        method.NamesQuery) ∧
    descriptor.url base = String.ofList (dropEndWhile (· = '/') base.toList) ++ descriptor.segmentPath ++
      descriptor.placeholders.text ∧
    ((∀ pair ∈ descriptor.placeholders.query, pair.1 ≠ "") ↔ method.NamesQuery) ∧
    (values = [] ∨
      descriptor.remoteArguments = "[" ++ join ", " values ++ "]" ++ descriptor.payloadArgument) ∧
    ((∀ value ∈ values.drop method.parameters.length, value ≠ "queryParams.") ↔ method.NamesQuery) ∧
    (method.NamesQuery ∨ descriptor.MissesName base) ∧
    ∀ tag, ∀ field ∈ Layout.fields descriptor.tags tag, field.name ≠ "" := by
  intro descriptor word values
  have named := namesQuery_iff_name_ne_empty method
  have count : descriptor.route.length = method.parameters.length := List.length_map _
  refine ⟨?_, named.symm, query_describe_eq_filter_iff method, MethodDescriptor.url_eq descriptor base,
    MethodDescriptor.keys_named_iff.trans named.symm, ?_, ?_, ?_, ?_⟩
  · rw [query_describe, List.map_map]
    exact List.map_congr_left fun body _ => Prod.ext (type_ofTag body) (name_ofTag body)
  · by_cases empty : values = []
    · exact .inl empty
    · exact .inr ((MethodDescriptor.remoteArguments_eq descriptor).trans (if_neg empty))
  · rw [← count]
    exact MethodDescriptor.members_named_iff.trans named.symm
  · by_cases all : method.NamesQuery
    · exact .inl all
    · rw [named] at all
      push Not at all
      exact .inr (MethodDescriptor.missesName_of_nameless all base)
  · intro tag field listed
    exact bne_iff_ne.1 (List.mem_filter.1 listed).2

/-- A query declared by a type alone: its parameter has no name, and the call asks the query for no member. -/
theorem member_missing_of_nameless_query :
    let method : Method := ⟨"getItems", false, some "/**\n * @api\n * @query string\n */", []⟩
    let descriptor := method.describe
    method.queryBodies = ["string"] ∧
    descriptor.query = [⟨"", "string", ""⟩] ∧
    descriptor.url "/api" = "/api/items?=:0" ∧
    descriptor.remoteArguments = "[queryParams.]" ∧
    ¬ ∀ parameter ∈ descriptor.query, parameter.name ≠ "" := by
  intro method descriptor
  have declared : descriptor.query = [⟨"", "string", ""⟩] := by decide
  refine ⟨by decide, declared, by decide, by decide, ?_⟩
  rw [declared]
  decide

end ClientStub
