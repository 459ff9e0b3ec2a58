import ClientStub.Description
import ClientStub.Proofs.Stub.Arguments
import ClientStub.Proofs.TagMap
import Mathlib.Data.List.Nodup

/-!
# The parameters of the generated function

The generated function has the parameters of its method, and one for the request body and one for the query
where tags ask for them. These two have fixed names. A parameter of the method that has the same name takes the
place of the other, so that the argument passed for one of them is lost.
-/

namespace ClientStub

open ClientStub.Text

/-- The argument that a name stands for in a function with the given parameters: the last one passed for it. -/
def argument? (formal passed : List String) (name : String) : Option String :=
  (formal.zip passed).reverse.lookup name

theorem getElem?_zip_of_length_eq {formal passed : List String} (count : passed.length = formal.length) {i : Nat}
    {name : String} (found : formal[i]? = some name) :
    ∃ value, passed[i]? = some value ∧ (formal.zip passed)[i]? = some (name, value) := by
  obtain ⟨bound, same⟩ := List.getElem?_eq_some_iff.1 found
  obtain ⟨value, given⟩ : ∃ value, passed[i]? = some value := ⟨_, List.getElem?_eq_getElem (count ▸ bound)⟩
  exact ⟨value, given, List.getElem?_zip_eq_some.2 ⟨found, given⟩⟩

/-- Parameters are distinct exactly if every argument is what the name of its parameter stands for. -/
theorem nodup_iff_argument? {formal : List String} :
    formal.Nodup ↔ ∀ passed : List String, passed.length = formal.length →
      ∀ (i : Nat) (name : String), formal[i]? = some name → argument? formal passed name = passed[i]? := by
  constructor
  · intro distinct passed count i name found
    obtain ⟨value, given, paired⟩ := getElem?_zip_of_length_eq count found
    obtain ⟨front, behind, source⟩ := List.append_of_mem (List.mem_reverse.2 (List.mem_of_getElem? paired))
    have names : ((formal.zip passed).reverse.map Prod.fst).Nodup := by
      rw [List.map_reverse, List.nodup_reverse, List.map_fst_zip (Nat.le_of_eq count.symm)]
      exact distinct
    rw [given, argument?, List.lookup_eq_some_iff]
    refine ⟨front, behind, source, fun pair inFront => ?_⟩
    rw [source, List.map_append, List.map_cons, List.nodup_append] at names
    exact bne_iff_ne.2 (names.2.2 pair.1 (List.mem_map_of_mem inFront) name List.mem_cons_self).symm
  · intro reaches
    refine List.nodup_iff_getElem?_ne_getElem?.2 fun i j less bound same => ?_
    -- Two arguments that differ cannot both be what one name stands for.
    let passed := (List.replicate formal.length "").set i "first"
    have count : passed.length = formal.length := by simp [passed]
    have found : formal[j]? = some formal[j] := List.getElem?_eq_getElem bound
    have first := reaches passed count i _ (same.trans found)
    have second := reaches passed count j _ found
    have differ : passed[i]? ≠ passed[j]? := by
      have begun : passed[i]? = some "first" := List.getElem?_set_self (by simpa using Nat.lt_trans less bound)
      have later : passed[j]? = some "" := by
        rw [List.getElem?_set_ne (Nat.ne_of_lt less), List.getElem?_replicate_of_lt bound]
      rw [begun, later]
      decide
    exact differ (first.symm.trans second)

/-- The parameters of the generated function all have names. -/
theorem formalNames_describe {method : Method}
    (names : ∀ parameter ∈ method.parameters, parameter.name ≠ "") :
    method.describe.formalNames =
      (if method.describe.tags.contains "payload" then ["payload"] else []) ++
        method.parameters.map Parameter.name ++
        if method.describe.query = [] then [] else ["queryParams"] := by
  have route : method.describe.route.map RouteParameter.name = method.parameters.map Parameter.name := by
    unfold Method.describe Method.describeWith
    rw [List.map_map]
    rfl
  have named : ∀ parameter ∈ method.describe.route, parameter.name ≠ "" := by
    intro parameter listed
    obtain ⟨source, inMethod, same⟩ := List.mem_map.1 (route ▸ List.mem_map_of_mem listed)
    exact same ▸ names source inMethod
  rw [MethodDescriptor.formalNames_eq named, route]
  rfl

/-- No parameter of a method has the name of one that its tags add. -/
def Method.NamesApart (method : Method) : Prop :=
  (method.describe.tags.contains "payload" = true → "payload" ∉ method.parameters.map Parameter.name) ∧
    (method.describe.tags.contains "query" = true → "queryParams" ∉ method.parameters.map Parameter.name)

theorem query_describe_eq_nil_iff (method : Method) :
    method.describe.query = [] ↔ method.describe.tags.contains "query" = false := by
  rw [← Bool.not_eq_true, TagMap.contains_iff, not_not]
  exact List.map_eq_nil_iff

theorem listedNames_formalArguments_describe {method : Method}
    (plain : ∀ parameter ∈ method.parameters, parameter.name ≠ "" ∧ ',' ∉ parameter.name.toList) :
    listedNames method.describe.formalArguments.toList =
      (if method.describe.tags.contains "payload" then ["payload"] else []) ++
        method.parameters.map Parameter.name ++
        if method.describe.tags.contains "query" then ["queryParams"] else [] := by
  have absent : ∀ parameter ∈ method.describe.route, ',' ∉ parameter.name.toList := by
    intro parameter listed
    obtain ⟨source, inMethod, rfl⟩ := List.mem_map.1 listed
    exact (plain source inMethod).2
  rw [MethodDescriptor.listedNames_formalArguments_of_not_mem absent,
    formalNames_describe fun parameter listed => (plain parameter listed).1]
  simp only [query_describe_eq_nil_iff, ← Bool.not_eq_true, ite_not]

theorem nodup_around_iff {names : List String} (distinct : names.Nodup) (payload query : Bool) :
    ((if payload then ["payload"] else []) ++ names ++ if query then ["queryParams"] else []).Nodup ↔
      (payload = true → "payload" ∉ names) ∧ (query = true → "queryParams" ∉ names) := by
  have added : "payload" ≠ "queryParams" := by decide
  cases payload with
  | false =>
    cases query with
    | false => simpa using distinct
    | true => simp [List.nodup_append', distinct]
  | true =>
    cases query with
    | false => simp [distinct]
    | true => simp [List.nodup_append', distinct]

/-- Without commas in its parameters' names, a method's generated function has them between the names that tags
add. All are distinct, and every argument is what the name of its parameter stands for, exactly if no parameter
has the name of an added one. -/
theorem formal_parameters_distinct_iff (method : Method)
    (plain : ∀ parameter ∈ method.parameters, parameter.name ≠ "" ∧ ',' ∉ parameter.name.toList)
    (distinct : (method.parameters.map Parameter.name).Nodup) :
    let formal := listedNames method.describe.formalArguments.toList
    formal = (if method.describe.tags.contains "payload" then ["payload"] else []) ++
      method.parameters.map Parameter.name ++
      (if method.describe.tags.contains "query" then ["queryParams"] else []) ∧
    (formal.Nodup ↔ method.NamesApart) ∧
    ((∀ passed : List String, passed.length = formal.length →
      ∀ (i : Nat) (name : String), formal[i]? = some name → argument? formal passed name = passed[i]?) ↔
        method.NamesApart) := by
  intro formal
  have source := listedNames_formalArguments_describe plain
  have apart : formal.Nodup ↔ method.NamesApart := by
    have around := nodup_around_iff distinct (method.describe.tags.contains "payload")
      (method.describe.tags.contains "query")
    rwa [← source] at around
  exact ⟨source, apart, nodup_iff_argument?.symm.trans apart⟩

/-- A body and a query are asked for, and a parameter has the name of neither: names tell capital letters apart. -/
theorem formal_parameters_distinct_of_capital :
    let method : Method := ⟨"putItem", false, some "/** @api\n * @payload\n * @query int page */",
      [⟨"id", none⟩, ⟨"Payload", some .null⟩]⟩
    (∀ parameter ∈ method.parameters, parameter.name ≠ "" ∧ ',' ∉ parameter.name.toList) ∧
    (method.parameters.map Parameter.name).Nodup ∧
    method.describe.formalArguments = "payload, id, Payload, queryParams" ∧
    listedNames "payload, id, Payload, queryParams".toList = ["payload", "id", "Payload", "queryParams"] ∧
    ["payload", "id", "Payload", "queryParams"].Nodup := by
  intro method
  have plain : ∀ parameter ∈ method.parameters, parameter.name ≠ "" ∧ ',' ∉ parameter.name.toList := by decide
  have distinct : (method.parameters.map Parameter.name).Nodup := by decide
  have apart : method.NamesApart := ⟨fun _ => by decide, fun _ => by decide⟩
  have text : method.describe.formalArguments = "payload, id, Payload, queryParams" := by decide
  have read : listedNames "payload, id, Payload, queryParams".toList =
      ["payload", "id", "Payload", "queryParams"] := by decide
  have formal := (formal_parameters_distinct_iff method plain distinct).2.1.2 apart
  rw [text, read] at formal
  exact ⟨plain, distinct, text, read, formal⟩

/-- A parameter has the name of the request body's: what is passed for the body is lost. -/
theorem body_shadowed_by_parameter :
    let method : Method := ⟨"postItem", false, some "/**\n * @api\n * @payload\n */", [⟨"payload", none⟩]⟩
    (∀ parameter ∈ method.parameters, parameter.name ≠ "" ∧ ',' ∉ parameter.name.toList) ∧
    (method.parameters.map Parameter.name).Nodup ∧
    method.describe.formalArguments = "payload, payload" ∧
    ¬ (listedNames method.describe.formalArguments.toList).Nodup ∧
    method.describe.remoteArguments = "[payload], payload" ∧
    argument? ["payload", "payload"] ["the body", "the parameter"] "payload" = some "the parameter" := by
  intro method
  have text : method.describe.formalArguments = "payload, payload" := by decide
  have read : listedNames "payload, payload".toList = ["payload", "payload"] := by decide
  refine ⟨by decide, by decide, text, ?_, by decide, by decide⟩
  rw [text, read]
  decide

end ClientStub
