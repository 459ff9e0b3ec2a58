import ClientStub.DocBlock
import ClientStub.Proofs.Stub.Arguments
import Mathlib.Data.List.TakeWhile

/-!
# Placeholders and their values

The placeholders of a URL, read back from its text: the names of the route, and the names of the query with
the positions of their values. A position leads to the value of its own name among the arguments of the
remote call, and these use the parameters of the generated function and nothing else.
-/

namespace ClientStub

open ClientStub.Text

/-- The placeholders of a URL. Those of the query carry positions; those of the route are counted. -/
structure Placeholders where
  route : List String
  query : List (String × Nat)
  deriving DecidableEq, Repr

namespace Placeholders

def routeText (placeholders : Placeholders) : String :=
  String.join (placeholders.route.map fun name => "/:" ++ name)

def pairText (pair : String × Nat) : String := pair.1 ++ "=:" ++ toString pair.2

def queryText (placeholders : Placeholders) : String :=
  if placeholders.query = [] then "" else "?" ++ join "&" (placeholders.query.map pairText)

def text (placeholders : Placeholders) : String := placeholders.routeText ++ placeholders.queryText

/-- Reads a route: names behind `/:` each. -/
def readRoute? (text : List Char) : Option (List String) :=
  match partsAt "/:".toList text with
  | [] :: names => some (names.map String.ofList)
  | _ => none

def readPosition? (digits : List Char) : Option Nat :=
  if digits ≠ [] ∧ digits.all Char.isDigit then some (Nat.ofDigitChars 10 digits 0) else none

/-- Reads a name and a position, with `=:` between them. -/
def readPair? (text : List Char) : Option (String × Nat) :=
  match partsAt "=:".toList text with
  | [name, digits] => (readPosition? digits).map fun position => (String.ofList name, position)
  | _ => none

/-- Reads a query: pairs behind a question mark. A text without one is empty. -/
def readQuery? : List Char → Option (List (String × Nat))
  | [] => some []
  | '?' :: pairs => (partsAt "&".toList pairs).mapM readPair?
  | _ => none

/-- Reads placeholders. The query begins at the first question mark. -/
def read? (text : List Char) : Option Placeholders := do
  let route ← readRoute? (text.takeWhile (· ≠ '?'))
  let query ← readQuery? (text.dropWhile (· ≠ '?'))
  some ⟨route, query⟩

theorem isDigit_of_mem_toString {n : Nat} {c : Char} (listed : c ∈ (toString n).toList) :
    c.isDigit = true := by
  rw [Nat.toString_eq_repr, Nat.toList_repr] at listed
  exact Nat.isDigit_of_mem_toDigits (by decide) (by decide) listed

theorem readPosition?_toString (n : Nat) : readPosition? (toString n).toList = some n := by
  have digits : (toString n).toList = Nat.toDigits 10 n := by
    rw [Nat.toString_eq_repr, Nat.toList_repr]
  have filled : (toString n).toList ≠ [] := digits ▸ Nat.toDigits_ne_nil
  have all : (toString n).toList.all Char.isDigit = true :=
    List.all_eq_true.2 fun _ => isDigit_of_mem_toString
  rw [readPosition?, if_pos ⟨filled, all⟩, digits, Nat.ofDigitChars_ten_toDigits]

theorem readPair?_pairText {pair : String × Nat} (plain : PlainName pair.1) :
    readPair? (pairText pair).toList = some pair := by
  have source : (pairText pair).toList = pair.1.toList ++ ("=:".toList ++ (toString pair.2).toList) := by
    simp [pairText]
  -- The name ends at the first equals sign, and there is none in the digits behind it.
  have noSign : '=' ∉ (toString pair.2).toList := fun listed =>
    absurd (isDigit_of_mem_toString listed) (by decide)
  have parts : partsAt "=:".toList (pairText pair).toList = [pair.1.toList, (toString pair.2).toList] := by
    rw [source]
    exact (partsAt_append (plain.not_mem (by decide)) _).trans (congrArg _ (partsAt_of_not_mem noSign))
  rw [readPair?, parts]
  simp only [readPosition?_toString, Option.map_some, String.ofList_toList]

theorem not_mem_pairText {pair : String × Nat} (plain : PlainName pair.1) : '&' ∉ (pairText pair).toList := by
  rw [pairText, String.toList_append, String.toList_append, List.mem_append, List.mem_append]
  rintro ((name | mark) | number)
  · exact plain.not_mem (by decide) name
  · exact absurd mark (by decide)
  · exact absurd (isDigit_of_mem_toString number) (by decide)

theorem readRoute?_routeText {placeholders : Placeholders}
    (plain : ∀ name ∈ placeholders.route, PlainName name) :
    readRoute? placeholders.routeText.toList = some placeholders.route := by
  have source : placeholders.routeText.toList =
      [] ++ (placeholders.route.map String.toList).flatMap fun name => "/:".toList ++ name := by
    rw [routeText, String.toList_join, List.flatMap_map, List.flatMap_map, List.nil_append]
    exact List.flatMap_congr fun name _ => String.toList_append
  have absent : ∀ name ∈ placeholders.route.map String.toList, '/' ∉ name := by
    intro name listed
    obtain ⟨text, inRoute, rfl⟩ := List.mem_map.1 listed
    exact (plain text inRoute).not_mem (by decide)
  have parts : partsAt "/:".toList placeholders.routeText.toList =
      [] :: placeholders.route.map String.toList := by
    rw [source]
    exact partsAt_separated (List.not_mem_nil) absent
  rw [readRoute?, parts]
  simp only [List.map_map]
  exact congrArg some ((List.map_congr_left fun _ _ => String.ofList_toList).trans (List.map_id _))

theorem mapM_readPair? {pairs : List (String × Nat)} (plain : ∀ pair ∈ pairs, PlainName pair.1) :
    (pairs.map fun pair => (pairText pair).toList).mapM readPair? = some pairs := by
  induction pairs with
  | nil => rfl
  | cons pair pairs ih =>
    rw [List.forall_mem_cons] at plain
    rw [List.map_cons, List.mapM_cons, readPair?_pairText plain.1, ih plain.2]
    rfl

theorem readQuery?_queryText {placeholders : Placeholders}
    (plain : ∀ pair ∈ placeholders.query, PlainName pair.1) :
    readQuery? placeholders.queryText.toList = some placeholders.query := by
  unfold queryText
  split
  · rename_i empty
    rw [empty]
    rfl
  · rename_i filled
    have absent : ∀ text ∈ placeholders.query.map pairText, '&' ∉ text.toList := by
      intro text listed
      obtain ⟨pair, inQuery, rfl⟩ := List.mem_map.1 listed
      exact not_mem_pairText (plain pair inQuery)
    have parts : partsAt "&".toList _ = _ := partsAt_join rfl (by simpa using filled) absent
    have source : ("?" ++ join "&" (placeholders.query.map pairText)).toList =
        '?' :: (join "&" (placeholders.query.map pairText)).toList := by
      simp
    rw [source, readQuery?, parts, List.map_map]
    exact mapM_readPair? plain

theorem read?_text {placeholders : Placeholders} (route : ∀ name ∈ placeholders.route, PlainName name)
    (query : ∀ pair ∈ placeholders.query, PlainName pair.1) :
    read? placeholders.text.toList = some placeholders := by
  have noMark : ∀ c ∈ placeholders.routeText.toList, decide (c ≠ '?') = true := by
    intro c listed
    rw [routeText, String.toList_join, List.mem_flatMap] at listed
    obtain ⟨text, inTexts, inText⟩ := listed
    obtain ⟨name, inRoute, rfl⟩ := List.mem_map.1 inTexts
    rw [decide_eq_true_eq]
    rintro rfl
    rcases List.mem_append.1 (String.toList_append ▸ inText) with mark | inName
    · exact absurd mark (by decide)
    · exact (route name inRoute).not_mem (by decide) inName
  have begun : placeholders.queryText.toList.takeWhile (· ≠ '?') = [] ∧
      placeholders.queryText.toList.dropWhile (· ≠ '?') = placeholders.queryText.toList := by
    unfold queryText
    split
    · exact ⟨rfl, rfl⟩
    · simp
  rw [read?, text, String.toList_append, List.takeWhile_append_of_pos noMark,
    List.dropWhile_append_of_pos noMark, begun.1, begun.2, List.append_nil, readRoute?_routeText route,
    readQuery?_queryText query]
  rfl

end Placeholders

namespace MethodDescriptor

variable {method : MethodDescriptor}

/-- The placeholders of a method's URL. The positions of the query go on from the route. -/
def placeholders (method : MethodDescriptor) : Placeholders :=
  ⟨method.route.map RouteParameter.name,
    method.query.mapIdx fun i parameter => (parameter.name, method.route.length + i)⟩

theorem url_eq (method : MethodDescriptor) (base : String) :
    method.url base =
      String.ofList (dropEndWhile (· = '/') base.toList) ++ method.segmentPath ++ method.placeholders.text := by
  have route : method.routePath = method.placeholders.routeText := by
    rw [routePath, Placeholders.routeText, placeholders, List.map_map]
    rfl
  have pairs : method.queryPairs = method.placeholders.query.map Placeholders.pairText := by
    rw [queryPairs, placeholders, List.mapIdx_eq_zipIdx_map, List.mapIdx_eq_zipIdx_map, List.map_map]
    rfl
  have query : method.queryPath = method.placeholders.queryText := by
    unfold queryPath Placeholders.queryText
    simp only [List.isEmpty_iff, pairs, placeholders, List.mapIdx_eq_nil_iff]
  rw [url, route, query, String.append_assoc, Placeholders.text]
  rfl

theorem names_placeholders :
    method.placeholders.query.map Prod.fst = method.query.map QueryParameter.name := by
  refine List.ext_getElem? fun i => ?_
  simp [placeholders, Function.comp_def]

/-- The names of the route and the positions of the query count all values. -/
theorem positions_placeholders :
    List.range method.route.length ++ method.placeholders.query.map Prod.snd =
      List.range (method.route.length + method.query.length) := by
  have positions : method.placeholders.query.map Prod.snd =
      (List.range method.query.length).map fun i => method.route.length + i := by
    rw [placeholders, List.mapIdx_eq_zipIdx_map, List.map_map, List.range_eq_range', ← List.zipIdx_map_snd,
      List.map_map]
    rfl
  rw [positions, List.range_add]

theorem length_placeholderValues :
    method.placeholderValues.length = method.route.length + method.query.length := by
  simp [placeholderValues]

theorem getElem?_placeholderValues_of_lt {i : Nat} (less : i < method.route.length) :
    method.placeholderValues[i]? = method.placeholders.route[i]? :=
  List.getElem?_append_left (by rwa [List.length_map])

theorem getElem?_placeholderValues_of_mem {pair : String × Nat} (listed : pair ∈ method.placeholders.query) :
    method.placeholderValues[pair.2]? = some (queryParamsName ++ "." ++ pair.1) := by
  obtain ⟨i, less, rfl⟩ := List.mem_mapIdx.1 listed
  have behind : (method.route.map RouteParameter.name).length ≤ method.route.length + i := by
    rw [List.length_map]
    exact Nat.le_add_right _ _
  rw [placeholderValues, List.getElem?_append_right behind, List.length_map, Nat.add_sub_cancel_left,
    List.getElem?_map, List.getElem?_eq_getElem less]
  rfl

theorem map_root_placeholderValues (route : ∀ parameter ∈ method.route, PlainName parameter.name) :
    method.placeholderValues.map RemoteArguments.root =
      method.route.map RouteParameter.name ++ method.query.map fun _ => queryParamsName := by
  have names : ∀ parameter ∈ method.route, RemoteArguments.root parameter.name = parameter.name := by
    intro parameter listed
    have noDot : ∀ c ∈ parameter.name.toList, decide (c ≠ '.') = true := fun c inName =>
      decide_eq_true fun same => (route parameter listed).not_mem (by decide) (same ▸ inName)
    have whole : parameter.name.toList.takeWhile (· ≠ '.') = parameter.name.toList :=
      List.takeWhile_eq_self_iff.2 noDot
    rw [RemoteArguments.root, whole, String.ofList_toList]
  have fields (name : String) : RemoteArguments.root (queryParamsName ++ "." ++ name) = queryParamsName := by
    have noDot : ∀ c ∈ queryParamsName.toList, decide (c ≠ '.') = true := List.all_eq_true.1 (by decide)
    have source : (queryParamsName ++ "." ++ name).toList = queryParamsName.toList ++ '.' :: name.toList := by
      simp
    rw [RemoteArguments.root, source, List.takeWhile_append_of_pos noDot,
      List.takeWhile_cons_of_neg (by simp), List.append_nil, String.ofList_toList]
  rw [placeholderValues, List.map_append, List.map_map, List.map_map]
  exact congrArg₂ (· ++ ·) (List.map_congr_left names)
    (List.map_congr_left fun parameter _ => fields parameter.name)

theorem mem_identifiers_remoteArguments (route : ∀ parameter ∈ method.route, PlainName parameter.name)
    (query : ∀ parameter ∈ method.query, PlainName parameter.name) {name : String} :
    name ∈ (RemoteArguments.ofText method.remoteArguments.toList).identifiers ↔
      name ∈ method.formalNames := by
  have body : ["payload"].filter (· ≠ emptyRouteMarker) = [payloadName] := by decide
  have used : (RemoteArguments.ofText method.remoteArguments.toList).identifiers =
      method.placeholderValues.map RemoteArguments.root ++ if method.hasPayload then [payloadName] else [] := by
    rw [ofText_remoteArguments route query]
    by_cases empty : method.placeholderValues = []
    · rw [if_pos empty, empty]
      split
      · exact body
      · rfl
    · rw [if_neg empty]
      split
      · exact congrArg _ body
      · rfl
  have fields : name ∈ method.query.map (fun _ => queryParamsName) ↔
      name ∈ if method.query = [] then [] else [queryParamsName] := by
    cases method.query with
    | nil => simp
    | cons parameter query => simp
  rw [used, map_root_placeholderValues route, formalNames_eq fun parameter listed => (route parameter listed).1]
  simp only [List.mem_append, fields]
  exact or_comm.trans or_assoc.symm

/-- Placeholders and values of a method agree. Behind the base and the method's own segment, the URL is the
text of placeholders, and reads as them: the names of the route in their order, then the names of the query,
each with the position of its value. Every position counts one value. The list of values is left out when
there are no placeholders, and the call uses every parameter of the generated function and nothing else. -/
theorem placeholders_lead_to_values (route : ∀ parameter ∈ method.route, PlainName parameter.name)
    (query : ∀ parameter ∈ method.query, PlainName parameter.name) (base : String) :
    ∃ placeholders : Placeholders, ∃ arguments : RemoteArguments,
      method.url base = String.ofList (dropEndWhile (· = '/') base.toList) ++ method.segmentPath ++
        placeholders.text ∧
      Placeholders.read? placeholders.text.toList = some placeholders ∧
      RemoteArguments.ofText method.remoteArguments.toList = arguments ∧
      placeholders.route = method.route.map RouteParameter.name ∧
      placeholders.query.map Prod.fst = method.query.map QueryParameter.name ∧
      List.range method.route.length ++ placeholders.query.map Prod.snd =
        List.range (method.route.length + method.query.length) ∧
      (∀ values, arguments.values = some values →
        values.length = method.route.length + method.query.length ∧
        (∀ i < method.route.length, values[i]? = placeholders.route[i]?) ∧
        ∀ pair ∈ placeholders.query, values[pair.2]? = some ("queryParams." ++ pair.1)) ∧
      (arguments.values = none ↔ method.route.length + method.query.length = 0) ∧
      (method.route.length + method.query.length = 0 →
        method.remoteArguments = if method.tags.contains "payload" then "null, payload" else "") ∧
      ∀ name, name ∈ arguments.identifiers ↔ name ∈ listedNames method.formalArguments.toList := by
  have read : Placeholders.read? method.placeholders.text.toList = some method.placeholders := by
    refine Placeholders.read?_text ?_ ?_
    · intro name listed
      obtain ⟨parameter, inRoute, rfl⟩ := List.mem_map.1 listed
      exact route parameter inRoute
    · intro pair listed
      obtain ⟨i, less, rfl⟩ := List.mem_mapIdx.1 listed
      exact query method.query[i] (List.getElem_mem less)
  have count : method.placeholderValues = [] ↔ method.route.length + method.query.length = 0 := by
    rw [← length_placeholderValues, List.length_eq_zero_iff]
  have formal := listedNames_formalArguments route
  refine ⟨method.placeholders, _, url_eq method base, read, rfl, rfl, names_placeholders,
    positions_placeholders, ?_, ?_, ?_, ?_⟩
  · intro values given
    have same : method.placeholderValues = values := by
      rw [ofText_remoteArguments route query] at given
      split at given
      · cases given
      · exact Option.some.inj given
    rw [← same]
    exact ⟨length_placeholderValues, fun i less => getElem?_placeholderValues_of_lt less,
      fun pair listed => getElem?_placeholderValues_of_mem listed⟩
  · rw [← count, ofText_remoteArguments route query]
    split
    · rename_i empty
      exact iff_of_true rfl empty
    · rename_i filled
      exact iff_of_false (Option.some_ne_none _) filled
  · intro empty
    rw [remoteArguments_eq, if_pos (count.2 empty)]
    rfl
  · intro name
    rw [formal]
    exact mem_identifiers_remoteArguments route query

/-- A method with a parameter in the route, two in the query and a body. -/
theorem placeholders_lead_to_values_of_listed_items :
    let method : MethodDescriptor :=
      ⟨"postItem", "postItem", .post, [⟨"id", none, true, none, ""⟩],
        [⟨"page", "int", ""⟩, ⟨"size", "int", ""⟩], DocBlock.tags (some "/** @payload */")⟩
    (∀ parameter ∈ method.route, PlainName parameter.name) ∧
    (∀ parameter ∈ method.query, PlainName parameter.name) ∧
    method.url "/v1/" = "/v1/item/:id?page=:1&size=:2" ∧
    method.remoteArguments = "[id, queryParams.page, queryParams.size], payload" ∧
    method.formalArguments = "payload, id, queryParams" ∧
    ∃ placeholders : Placeholders,
      "/v1/item/:id?page=:1&size=:2" = "/v1/item" ++ placeholders.text ∧
      Placeholders.read? placeholders.text.toList = some placeholders ∧
      placeholders.route = ["id"] ∧
      placeholders.query.map Prod.fst = ["page", "size"] ∧
      ∀ pair ∈ placeholders.query,
        ["id", "queryParams.page", "queryParams.size"][pair.2]? = some ("queryParams." ++ pair.1) := by
  intro method
  have route : ∀ parameter ∈ method.route, PlainName parameter.name := by decide
  have query : ∀ parameter ∈ method.query, PlainName parameter.name := by decide
  have url : method.url "/v1/" = "/v1/item/:id?page=:1&size=:2" := by decide +kernel
  have front : String.ofList (dropEndWhile (· = '/') "/v1/".toList) ++ method.segmentPath = "/v1/item" := by
    decide +kernel
  have arguments : method.remoteArguments = "[id, queryParams.page, queryParams.size], payload" := by
    decide +kernel
  have formal : method.formalArguments = "payload, id, queryParams" := by decide +kernel
  have values : RemoteArguments.ofText "[id, queryParams.page, queryParams.size], payload".toList =
      ⟨some ["id", "queryParams.page", "queryParams.size"], ["payload"]⟩ := by decide +kernel
  obtain ⟨placeholders, _, source, read, rfl, names, queried, -, found, -⟩ :=
    placeholders_lead_to_values route query "/v1/"
  rw [url, front] at source
  rw [arguments, values] at found
  exact ⟨route, query, url, arguments, formal, placeholders, source, read, names, queried, (found _ rfl).2.2⟩

end MethodDescriptor

end ClientStub
