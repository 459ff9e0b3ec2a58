import ClientStub.Proofs.Text.Separated
import ClientStub.Stub.Call

/-!
# Arguments as a script reads them

The parameters of the generated function and the arguments of its remote call, read back from their texts.
Names without marks that part arguments are read as they were written.
-/

namespace ClientStub

open ClientStub.Text

/-- The names in a text of names with commas between them. -/
def listedNames (text : List Char) : List String :=
  if text = [] then [] else (partsAt ", ".toList text).map String.ofList

/-- The arguments behind the URL: the values between brackets, if there are any, and all others. -/
structure RemoteArguments where
  values : Option (List String)
  others : List String
  deriving DecidableEq, Repr

namespace RemoteArguments

/-- Reads arguments. The list of values goes up to the first closing bracket. -/
def ofText : List Char → RemoteArguments
  | '[' :: text =>
    ⟨some ((partsAt ", ".toList (text.takeWhile (· ≠ ']'))).map String.ofList),
      ((partsAt ", ".toList (text.dropWhile (· ≠ ']'))).drop 1).map String.ofList⟩
  | text => ⟨none, listedNames text⟩

/-- The identifier that a value begins with: what stands before its first dot. -/
def root (value : String) : String := String.ofList (value.toList.takeWhile (· ≠ '.'))

/-- The identifiers that arguments use. The marker in the place of values is none. -/
def identifiers (arguments : RemoteArguments) : List String :=
  (arguments.values.getD []).map root ++ arguments.others.filter (· ≠ emptyRouteMarker)

end RemoteArguments

/-- A name that no mark of a URL or of a list of arguments is a part of. White space may be. -/
def PlainName (name : String) : Prop :=
  name ≠ "" ∧ ∀ c ∈ name.toList, c ∉ [',', ']', '&', '=', '?', '/', '.']

instance (name : String) : Decidable (PlainName name) :=
  have : Decidable (∀ c ∈ name.toList, c ∉ [',', ']', '&', '=', '?', '/', '.']) :=
    List.decidableBAll _ name.toList
  inferInstanceAs (Decidable (_ ∧ _))

theorem PlainName.not_mem {name : String} (plain : PlainName name) {mark : Char}
    (listed : mark ∈ [',', ']', '&', '=', '?', '/', '.']) : mark ∉ name.toList :=
  fun inName => plain.2 mark inName listed

theorem mem_join {separator : String} {texts : List String} {c : Char}
    (listed : c ∈ (join separator texts).toList) :
    c ∈ separator.toList ∨ ∃ text ∈ texts, c ∈ text.toList := by
  cases texts with
  | nil => simp [join] at listed
  | cons first others =>
    rw [toList_join_cons, List.mem_append, List.mem_flatMap] at listed
    rcases listed with inFirst | ⟨text, inOthers, inText⟩
    · exact .inr ⟨first, List.mem_cons_self, inFirst⟩
    · rcases List.mem_append.1 inText with inSeparator | inText
      · exact .inl inSeparator
      · exact .inr ⟨text, List.mem_cons_of_mem _ inOthers, inText⟩

theorem map_ofList_partsAt_join {texts : List String} (filled : texts ≠ [])
    (absent : ∀ text ∈ texts, ',' ∉ text.toList) :
    (partsAt ", ".toList (join ", " texts).toList).map String.ofList = texts := by
  rw [partsAt_join rfl filled absent, List.map_map]
  exact (List.map_congr_left fun text _ => String.ofList_toList).trans (List.map_id texts)

theorem listedNames_join {texts : List String} (filled : ∀ text ∈ texts, text ≠ "")
    (absent : ∀ text ∈ texts, ',' ∉ text.toList) : listedNames (join ", " texts).toList = texts := by
  cases texts with
  | nil => rfl
  | cons first others =>
    have begun : (join ", " (first :: others)).toList ≠ [] := by
      rw [toList_join_cons]
      simp [filled first List.mem_cons_self]
    rw [listedNames, if_neg begun]
    exact map_ofList_partsAt_join (List.cons_ne_nil first others) absent

namespace MethodDescriptor

variable {method : MethodDescriptor}

/-- Where the route's parameters have names, no parameter of the generated function is left out. -/
theorem formalNames_eq (named : ∀ parameter ∈ method.route, parameter.name ≠ "") :
    method.formalNames =
      (if method.hasPayload then [payloadName] else []) ++ method.route.map RouteParameter.name ++
        if method.query = [] then [] else [queryParamsName] := by
  unfold formalNames
  simp only [List.isEmpty_iff]
  refine List.filter_eq_self.2 ?_
  rw [List.forall_mem_append, List.forall_mem_append]
  refine ⟨⟨?_, ?_⟩, ?_⟩
  · split
    · decide
    · simp
  · intro name listed
    obtain ⟨parameter, inRoute, rfl⟩ := List.mem_map.1 listed
    exact bne_iff_ne.2 (named parameter inRoute)
  · split
    · simp
    · decide

/-- Names without commas are told apart by the commas between them. -/
theorem listedNames_formalArguments_of_not_mem (absent : ∀ parameter ∈ method.route, ',' ∉ parameter.name.toList) :
    listedNames method.formalArguments.toList = method.formalNames := by
  refine listedNames_join (fun name listed => ?_) fun name listed => ?_
  · rw [formalNames, List.mem_filter] at listed
    exact bne_iff_ne.1 listed.2
  · have among := (List.mem_filter.1 listed).1
    rw [List.mem_append, List.mem_append] at among
    rcases among with (payload | inRoute) | query
    · split at payload
      · obtain rfl := List.mem_singleton.1 payload
        decide
      · cases payload
    · obtain ⟨parameter, inMethod, rfl⟩ := List.mem_map.1 inRoute
      exact absent parameter inMethod
    · split at query
      · cases query
      · obtain rfl := List.mem_singleton.1 query
        decide

theorem listedNames_formalArguments (route : ∀ parameter ∈ method.route, PlainName parameter.name) :
    listedNames method.formalArguments.toList = method.formalNames :=
  listedNames_formalArguments_of_not_mem fun parameter listed => (route parameter listed).not_mem (by decide)

/-- What follows the values: the request body, if there is one. -/
def payloadArgument (method : MethodDescriptor) : String := if method.hasPayload then ", payload" else ""

theorem remoteArguments_eq (method : MethodDescriptor) :
    method.remoteArguments =
      if method.placeholderValues = [] then (if method.hasPayload then "null, payload" else "")
      else "[" ++ join ", " method.placeholderValues ++ "]" ++ method.payloadArgument := by
  unfold remoteArguments remoteArgumentList payloadArgument
  simp only [List.isEmpty_iff]
  split
  · split
    · rfl
    · rfl
  · split
    · exact String.append_assoc
    · simp [join]

theorem plainMarks_not_mem_placeholderValues (route : ∀ parameter ∈ method.route, PlainName parameter.name)
    (query : ∀ parameter ∈ method.query, PlainName parameter.name) (mark : Char)
    (listed : mark ∈ [',', ']']) : ∀ value ∈ method.placeholderValues, mark ∉ value.toList := by
  have plain : mark ∈ [',', ']', '&', '=', '?', '/', '.'] := by
    simp only [List.mem_cons, List.not_mem_nil, or_false] at listed ⊢
    rcases listed with rfl | rfl
    · simp
    · simp
  have clear : mark ∉ (queryParamsName ++ ".").toList := by
    simp only [List.mem_cons, List.not_mem_nil, or_false] at listed
    rcases listed with rfl | rfl
    · decide
    · decide
  intro value inValues
  rcases List.mem_append.1 inValues with inRoute | inQuery
  · obtain ⟨parameter, inMethod, rfl⟩ := List.mem_map.1 inRoute
    exact (route parameter inMethod).not_mem plain
  · obtain ⟨parameter, inMethod, rfl⟩ := List.mem_map.1 inQuery
    rw [String.toList_append, List.mem_append, not_or]
    exact ⟨clear, (query parameter inMethod).not_mem plain⟩

/-- The values, as they stand between the brackets. -/
theorem ofText_remoteArguments (route : ∀ parameter ∈ method.route, PlainName parameter.name)
    (query : ∀ parameter ∈ method.query, PlainName parameter.name) :
    RemoteArguments.ofText method.remoteArguments.toList =
      if method.placeholderValues = [] then ⟨none, if method.hasPayload then ["null", "payload"] else []⟩
      else ⟨some method.placeholderValues, if method.hasPayload then ["payload"] else []⟩ := by
  rw [remoteArguments_eq]
  split
  · split
    · decide +kernel
    · decide +kernel
  · rename_i filled
    have values := map_ofList_partsAt_join filled
      (plainMarks_not_mem_placeholderValues route query ',' (by decide))
    have inside : ∀ c ∈ (join ", " method.placeholderValues).toList, decide (c ≠ ']') = true := by
      intro c listed
      rw [decide_eq_true_eq]
      rintro rfl
      rcases mem_join listed with separator | ⟨value, inValues, inValue⟩
      · exact absurd separator (by decide)
      · exact plainMarks_not_mem_placeholderValues route query ']' (by decide) value inValues inValue
    have text : ("[" ++ join ", " method.placeholderValues ++ "]" ++ method.payloadArgument).toList =
        '[' :: ((join ", " method.placeholderValues).toList ++ ']' :: method.payloadArgument.toList) := by
      simp
    rw [text, RemoteArguments.ofText, List.takeWhile_append_of_pos inside, List.dropWhile_append_of_pos inside,
      List.takeWhile_cons_of_neg (by simp), List.dropWhile_cons_of_neg (by simp), List.append_nil, values]
    unfold payloadArgument
    split
    · congr 1
    · congr 1

end MethodDescriptor

end ClientStub
