import ClientStub.Proofs.Catalog.JsonForms
import ClientStub.Proofs.Json.Printing
import ClientStub.Proofs.Text.Trim

/-!
# Reading a catalog from any of its texts

A catalog is read back from every text of every JSON form that it has. A parameter without a default and one with
the default null have no form in common, for the member `default` is there in all forms of the second and in none
of the first.
-/

namespace ClientStub

open Json

variable {name : String} {value : Json} {text : List Char}

/-- What is held of a parameter when the members of some names have been read. -/
def ParameterFields.after (parameter : Parameter) (seen : List String) : ParameterFields :=
  ⟨held seen "name" (some parameter.name), held seen "default" parameter.default⟩

theorem ParameterFields.after_cons (parameter : Parameter) (seen : List String)
    (absent : name ∉ ["name", "default"]) : after parameter (name :: seen) = after parameter seen := by
  simp only [List.mem_cons, List.not_mem_nil, or_false, not_or] at absent
  simp [after, held_cons, Ne.symm absent.1, Ne.symm absent.2]

theorem reads_readParameter {parameter : Parameter} (form : parameter.Form value) (shown : ValueText value text)
    (stored : ∀ default ∈ parameter.default, Stored defaultNesting default) :
    Reads readParameter parameter text := by
  obtain ⟨default, defaultForm, form⟩ := form
  have named := defaultForm.sublist.cons_cons "name"
  unfold readParameter
  refine reads_record (ParameterFields.after parameter) rfl form shown named (by decide) ?_ ?_ ?_
  · rintro ⟨name, value⟩ listed seen text unread shown
    rcases List.mem_cons.1 listed with same | listed
    · cases same
      cases shown with
      | string shown =>
        refine (reads_readString shown).of_eq_ok fun {text rest} read => ?_
        simp only [ParameterFields.after, held_of_not_mem unread]
        rw [once_eq_ok read]
        simp [held_cons]
    · obtain ⟨rfl, given⟩ := defaultForm.of_mem listed
      refine (reads_readValue shown (stored _ given)).of_eq_ok fun {text rest} read => ?_
      simp only [ParameterFields.after, held_of_not_mem unread]
      rw [once_eq_ok read]
      simp [held_cons, given]
  · intro name absent seen text skipped
    refine skipped.of_eq_ok fun {text rest} read => ?_
    rw [ParameterFields.after_cons parameter seen absent]
    split
    · simp at absent
    · simp at absent
    · exact skip_eq_ok read
  · intro seen complete
    have nameRead := (complete "name" (by simp)).2 (by simp)
    have defaultRead : held seen "default" parameter.default = parameter.default := by
      rcases defaultForm.mem_or with given | missing
      · exact held_of_mem ((complete "default" (by simp)).2 (by simp [given])) _
      · simp [held, missing]
    apply finish_eq_ok
    simp only [ParameterFields.after, ParameterFields.complete, held_of_mem nameRead, defaultRead]
    rfl

/-- What is held of a method when the members of some names have been read. -/
def MethodFields.after (method : Method) (seen : List String) : MethodFields :=
  ⟨held seen "name" (some method.name), held seen "static" (some method.isStatic),
    held seen "doc" (some method.doc), held seen "parameters" (some method.parameters)⟩

theorem MethodFields.after_cons (method : Method) (seen : List String)
    (absent : name ∉ ["name", "static", "doc", "parameters"]) :
    after method (name :: seen) = after method seen := by
  simp only [List.mem_cons, List.not_mem_nil, or_false, not_or] at absent
  obtain ⟨notName, notStatic, notDoc, notParameters⟩ := absent
  simp [after, held_cons, Ne.symm notName, Ne.symm notStatic, Ne.symm notDoc, Ne.symm notParameters]

theorem reads_readMethod {method : Method} (form : method.Form value) (shown : ValueText value text)
    (stored : ∀ parameter ∈ method.parameters, ∀ default ∈ parameter.default, Stored defaultNesting default) :
    Reads readMethod method text := by
  obtain ⟨isStatic, doc, parameters, staticForm, docForm, parametersForm, form⟩ := form
  have named := ((staticForm.sublist.append docForm.sublist).append parametersForm.sublist).cons_cons "name"
  rw [← List.map_append, ← List.map_append] at named
  unfold readMethod
  refine reads_record (MethodFields.after method) rfl form shown named (by decide) ?_ ?_ ?_
  · rintro ⟨name, value⟩ listed seen text unread shown
    simp only [List.mem_cons, List.mem_append] at listed
    rcases listed with same | (listed | listed) | listed
    · cases same
      cases shown with
      | string shown =>
        refine (reads_readString shown).of_eq_ok fun {text rest} read => ?_
        simp only [MethodFields.after, held_of_not_mem unread]
        rw [once_eq_ok read]
        simp [held_cons]
    · obtain ⟨rfl, rfl⟩ := staticForm.of_mem listed
      cases shown
      refine (reads_readBool _).of_eq_ok fun {text rest} read => ?_
      simp only [MethodFields.after, held_of_not_mem unread]
      rw [once_eq_ok read]
      simp [held_cons]
    · obtain ⟨rfl, rfl⟩ := docForm.of_mem listed
      refine (reads_readOptionalString shown).of_eq_ok fun {text rest} read => ?_
      simp only [MethodFields.after, held_of_not_mem unread]
      rw [once_eq_ok read]
      simp [held_cons]
    · obtain ⟨rfl, array⟩ := parametersForm.of_mem listed
      have each := reads_readArray_of_form array shown fun parameter listed {shape text} form shown =>
        reads_readParameter form shown (stored parameter listed)
      refine each.of_eq_ok fun {text rest} read => ?_
      simp only [MethodFields.after, held_of_not_mem unread]
      rw [once_eq_ok read]
      simp [held_cons]
  · intro name absent seen text skipped
    refine skipped.of_eq_ok fun {text rest} read => ?_
    rw [MethodFields.after_cons method seen absent]
    split
    · simp at absent
    · simp at absent
    · simp at absent
    · simp at absent
    · exact skip_eq_ok read
  · intro seen complete
    have nameRead := (complete "name" (by simp)).2 (by simp)
    have staticRead : "static" ∈ seen ∨ method.isStatic = false :=
      staticForm.mem_or.imp_left fun given => (complete "static" (by simp)).2 (by simp [given])
    have docRead : "doc" ∈ seen ∨ method.doc = none :=
      docForm.mem_or.imp_left fun given => (complete "doc" (by simp)).2 (by simp [given])
    have parametersRead : "parameters" ∈ seen ∨ method.parameters = [] :=
      parametersForm.mem_or.imp_left fun given => (complete "parameters" (by simp)).2 (by simp [given])
    apply finish_eq_ok
    simp only [MethodFields.after, MethodFields.complete, held_of_mem nameRead, getD_held staticRead,
      getD_held docRead, getD_held parametersRead]
    rfl

/-- What is held of a class when the members of some names have been read. -/
def ClassFields.after (entry : ClassEntry) (seen : List String) : ClassFields :=
  ⟨held seen "name" (some entry.name), held seen "doc" (some entry.doc), held seen "methods" (some entry.methods)⟩

theorem ClassFields.after_cons (entry : ClassEntry) (seen : List String)
    (absent : name ∉ ["name", "doc", "methods"]) : after entry (name :: seen) = after entry seen := by
  simp only [List.mem_cons, List.not_mem_nil, or_false, not_or] at absent
  obtain ⟨notName, notDoc, notMethods⟩ := absent
  simp [after, held_cons, Ne.symm notName, Ne.symm notDoc, Ne.symm notMethods]

/-- The defaults of a class that lie no deeper than a catalog is read. -/
def ClassEntry.DefaultsStored (entry : ClassEntry) : Prop :=
  ∀ method ∈ entry.methods, ∀ parameter ∈ method.parameters, ∀ default ∈ parameter.default,
    Stored defaultNesting default

theorem reads_readClass {entry : ClassEntry} (form : entry.Form value) (shown : ValueText value text)
    (stored : entry.DefaultsStored) : Reads readClass entry text := by
  obtain ⟨doc, methods, docForm, methodsForm, form⟩ := form
  have named := (docForm.sublist.append methodsForm.sublist).cons_cons "name"
  rw [← List.map_append] at named
  unfold readClass
  refine reads_record (ClassFields.after entry) rfl form shown named (by decide) ?_ ?_ ?_
  · rintro ⟨name, value⟩ listed seen text unread shown
    simp only [List.mem_cons, List.mem_append] at listed
    rcases listed with same | listed | listed
    · cases same
      cases shown with
      | string shown =>
        refine (reads_readString shown).of_eq_ok fun {text rest} read => ?_
        simp only [ClassFields.after, held_of_not_mem unread]
        rw [once_eq_ok read]
        simp [held_cons]
    · obtain ⟨rfl, rfl⟩ := docForm.of_mem listed
      refine (reads_readOptionalString shown).of_eq_ok fun {text rest} read => ?_
      simp only [ClassFields.after, held_of_not_mem unread]
      rw [once_eq_ok read]
      simp [held_cons]
    · obtain ⟨rfl, array⟩ := methodsForm.of_mem listed
      have each := reads_readArray_of_form array shown fun method listed {shape text} form shown =>
        reads_readMethod form shown (stored method listed)
      refine each.of_eq_ok fun {text rest} read => ?_
      simp only [ClassFields.after, held_of_not_mem unread]
      rw [once_eq_ok read]
      simp [held_cons]
  · intro name absent seen text skipped
    refine skipped.of_eq_ok fun {text rest} read => ?_
    rw [ClassFields.after_cons entry seen absent]
    split
    · simp at absent
    · simp at absent
    · simp at absent
    · exact skip_eq_ok read
  · intro seen complete
    have nameRead := (complete "name" (by simp)).2 (by simp)
    have docRead : "doc" ∈ seen ∨ entry.doc = none :=
      docForm.mem_or.imp_left fun given => (complete "doc" (by simp)).2 (by simp [given])
    have methodsRead : "methods" ∈ seen ∨ entry.methods = [] :=
      methodsForm.mem_or.imp_left fun given => (complete "methods" (by simp)).2 (by simp [given])
    apply finish_eq_ok
    simp only [ClassFields.after, ClassFields.complete, held_of_mem nameRead, getD_held docRead,
      getD_held methodsRead]
    rfl

/-- What is held of a catalog when the members of some names have been read. -/
def CatalogFields.after (catalog : Catalog) (seen : List String) : CatalogFields :=
  ⟨held seen "classes" (some catalog.classes)⟩

theorem reads_readCatalog {catalog : Catalog} (form : catalog.Form value) (shown : ValueText value text)
    (stored : ∀ entry ∈ catalog.classes, entry.DefaultsStored) : Reads readCatalog catalog text := by
  obtain ⟨classes, classesForm, form⟩ := form
  unfold readCatalog
  refine reads_record (CatalogFields.after catalog) rfl form shown classesForm.sublist (by decide) ?_ ?_ ?_
  · rintro ⟨name, value⟩ listed seen text unread shown
    obtain ⟨rfl, array⟩ := classesForm.of_mem listed
    have each := reads_readArray_of_form array shown fun entry listed {shape text} form shown =>
      reads_readClass form shown (stored entry listed)
    refine each.of_eq_ok fun {text rest} read => ?_
    simp only [CatalogFields.after, held_of_not_mem unread]
    rw [once_eq_ok read]
    simp [held_cons]
  · intro name absent seen text skipped
    have same : CatalogFields.after catalog (name :: seen) = CatalogFields.after catalog seen := by
      rw [List.mem_singleton] at absent
      simp [CatalogFields.after, held_cons, Ne.symm absent]
    refine skipped.of_eq_ok fun {text rest} read => ?_
    rw [same]
    split
    · simp at absent
    · exact skip_eq_ok read
  · intro seen complete
    have classesRead : "classes" ∈ seen ∨ catalog.classes = [] :=
      classesForm.mem_or.imp_left fun given => (complete "classes" (by simp)).2 given
    apply finish_eq_ok
    simp only [CatalogFields.after, CatalogFields.complete, getD_held classesRead]
    rfl

theorem isBlankText_of_spaces {text : List Char} (spaces : Spaces text) : Text.isBlankText text = true := by
  refine List.all_eq_true.2 fun c listed => ?_
  rcases spaces c listed with rfl | rfl | rfl | rfl <;> decide

theorem isJsonText_of_object {members : List (String × Json)} {inner : List Char} {text : String}
    (shown : ValueText (.object members) inner) (around : Spaced inner text.toList) :
    Catalog.isJsonText text = true := by
  obtain ⟨front, behind, spaces, _, same⟩ := around
  cases shown with
  | object _ _ whole =>
    obtain ⟨inside, _, rfl⟩ := whole
    rw [Catalog.isJsonText, same, List.append_assoc, Text.trimStart_append_of_blank (isBlankText_of_spaces spaces),
      Text.trimStart_eq_self]
    · simp
    · intro c first
      rw [List.cons_append, List.head?_cons, Option.mem_some_iff] at first
      rw [← first]
      decide

theorem readDocument_of_reads {α : Type} {reader : Reader α} {value : α} {inner text : List Char}
    (reads : Reads reader value inner) (around : Spaced inner text) : readDocument reader text = .ok value := by
  obtain ⟨front, behind, spacesFront, spaces, rfl⟩ := around
  have ends : Stops behind := by simpa using stops_nil.append spaces
  rw [readDocument, List.append_assoc, reads.read spacesFront ends]
  simp [bind, Except.bind, skipSpace_of_spaces spaces, pure, Except.pure]

/-- In a form of a parameter the member `default` has the default as its value, if there is one. -/
theorem Parameter.Form.mem_default_iff {parameter : Parameter} {members : List (String × Json)}
    (form : parameter.Form (.object members)) (value : Json) :
    ("default", value) ∈ members ↔ parameter.default = some value := by
  obtain ⟨default, defaultForm, listed, others, anyOrder, unknown, same⟩ := form
  cases same
  rw [anyOrder.mem_iff]
  constructor
  · intro isListed
    rcases List.mem_append.1 isListed with isField | isOther
    · rcases List.mem_cons.1 isField with isName | isDefault
      · simp at isName
      · exact (defaultForm.of_mem isDefault).2
    · exact absurd (by simp) (unknown _ isOther)
  · intro given
    cases defaultForm with
    | written right =>
      rw [given, Option.some.injEq] at right
      simp [right]
    | omitted absent =>
      rw [given] at absent
      contradiction

theorem whole_optional (value : Option String) : Whole (Json.optional value) := by
  cases value <;> simp [Json.optional]

theorem Parameter.whole_json {parameter : Parameter}
    (stored : ∀ default ∈ parameter.default, Stored defaultNesting default) : Whole parameter.json := by
  obtain ⟨name, default⟩ := parameter
  cases default with
  | none => simp [Parameter.json]
  | some value => simpa [Parameter.json] using (stored value rfl).whole

theorem ClassEntry.whole_json {entry : ClassEntry} (stored : entry.DefaultsStored) : Whole entry.json := by
  have methods : ∀ method ∈ entry.methods, Whole method.json := by
    intro method listed
    have parameters := fun parameter inMethod => Parameter.whole_json (stored method listed parameter inMethod)
    simpa [Method.json, whole_optional] using parameters
  simpa [ClassEntry.json, whole_optional] using methods

namespace Catalog

theorem whole_json {catalog : Catalog} (stored : ∀ entry ∈ catalog.classes, entry.DefaultsStored) :
    Whole catalog.json := by
  simpa [Catalog.json] using fun entry listed => ClassEntry.whole_json (stored entry listed)

theorem ofText_of_form {catalog : Catalog} {value : Json} {inner : List Char} {text : String}
    (stored : ∀ entry ∈ catalog.classes, entry.DefaultsStored) (form : catalog.Form value)
    (shown : ValueText value inner) (around : Spaced inner text.toList) : ofText text = .ok catalog := by
  have read := readDocument_of_reads (reads_readCatalog form shown stored) around
  obtain ⟨_, _, members, _, _, _, rfl⟩ := form
  rw [ofText, if_pos (isJsonText_of_object shown around), ofJson, read]
  rfl

/-- A catalog that is written is read back. -/
theorem ofText_pretty_json {catalog : Catalog} (stored : ∀ entry ∈ catalog.classes, entry.DefaultsStored) :
    ofText catalog.json.pretty = .ok catalog :=
  ofText_of_form stored catalog.form_json (valueText_prettyAt (whole_json stored) 0) spaced_pretty

/-- A catalog is read from every text of each of its forms, if its defaults lie no deeper than `defaultNesting`,
which is 120. The member `default` of a parameter is null exactly if the parameter has the default null, and is
missing exactly if it has none. -/
theorem ofText_of_any_form {catalog : Catalog} {value : Json} {inner : List Char} {text : String}
    (stored : ∀ entry ∈ catalog.classes, entry.DefaultsStored) (form : catalog.Form value)
    (shown : ValueText value inner) (around : Spaced inner text.toList) :
    ofText text = .ok catalog ∧
      ∀ (parameter : Parameter) (members : List (String × Json)), parameter.Form (.object members) →
        (("default", .null) ∈ members ↔ parameter.default = some .null) ∧
        ("default" ∉ members.map Prod.fst ↔ parameter.default = none) := by
  refine ⟨ofText_of_form stored form shown around, fun parameter members form => ?_⟩
  refine ⟨form.mem_default_iff .null, ?_⟩
  rw [Option.eq_none_iff_forall_ne_some]
  constructor
  · intro absent value given
    exact absent (List.mem_map_of_mem ((form.mem_default_iff value).2 given))
  · intro missing present
    obtain ⟨⟨name, value⟩, listed, rfl⟩ := List.mem_map.1 present
    exact missing value ((form.mem_default_iff value).1 listed)

/-- A class behind an unknown member, with its members in another order and the fields `static` and `doc` left
out of one place and written in another. -/
theorem ofText_of_reordered_form :
    let catalog : Catalog :=
      ⟨[⟨"Items", none, [⟨"getItem", true, none, [⟨"id", none⟩, ⟨"lang", some .null⟩]⟩]⟩]⟩
    let id : Json := .object [("name", .string "id")]
    let lang : Json := .object [("default", .null), ("name", .string "lang")]
    let method : Json :=
      .object [("static", .bool true), ("parameters", .array [id, lang]), ("name", .string "getItem")]
    let entry : Json := .object [("methods", .array [method]), ("name", .string "Items"), ("doc", .null)]
    let value : Json := .object [("version", .number (.integer 2)), ("classes", .array [entry])]
    ofText value.pretty = .ok catalog := by
  intro catalog id lang method entry value
  have stored : ∀ entry ∈ catalog.classes, entry.DefaultsStored := by
    simp [catalog, ClassEntry.DefaultsStored, Stored.null]
  have whole : Whole value := by
    simp [value, entry, method, lang, id]
  have idForm : Parameter.Form ⟨"id", none⟩ id := ⟨[], .omitted rfl, .of_fields _ _⟩
  have langForm : Parameter.Form ⟨"lang", some .null⟩ lang :=
    ⟨[("default", .null)], .written rfl, _, [], .swap _ _ _, by simp [Unknown], rfl⟩
  have methodForm : Method.Form ⟨"getItem", true, none, [⟨"id", none⟩, ⟨"lang", some .null⟩]⟩ method :=
    ⟨[("static", .bool true)], [], [("parameters", .array [id, lang])], .written rfl, .omitted rfl,
      .written ⟨_, .cons idForm (.cons langForm .nil), rfl⟩,
      _, [], List.perm_append_singleton _ [_, _], by simp [Unknown], rfl⟩
  have entryForm : ClassEntry.Form ⟨"Items", none, _⟩ entry :=
    ⟨[("doc", .null)], [("methods", .array [method])], .written rfl, .written ⟨_, .cons methodForm .nil, rfl⟩,
      _, [], @List.perm_append_comm _ [_] _, by simp [Unknown], rfl⟩
  have form : catalog.Form value :=
    ⟨[("classes", .array [entry])], .written ⟨_, .cons entryForm .nil, rfl⟩,
      _, [("version", .number (.integer 2))], .swap _ _ _, by simp [Unknown], rfl⟩
  exact (ofText_of_any_form stored form (valueText_prettyAt whole 0) spaced_pretty).1

end Catalog

end ClientStub
