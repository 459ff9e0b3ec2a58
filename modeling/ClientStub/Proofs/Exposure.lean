import ClientStub.Proofs.Catalog
import ClientStub.Proofs.DocBlock.Tags
import ClientStub.Stub.Service

/-!
# What clients get of a catalog

A client has those methods of its class that are not static and whose blocks have the tag `api`. Of everything
else in the catalog it gets nothing but the block of the class, so that two catalogs which agree in these make
one client. The methods that are left out are told of one by one.
-/

namespace ClientStub

open ClientStub.Text

namespace Catalog

/-- The descriptor that a client for the class of a name is made of. -/
def describe (catalog : Catalog) (name : String) : Except Error ClassDescriptor :=
  (catalog.select name).map ClassEntry.describe

/-- The text of the service of the class of a name. -/
def serviceText (catalog : Catalog) (layout : Layout) (name base module_ : String) : Except Error String :=
  (catalog.describe name).map fun descriptor => layout.service name base descriptor module_

/-- The lines that are logged while the class of a name is described. -/
def log (catalog : Catalog) (name : String) : List String :=
  match catalog.select name with
  | .error _ => []
  | .ok entry => entry.notices.map Notice.line

end Catalog

/-- Whether a method is for clients: it is not static, and the map of its block has the tag `api`. -/
def Method.isOffered (method : Method) : Bool := !method.isStatic && (DocBlock.tags method.doc).contains "api"

theorem Method.isMarked_eq_contains (method : Method) :
    method.isMarked = (DocBlock.tags method.doc).contains "api" := by
  have other : "api" ≠ TagMap.descriptionName := by decide
  rw [Bool.eq_iff_iff, TagMap.contains_iff, DocBlock.all_tags_of_ne other, Method.isMarked,
    DocBlock.tag?_eq_head?, List.isSome_head?]

theorem Method.isExposed_eq_isOffered : Method.isExposed = Method.isOffered := by
  funext method
  rw [Method.isExposed, method.isMarked_eq_contains, Method.isOffered]

theorem ClassEntry.describe_eq (entry : ClassEntry) :
    entry.describe = ⟨entry.description, (entry.methods.filter Method.isOffered).map Method.describe⟩ := by
  rw [ClassEntry.describe, Method.isExposed_eq_isOffered]

/-- All that a descriptor has of a class is its block and the methods that are offered. -/
theorem ClassEntry.describe_eq_of_same_offer {entry other : ClassEntry} (sameDoc : other.doc = entry.doc)
    (sameMethods : other.methods.filter Method.isOffered = entry.methods.filter Method.isOffered) :
    other.describe = entry.describe := by
  rw [ClassEntry.describe_eq, ClassEntry.describe_eq, ClassEntry.description, ClassEntry.description, sameDoc,
    sameMethods]

/-- The line that tells of a tag without a name. -/
def namelessLine : String := "debug: skipping tag span without a name"

/-- A line for each tag of a block that has no name. -/
def DocBlock.namelessLines (block : Option String) : List String :=
  List.replicate ((spans (blockText block)).countP fun span => span.name.isEmpty) namelessLine

/-- The line that tells of a method that is left out. -/
def Method.skipLine (className : String) (method : Method) : String :=
  "debug: " ++ className ++ "::" ++ method.name ++
    if method.isStatic then " is static, skipping" else " has no @api marker, skipping"

/-- What is logged of a method while its class is described. -/
def Method.log (className : String) (method : Method) : List String :=
  if method.isOffered then DocBlock.namelessLines method.doc else [method.skipLine className]

theorem DocBlock.map_line_notices (block : Option String) :
    (DocBlock.notices block).map Notice.line = DocBlock.namelessLines block := by
  rw [DocBlock.notices, List.map_replicate]
  cases block <;> rfl

theorem Method.map_line_notices (className : String) (method : Method) :
    (method.notices className).map Notice.line = method.log className := by
  unfold Method.notices Method.log Method.isOffered
  rw [← Method.isMarked_eq_contains]
  cases static : method.isStatic
  · cases marked : method.isMarked
    · simp [Method.skipLine, static, Notice.line, Notice.level, Notice.message, String.append_assoc]
    · exact DocBlock.map_line_notices method.doc
  · simp [Method.skipLine, static, Notice.line, Notice.level, Notice.message, String.append_assoc]

theorem ClassEntry.map_line_notices (entry : ClassEntry) :
    entry.notices.map Notice.line =
      entry.methods.flatMap (Method.log entry.name) ++ DocBlock.namelessLines entry.doc := by
  have each : (fun method => (Method.notices entry.name method).map Notice.line) = Method.log entry.name :=
    funext fun method => method.map_line_notices entry.name
  rw [ClassEntry.notices, List.map_append, List.map_flatMap, DocBlock.map_line_notices, each]

theorem Method.skipLine_ne_namelessLine (className : String) (method : Method) :
    method.skipLine className ≠ namelessLine := by
  intro same
  have ends := congrArg (fun line => line.toList.getLast?) same
  have kept : (method.skipLine className).toList.getLast? = some 'g' := by
    unfold Method.skipLine
    rw [String.toList_append, List.getLast?_append]
    split <;> rfl
  rw [kept] at ends
  exact absurd ends (by decide)

theorem DocBlock.filter_namelessLines (block : Option String) :
    (DocBlock.namelessLines block).filter (· ≠ namelessLine) = [] := by
  rw [List.filter_eq_nil_iff]
  intro line listed
  simp [List.eq_of_mem_replicate listed]

/-- Each method that is not offered has a line, and no other method has one. -/
theorem filter_flatMap_log (className : String) (methods : List Method) :
    (methods.flatMap (Method.log className)).filter (· ≠ namelessLine) =
      (methods.filter fun method => !method.isOffered).map (Method.skipLine className) := by
  induction methods with
  | nil => rfl
  | cons method methods ih =>
    rw [List.flatMap_cons, List.filter_append, ih, List.filter_cons, Method.log]
    cases method.isOffered
    · simp [method.skipLine_ne_namelessLine className]
    · simp only [if_true, DocBlock.filter_namelessLines, List.nil_append, Bool.not_true, Bool.false_eq_true, if_false]

namespace Catalog

/-- A blank name is refused whatever the catalog has, and so is one that no class has. For any other name the
descriptor has the methods of the first class of the name that are offered, in the order of the catalog; the log
has a line for every other method, where the method stands, between the lines of tags without names of the blocks
that are read. Two catalogs with the same block and the same offered methods make the same client. -/
theorem clients_get_offered_methods_only (catalog : Catalog) (name : String) :
    (isBlankText name.toList = true →
      catalog.describe name = .error .blankClassName ∧ Error.blankClassName.kind = "InvalidInput") ∧
    (isBlankText name.toList = false → (∀ entry ∈ catalog.classes, entry.name ≠ name) →
      catalog.describe name = .error (.unknownClass name) ∧
        (Error.unknownClass name).kind = "Introspection") ∧
    (isBlankText name.toList = false → ∀ entry, FirstNamed name entry catalog.classes →
      (∃ description, catalog.describe name =
        .ok ⟨description, (entry.methods.filter Method.isOffered).map Method.describe⟩) ∧
      catalog.log name = entry.methods.flatMap (Method.log name) ++ DocBlock.namelessLines entry.doc ∧
      (catalog.log name).filter (· ≠ namelessLine) =
        (entry.methods.filter fun method => !method.isOffered).map (Method.skipLine name)) ∧
    (∀ (other : Catalog) (entry otherEntry : ClassEntry), FirstNamed name entry catalog.classes →
      FirstNamed name otherEntry other.classes → otherEntry.doc = entry.doc →
      otherEntry.methods.filter Method.isOffered = entry.methods.filter Method.isOffered →
      other.describe name = catalog.describe name ∧
        ∀ layout base module_,
          other.serviceText layout name base module_ = catalog.serviceText layout name base module_) := by
  refine ⟨?_, ?_, ?_, ?_⟩
  · intro blank
    rw [describe, select_of_isBlankText blank]
    exact ⟨rfl, rfl⟩
  · intro written absent
    rw [describe, select_of_forall_ne written absent]
    exact ⟨rfl, rfl⟩
  · intro written entry first
    have selected := select_eq_ok_iff.2 ⟨written, first⟩
    have logged : catalog.log name =
        entry.methods.flatMap (Method.log name) ++ DocBlock.namelessLines entry.doc := by
      rw [log, selected, ← name_of_select selected]
      exact entry.map_line_notices
    refine ⟨⟨entry.description, ?_⟩, logged, ?_⟩
    · rw [describe, selected, ← entry.describe_eq]
      rfl
    · rw [logged, List.filter_append, filter_flatMap_log, DocBlock.filter_namelessLines, List.append_nil]
  · intro other entry otherEntry first otherFirst sameDoc sameMethods
    have same : other.describe name = catalog.describe name := by
      unfold describe
      cases blank : isBlankText name.toList with
      | true => rw [select_of_isBlankText blank, select_of_isBlankText blank]
      | false =>
        rw [select_eq_ok_iff.2 ⟨blank, first⟩, select_eq_ok_iff.2 ⟨blank, otherFirst⟩]
        exact congrArg Except.ok (ClassEntry.describe_eq_of_same_offer sameDoc sameMethods)
    refine ⟨same, fun layout base module_ => ?_⟩
    rw [serviceText, same, serviceText]

/-- Two catalogs that differ in a static method, in one without the tag and in other classes. -/
theorem clients_get_offered_methods_of_items :
    let fetch : Method := ⟨"getItem", false, some "/** Get. @api @ */", [⟨"id", none⟩]⟩
    let make : Method := ⟨"make", true, some "/** @api */", []⟩
    let help : Method := ⟨"help", false, none, []⟩
    let catalog : Catalog := ⟨[⟨" ", none, []⟩, ⟨"Items", some "Items.", [make, fetch, help, fetch]⟩,
      ⟨"Items", none, [help]⟩]⟩
    let other : Catalog := ⟨[⟨"Items", some "Items.", [fetch, fetch]⟩]⟩
    catalog.describe " " = .error .blankClassName ∧
    catalog.describe "Users" = .error (.unknownClass "Users") ∧
    (∃ description, catalog.describe "Items" = .ok ⟨description, [fetch.describe, fetch.describe]⟩) ∧
    catalog.log "Items" =
      ["debug: Items::make is static, skipping", "debug: skipping tag span without a name",
        "debug: Items::help has no @api marker, skipping", "debug: skipping tag span without a name"] ∧
    other.serviceText .builtin "Items" "/api" "app" = catalog.serviceText .builtin "Items" "/api" "app" := by
  intro fetch make help catalog other
  have offered : fetch.isOffered = true := by decide
  have hidden : make.isOffered = false ∧ help.isOffered = false := by decide
  have first : FirstNamed "Items" ⟨"Items", some "Items.", [make, fetch, help, fetch]⟩ catalog.classes :=
    ⟨[⟨" ", none, []⟩], [⟨"Items", none, [help]⟩], rfl, rfl, by simp⟩
  have otherFirst : FirstNamed "Items" ⟨"Items", some "Items.", [fetch, fetch]⟩ other.classes :=
    ⟨[], [], rfl, rfl, nofun⟩
  obtain ⟨-, -, found, same⟩ := clients_get_offered_methods_only catalog "Items"
  obtain ⟨⟨description, described⟩, logged, -⟩ := found (by decide) _ first
  have blank := (clients_get_offered_methods_only catalog " ").1 (by decide)
  have unknown := (clients_get_offered_methods_only catalog "Users").2.1 (by decide) (by simp [catalog])
  refine ⟨blank.1, unknown.1, ⟨description, ?_⟩, ?_, ?_⟩
  · simpa [offered, hidden] using described
  · refine logged.trans ?_
    decide +kernel
  · exact (same other _ _ first otherFirst rfl (by simp [offered, hidden])).2 .builtin "/api" "app"

end Catalog

end ClientStub
