import ClientStub.Proofs.Declaration
import Mathlib.Logic.Relation

/-!
# Parameters and their declarations

A parameter of the catalog is described by the last tag that declares its name. Which tag that is does not
change when tags of different parameters change places, when a tag declares what is no parameter, or when a
parameter is declared once more before its last declaration; so a change of the tags that is made of such
steps leaves the descriptors as they are.
-/

namespace ClientStub

open ClientStub.Text

/-- The last of the bodies that declare a name. -/
def lastDeclaring? (name : String) (bodies : List String) : Option String :=
  bodies.reverse.find? fun body => declaredName body = name

theorem lastDeclaring?_append (name : String) (front behind : List String) :
    lastDeclaring? name (front ++ behind) = (lastDeclaring? name behind).or (lastDeclaring? name front) := by
  rw [lastDeclaring?, List.reverse_append, List.find?_append]
  rfl

theorem lastDeclaring?_cons (name body : String) (behind : List String) :
    lastDeclaring? name (body :: behind) =
      (lastDeclaring? name behind).or (if declaredName body = name then some body else none) := by
  rw [← List.singleton_append, lastDeclaring?_append]
  simp only [lastDeclaring?, List.reverse_singleton, List.find?_singleton, decide_eq_true_eq]

/-- The last declaration of a name, and no declaration of the name behind it. -/
theorem exists_last_declaring {name body : String} {bodies : List String}
    (found : lastDeclaring? name bodies = some body) :
    declaredName body = name ∧
      ∃ before after, bodies = before ++ body :: after ∧ ∀ later ∈ after, declaredName later ≠ name := by
  obtain ⟨named, above, below, source, others⟩ := List.find?_eq_some_iff_append.1 found
  refine ⟨by simpa using named, below.reverse, above.reverse, ?_, fun later listed => ?_⟩
  · rw [← List.reverse_reverse bodies, source]
    simp
  · simpa using others later (List.mem_reverse.1 listed)

theorem lastDeclaring?_eq_none_iff {name : String} {bodies : List String} :
    lastDeclaring? name bodies = none ↔ ∀ body ∈ bodies, declaredName body ≠ name := by
  simp [lastDeclaring?]

/-- A parameter's declaration is read off its last body. -/
theorem declaration?_eq (tags : TagMap) (name : String) :
    tags.declaration? name = (lastDeclaring? name (tags.all "param")).map Declaration.ofTag := by
  have same (declaration : Declaration) : (declaration.parameterName == name) =
      decide (declaration.parameterName = name) := by
    rw [Bool.eq_iff_iff, beq_iff_eq, decide_eq_true_eq]
  simp only [TagMap.declaration?, lastDeclaring?, ← List.map_reverse, List.find?_map, Function.comp_def, same,
    parameterName_ofTag]

/-- A table that is filled from the first tag to the last holds the last declaration of each name. -/
theorem declaration?_eq_get? (tags : TagMap) (name : String) :
    tags.declaration? name =
      Entries.get? name
        (.ofList ((tags.all "param").map fun body => (declaredName body, Declaration.ofTag body))) := by
  rw [Entries.get?_ofList, declaration?_eq, lastDeclaring?, ← List.map_reverse]
  induction (tags.all "param").reverse with
  | nil => rfl
  | cons body bodies ih =>
    rw [List.map_cons, List.lookup_cons, List.find?_cons]
    by_cases same : declaredName body = name
    · simp [same]
    · simpa [same, beq_false_of_ne (Ne.symm same)] using ih

/-- One change of the tags that declare parameters, where `names` are those of the parameters. -/
inductive Redeclared (names : List String) : List String → List String → Prop
  /-- Two neighbours that declare different names change places. -/
  | swap (first second : String) (front behind : List String)
      (differ : declaredName first ≠ declaredName second) :
      Redeclared names (front ++ first :: second :: behind) (front ++ second :: first :: behind)
  /-- A tag comes in that declares the name of no parameter. -/
  | foreign (body : String) (front behind : List String) (unused : declaredName body ∉ names) :
      Redeclared names (front ++ behind) (front ++ body :: behind)
  /-- A tag comes in before another one of the same name. -/
  | earlier (body : String) (front behind : List String)
      (again : ∃ later ∈ behind, declaredName later = declaredName body) :
      Redeclared names (front ++ behind) (front ++ body :: behind)

/-- One change leaves the last declaration of every parameter what it was. -/
theorem Redeclared.lastDeclaring?_eq {names bodies others : List String}
    (change : Redeclared names bodies others) {name : String} (listed : name ∈ names) :
    lastDeclaring? name bodies = lastDeclaring? name others := by
  cases change with
  | swap first second front behind differ =>
    rw [lastDeclaring?_append, lastDeclaring?_append]
    refine congrArg (fun last : Option String => last.or (lastDeclaring? name front)) ?_
    simp only [lastDeclaring?_cons]
    by_cases one : declaredName first = name
    · have two : declaredName second ≠ name := fun same => differ (one.trans same.symm)
      rw [if_neg two, Option.or_none, Option.or_none]
    · rw [if_neg one, Option.or_none, Option.or_none]
  | foreign body front behind unused =>
    have other : declaredName body ≠ name := fun same => unused (same ▸ listed)
    rw [lastDeclaring?_append, lastDeclaring?_append, lastDeclaring?_cons, if_neg other, Option.or_none]
  | earlier body front behind again =>
    rw [lastDeclaring?_append, lastDeclaring?_append, lastDeclaring?_cons]
    by_cases same : declaredName body = name
    · obtain ⟨later, below, repeated⟩ := again
      have found : lastDeclaring? name behind ≠ none := fun absent =>
        lastDeclaring?_eq_none_iff.1 absent later below (repeated.trans same)
      obtain ⟨last, found⟩ := Option.ne_none_iff_exists'.1 found
      rw [found, Option.some_or, Option.some_or, Option.some_or]
    · rw [if_neg same, Option.or_none]

/-- Any number of changes, made or undone, leave it what it was. -/
theorem lastDeclaring?_eq_of_changes {names bodies others : List String}
    (changes : Relation.EqvGen (Redeclared names) bodies others) {name : String} (listed : name ∈ names) :
    lastDeclaring? name bodies = lastDeclaring? name others := by
  induction changes with
  | rel _ _ change => exact change.lastDeclaring?_eq listed
  | refl _ => rfl
  | symm _ _ _ ih => exact ih.symm
  | trans _ _ _ _ _ first second => exact first.trans second

theorem describe_eq_of_declaration? {parameter : Parameter} {tags others : TagMap}
    (same : tags.declaration? parameter.name = others.declaration? parameter.name) :
    parameter.describe tags = parameter.describe others := by
  rw [Parameter.describe, Parameter.describe, same]

/-- How a parameter of the catalog is described where its tags have the given bodies: its name is kept, it is
required exactly if it has no default, and its type and description are those of the last body that declares
its name, if there is one. A body without words declares no type. -/
structure DescribedBy (bodies : List String) (parameter : Parameter) (described : RouteParameter) : Prop where
  name : described.name = parameter.name
  required : described.required = true ↔ parameter.default = none
  default : described.default = parameter.default.map Json.defaultLiteral
  declared :
    (∃ before body after, bodies = before ++ body :: after ∧ declaredName body = parameter.name ∧
      (∀ later ∈ after, declaredName later ≠ parameter.name) ∧
      described.type = (words body.toList)[0]?.map String.ofList ∧
      described.description = (Declaration.ofTag body).description) ∨
    ((∀ body ∈ bodies, declaredName body ≠ parameter.name) ∧ described.type = none ∧
      described.description = "")

theorem describedBy_describe (parameter : Parameter) (tags : TagMap) :
    DescribedBy (tags.all "param") parameter (parameter.describe tags) where
  name := rfl
  required := Option.isNone_iff_eq_none
  default := rfl
  declared := by
    unfold Parameter.describe
    dsimp only
    rw [declaration?_eq]
    cases found : lastDeclaring? parameter.name (tags.all "param") with
    | none => exact .inr ⟨lastDeclaring?_eq_none_iff.1 found, rfl, rfl⟩
    | some body =>
      obtain ⟨named, before, after, source, others⟩ := exists_last_declaring found
      exact .inl ⟨before, body, after, source, named, others, type?_ofTag body, rfl⟩

/-- The parameters of a method are described one by one and in their order, each by the last tag that declares
its name; a table of the declarations in which later tags overwrite earlier ones holds the same. Changes of the
tags that leave the last declaration of each parameter in its place leave the descriptors as they are. -/
theorem route_follows_last_declarations (method : Method) (tags : TagMap) :
    List.Forall₂ (DescribedBy (tags.all "param")) method.parameters (method.describeWith tags).route ∧
    (∀ name, tags.declaration? name =
      Entries.get? name
        (.ofList ((tags.all "param").map fun body => (declaredName body, Declaration.ofTag body)))) ∧
    ∀ others : TagMap,
      Relation.EqvGen (Redeclared (method.parameters.map Parameter.name)) (tags.all "param")
        (others.all "param") →
      (method.describeWith others).route = (method.describeWith tags).route := by
  refine ⟨?_, declaration?_eq_get? tags, fun others changes => ?_⟩
  · refine List.forall₂_map_right_iff.2 (List.forall₂_same.2 fun parameter _ => ?_)
    exact describedBy_describe parameter tags
  · refine List.map_congr_left fun parameter listed => ?_
    refine describe_eq_of_declaration? ?_
    rw [declaration?_eq, declaration?_eq,
      lastDeclaring?_eq_of_changes changes (List.mem_map_of_mem listed)]

/-- Two blocks that declare `id` and `page` last in the same way. The tags stand in another order, `id` is
declared once more before, and the other tags, most of them too short, declare no parameter. The default of
`page` is a null. -/
theorem route_of_redeclared_items :
    let method : Method := ⟨"getItem", false, none, [⟨"id", none⟩, ⟨"page", some .null⟩]⟩
    let tags := DocBlock.tags (some "@param int $$id The\nitem @param number page @param")
    let others := DocBlock.tags
      (some "@param id @param text $none @param id id @param number page @param int $$id The\n item")
    (method.describeWith tags).route =
      [⟨"id", some "int", true, none, "The\nitem"⟩, ⟨"page", some "number", false, some "null", ""⟩] ∧
    (method.describeWith others).route = (method.describeWith tags).route := by
  intro method tags others
  have said : tags.all "param" = ["int $$id The\nitem", "number page", ""] := by decide +kernel
  have otherSaid : others.all "param" =
      ["id", "text $none", "id id", "number page", "int $$id The\nitem"] := by decide +kernel
  let names := method.parameters.map Parameter.name
  have short : Redeclared names ["int $$id The\nitem", "number page"]
      ["int $$id The\nitem", "number page", ""] :=
    .foreign "" ["int $$id The\nitem", "number page"] [] (by decide +kernel)
  have moved : Redeclared names ["int $$id The\nitem", "number page"]
      ["number page", "int $$id The\nitem"] :=
    .swap "int $$id The\nitem" "number page" [] [] (by decide +kernel)
  have again : Redeclared names ["number page", "int $$id The\nitem"]
      ["id id", "number page", "int $$id The\nitem"] :=
    .earlier "id id" [] ["number page", "int $$id The\nitem"]
      ⟨"int $$id The\nitem", by simp, by decide +kernel⟩
  have unknown : Redeclared names ["id id", "number page", "int $$id The\nitem"]
      ["text $none", "id id", "number page", "int $$id The\nitem"] :=
    .foreign "text $none" [] _ (by decide +kernel)
  have nameless : Redeclared names ["text $none", "id id", "number page", "int $$id The\nitem"]
      ["id", "text $none", "id id", "number page", "int $$id The\nitem"] :=
    .foreign "id" [] _ (by decide +kernel)
  have changes : Relation.EqvGen (Redeclared names) (tags.all "param") (others.all "param") := by
    rw [said, otherSaid]
    exact ((Relation.EqvGen.rel _ _ short).symm.trans _ _ _ (.rel _ _ moved)).trans _ _ _
      (((Relation.EqvGen.rel _ _ again).trans _ _ _ (.rel _ _ unknown)).trans _ _ _ (.rel _ _ nameless))
  exact ⟨by decide +kernel, (route_follows_last_declarations method tags).2.2 others changes⟩

end ClientStub
