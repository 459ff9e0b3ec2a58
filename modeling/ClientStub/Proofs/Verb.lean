import ClientStub.Proofs.Stub.Placeholders
import ClientStub.Proofs.Text.Gaps

/-!
# Verbs at the start of a name

A name begins with a verb if the verb's own name stands first in it and no lower-case ASCII letter follows. Which
verb is called, and what is left of the name without it, are found apart from one another. Both look at the leading
word, so they agree: a name begins with one verb at most, and then the verb and what is left make up the name.
-/

namespace ClientStub.Verb

open ClientStub.Text

/-- The name begins with the verb, and `rest` stands behind it. -/
structure Begins (verb : Verb) (rest name : String) : Prop where
  source : name = verb.name ++ rest
  ends : ∀ c ∈ rest.toList.head?, ¬ ('a' ≤ c ∧ c ≤ 'z')

theorem isWordChar_eq_false_iff {c : Char} : isWordChar c = false ↔ ¬ ('a' ≤ c ∧ c ≤ 'z') := by
  have letter : isWordChar c = (decide ('a' ≤ c) && decide (c ≤ 'z')) := rfl
  rw [letter, ← Bool.not_eq_true, Bool.and_eq_true, decide_eq_true_eq, decide_eq_true_eq]

theorem isWordChar_of_mem_name {verb : Verb} {c : Char} (listed : c ∈ verb.name.toList) : isWordChar c = true := by
  have letters : verb.name.toList.all isWordChar = true := by cases verb <;> decide
  exact List.all_eq_true.1 letters c listed

theorem ofName?_eq_some_iff {text : String} {verb : Verb} : ofName? text = some verb ↔ text = verb.name := by
  constructor
  · intro named
    unfold ofName? at named
    split at named <;> cases named <;> rfl
  · rintro rfl
    cases verb <;> rfl

theorem leadingWord_append_afterLeadingWord (name : String) : leadingWord name ++ afterLeadingWord name = name := by
  rw [leadingWord, afterLeadingWord, ← String.ofList_append, List.takeWhile_append_dropWhile, String.ofList_toList]

/-- A name begins with a verb exactly if its leading word is the verb's name. -/
theorem begins_iff {verb : Verb} {rest name : String} :
    Begins verb rest name ↔ ofName? (leadingWord name) = some verb ∧ afterLeadingWord name = rest := by
  rw [ofName?_eq_some_iff]
  constructor
  · rintro ⟨rfl, ends⟩
    have letters : ∀ c ∈ verb.name.toList, isWordChar c = true := fun c => isWordChar_of_mem_name
    have stops : ∀ c ∈ rest.toList.head?, isWordChar c = false := fun c first =>
      isWordChar_eq_false_iff.2 (ends c first)
    constructor
    · rw [leadingWord, String.toList_append, takeWhile_run_append letters stops, String.ofList_toList]
    · rw [afterLeadingWord, String.toList_append, dropWhile_run_append letters stops, String.ofList_toList]
  · rintro ⟨word, rfl⟩
    refine ⟨?_, fun c first => ?_⟩
    · rw [← word, leadingWord_append_afterLeadingWord]
    · rw [afterLeadingWord, String.toList_ofList] at first
      exact isWordChar_eq_false_iff.1 (eq_false_of_head?_dropWhile c first)

theorem exists_begins_iff {name : String} : (∃ verb rest, Begins verb rest name) ↔ ofName? (leadingWord name) ≠ none := by
  simp only [begins_iff, exists_and_left, exists_eq', and_true, Option.ne_none_iff_exists']

theorem Begins.unique {verb other : Verb} {rest behind name : String} (first : Begins verb rest name)
    (second : Begins other behind name) : other = verb :=
  Option.some.inj ((begins_iff.1 second).1.symm.trans (begins_iff.1 first).1)

theorem infer_of_begins {verb : Verb} {rest name : String} (begins : Begins verb rest name) : infer name = verb := by
  rw [infer, (begins_iff.1 begins).1, Option.getD_some]

theorem strip_of_begins {verb : Verb} {rest name : String} (begins : Begins verb rest name) : strip name = rest := by
  obtain ⟨word, after⟩ := begins_iff.1 begins
  rw [strip, word, Option.isSome_some, if_pos rfl, after]

theorem infer_of_not_begins {name : String} (verbless : ¬ ∃ verb rest, Begins verb rest name) : infer name = get := by
  rw [exists_begins_iff, not_not] at verbless
  rw [infer, verbless, Option.getD_none]

theorem strip_of_not_begins {name : String} (verbless : ¬ ∃ verb rest, Begins verb rest name) :
    strip name = name := by
  rw [exists_begins_iff, not_not] at verbless
  rw [strip, verbless, Option.isSome_none, if_neg Bool.false_ne_true]

/-- Where no verb begins the name, `get` in front of it makes another one. -/
theorem infer_append_strip_iff {name : String} :
    (infer name).name ++ strip name = name ↔ ∃ verb rest, Begins verb rest name := by
  constructor
  · intro whole
    by_contra verbless
    rw [infer_of_not_begins verbless, strip_of_not_begins verbless, String.append_eq_right_iff] at whole
    exact absurd whole (by decide)
  · rintro ⟨verb, rest, begins⟩
    rw [infer_of_begins begins, strip_of_begins begins, ← begins.source]

/-- The path that a text gives: its kebab case as one segment, unless nothing is left of it. -/
def pathOf (text : String) : String := if kebabCase text = "" then "" else "/" ++ kebabCase text

theorem url_eq_pathOf_strip (method : MethodDescriptor) (base : String) :
    method.url base = String.ofList (dropEndWhile (· = '/') base.toList) ++ pathOf (strip method.serverName) ++
      method.placeholders.text :=
  MethodDescriptor.url_eq method base

/-- A name that begins with a verb begins with no other one; the verb is called, what stands behind it is left, and
the path of the method's URL is made of what is left. Any other name is called with `get` and left whole, in the path
too. So the verb and what is left make up the name exactly if it begins with a verb. The URL is that of every
descriptor with the name on the server's side, whatever clients call it. -/
theorem infer_and_strip_agree (name : String) :
    let HasPath (path : String) : Prop := ∀ (method : MethodDescriptor) (base : String), method.serverName = name →
      method.url base =
        String.ofList (dropEndWhile (· = '/') base.toList) ++ path ++ method.placeholders.text
    (∀ verb rest, Begins verb rest name →
      (∀ other behind, Begins other behind name → other = verb) ∧
      infer name = verb ∧ strip name = rest ∧ HasPath (pathOf rest)) ∧
    ((¬ ∃ verb rest, Begins verb rest name) → infer name = get ∧ strip name = name ∧ HasPath (pathOf name)) ∧
    ((infer name).name ++ strip name = name ↔ ∃ verb rest, Begins verb rest name) := by
  intro HasPath
  have path : HasPath (pathOf (strip name)) := by
    rintro method base rfl
    exact url_eq_pathOf_strip method base
  refine ⟨fun verb rest begins => ?_, fun verbless => ?_, infer_append_strip_iff⟩
  · have left := strip_of_begins begins
    exact ⟨fun _ _ => begins.unique, infer_of_begins begins, left, left ▸ path⟩
  · have left := strip_of_not_begins verbless
    refine ⟨infer_of_not_begins verbless, left, ?_⟩
    rwa [left] at path

/-- A verb before an underscore, and a name that goes on behind a verb with a lower-case letter. -/
theorem infer_and_strip_agree_of_put_and_postage :
    let put_ : MethodDescriptor := ⟨"put_HTTPItem", "get", .get, [⟨"id", none, true, none, ""⟩], [], .ofDescription ""⟩
    let postage : MethodDescriptor := ⟨"postage", "delete", .get, [], [], .ofDescription ""⟩
    Begins put "_HTTPItem" "put_HTTPItem" ∧
    infer "put_HTTPItem" = put ∧ strip "put_HTTPItem" = "_HTTPItem" ∧
    put_.url "https://x.test/v1//" = "https://x.test/v1" ++ "/httpitem" ++ "/:id" ∧
    (¬ ∃ verb rest, Begins verb rest "postage") ∧
    infer "postage" = get ∧ strip "postage" = "postage" ∧
    postage.url "/api" = "/api" ++ "/postage" ++ "" := by
  intro put_ postage
  have begins : Begins put "_HTTPItem" "put_HTTPItem" := begins_iff.2 (by decide)
  have verbless : ¬ ∃ verb rest, Begins verb rest "postage" := by
    rw [exists_begins_iff, not_not]
    decide
  obtain ⟨verb, -, -⟩ := infer_and_strip_agree "put_HTTPItem"
  obtain ⟨-, whole, -⟩ := infer_and_strip_agree "postage"
  obtain ⟨-, called, left, path⟩ := verb put "_HTTPItem" begins
  obtain ⟨calledGet, kept, wholePath⟩ := whole verbless
  have base : String.ofList (dropEndWhile (· = '/') "https://x.test/v1//".toList) = "https://x.test/v1" := by decide
  have segment : pathOf "_HTTPItem" = "/httpitem" := by decide
  have url := path put_ "https://x.test/v1//" rfl
  have wholeUrl := wholePath postage "/api" rfl
  rw [base, segment] at url
  refine ⟨begins, called, left, url, verbless, calledGet, kept, wholeUrl.trans ?_⟩
  decide

end ClientStub.Verb
