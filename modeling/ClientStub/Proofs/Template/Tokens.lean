import ClientStub.Proofs.Entries
import ClientStub.Template
import Mathlib.Data.List.Infix

/-!
# Where the tokens of a template are

Names may hold underscores, so runs of underscores can be read in several ways. Two rules choose one: a token
begins at the first place behind the last token where any begins, and it ends as early as a token that begins
there can. There is one cut of a template by these rules, whatever its tokens are bound to.
-/

namespace ClientStub.Template

/-- A letter, and behind it letters, digits and underscores. -/
def IsTokenName (name : List Char) : Prop :=
  ∃ first rest, name = first :: rest ∧ first.isAlpha = true ∧ ∀ c ∈ rest, c.isAlphanum = true ∨ c = '_'

/-- A text begins with the token of a name. -/
def BeginsWith (name text : List Char) : Prop :=
  IsTokenName name ∧ "___".toList ++ name ++ "___".toList <+: text

/-- A text begins with the token of a name and with no shorter one. -/
def BeginsShortest (name text : List Char) : Prop :=
  BeginsWith name text ∧ ∀ other, BeginsWith other text → name.length ≤ other.length

/-- The template that pieces make up. -/
def source (cut : List Piece) : List Char := cut.flatMap Piece.source

/-- A cut where every token is the shortest at its place, and where no token begins at a character that stands
for itself. -/
def LeftmostShortest : List Piece → Prop
  | [] => True
  | .literal c :: others => (∀ name, ¬ BeginsWith name (c :: source others)) ∧ LeftmostShortest others
  | .token name :: others =>
    BeginsShortest name ("___".toList ++ name ++ "___".toList ++ source others) ∧ LeftmostShortest others

variable {name text after : List Char}

theorem isNameChar_iff {c : Char} : isNameChar c = true ↔ c.isAlphanum = true ∨ c = '_' := by
  rw [isNameChar, Bool.or_eq_true, decide_eq_true_eq]

theorem isNameChar_of_closing? (found : closing? text = some (name, after)) :
    ∀ c ∈ name, isNameChar c = true := by
  fun_induction closing? text generalizing name with
  | case1 =>
    obtain ⟨rfl, -⟩ : name = [] ∧ _ = after := by simpa using found
    exact List.forall_mem_nil _
  | case2 c rest _ letter ih =>
    obtain ⟨⟨inner, behind⟩, inRest, same⟩ := Option.map_eq_some_iff.1 found
    obtain ⟨rfl, rfl⟩ := Prod.mk.inj same
    exact List.forall_mem_cons.2 ⟨letter, ih inRest⟩
  | case3 => cases found
  | case4 => cases found

/-- Where any name is closed, one is found that is no longer. -/
theorem exists_closing? (letters : ∀ c ∈ name, isNameChar c = true) (after : List Char) :
    ∃ short behind, closing? (name ++ "___".toList ++ after) = some (short, behind) ∧
      short.length ≤ name.length := by
  induction name with
  | nil => exact ⟨[], after, rfl, Nat.le_refl 0⟩
  | cons c name ih =>
    rw [List.forall_mem_cons] at letters
    obtain ⟨short, behind, found, le⟩ := ih letters.2
    rw [List.cons_append, List.cons_append]
    unfold closing?
    split
    · exact ⟨[], _, rfl, Nat.zero_le _⟩
    · rename_i d rest _ same
      obtain ⟨rfl, rfl⟩ := List.cons.inj same
      rw [if_pos letters.1, found]
      exact ⟨c :: short, behind, rfl, Nat.succ_le_succ le⟩
    · rename_i same
      cases same

theorem beginsWith_of_token? (found : token? text = some (name, after)) : BeginsWith name text := by
  refine ⟨?_, ⟨after, token?_source found⟩⟩
  unfold token? at found
  split at found
  · rename_i c rest
    split at found
    · rename_i letter
      obtain ⟨⟨inner, behind⟩, inRest, same⟩ := Option.map_eq_some_iff.1 found
      obtain ⟨rfl, rfl⟩ := Prod.mk.inj same
      exact ⟨c, inner, rfl, letter, fun d listed => isNameChar_iff.1 (isNameChar_of_closing? inRest d listed)⟩
    · cases found
  · cases found

/-- Where a text begins with any token, one is found that is no longer. -/
theorem exists_token? (begins : BeginsWith name text) :
    ∃ short behind, token? text = some (short, behind) ∧ short.length ≤ name.length := by
  obtain ⟨⟨c, rest, rfl, letter, letters⟩, behind, rfl⟩ := begins
  obtain ⟨short, last, found, le⟩ := exists_closing? (fun d listed => isNameChar_iff.2 (letters d listed)) behind
  refine ⟨c :: short, last, ?_, Nat.succ_le_succ le⟩
  change token? ('_' :: '_' :: '_' :: c :: (rest ++ "___".toList ++ behind)) = _
  rw [token?, isLetter, if_pos letter, found]
  rfl

theorem token?_eq_none_iff : token? text = none ↔ ∀ name, ¬ BeginsWith name text := by
  constructor
  · intro absent name begins
    obtain ⟨short, behind, found, -⟩ := exists_token? begins
    rw [absent] at found
    cases found
  · intro never
    cases found : token? text with
    | none => rfl
    | some result => exact absurd (beginsWith_of_token? found) (never result.1)

/-- Two tokens that begin one text are the same if their names are equally long. -/
theorem name_eq_of_length_eq {other : List Char} (begins : BeginsWith name text) (begun : BeginsWith other text)
    (same : name.length = other.length) : name = other := by
  obtain ⟨behind, source⟩ := begins.2
  obtain ⟨after, sourceOther⟩ := begun.2
  have whole := source.trans sourceOther.symm
  have lengths : (tokenText name).length = (tokenText other).length := by simp [tokenText, same]
  simpa [tokenText] using (List.append_inj whole lengths).1

theorem token?_eq_some_iff :
    token? text = some (name, after) ↔ BeginsShortest name text ∧ tokenText name ++ after = text := by
  constructor
  · intro found
    refine ⟨⟨beginsWith_of_token? found, fun other begins => ?_⟩, token?_source found⟩
    obtain ⟨short, behind, again, le⟩ := exists_token? begins
    rw [found] at again
    obtain ⟨rfl, -⟩ := Prod.mk.inj (Option.some.inj again)
    exact le
  · rintro ⟨⟨begins, shortest⟩, rfl⟩
    obtain ⟨short, behind, found, le⟩ := exists_token? begins
    have begun := beginsWith_of_token? found
    obtain rfl : name = short :=
      name_eq_of_length_eq begins begun (Nat.le_antisymm (shortest short begun) le)
    rw [found, List.append_cancel_left (token?_source found)]

theorem leftmostShortest_pieces (template : List Char) : LeftmostShortest (pieces template) := by
  fun_induction pieces template with
  | case1 => trivial
  | case2 c rest name after found ih =>
    refine ⟨?_, ih⟩
    obtain ⟨shortest, whole⟩ := token?_eq_some_iff.1 found
    rw [source, flatMap_source_pieces]
    rwa [← whole] at shortest
  | case3 c rest found ih =>
    refine ⟨?_, ih⟩
    rw [source, flatMap_source_pieces]
    exact token?_eq_none_iff.1 found

theorem pieces_of_token? (found : token? text = some (name, after)) :
    pieces text = .token name :: pieces after := by
  cases text with
  | nil => cases found
  | cons c rest =>
    rw [pieces]
    split
    · rename_i again
      rw [found] at again
      obtain ⟨rfl, rfl⟩ := Prod.mk.inj (Option.some.inj again)
      rfl
    · rename_i absent
      rw [found] at absent
      cases absent

theorem pieces_of_token?_eq_none {c : Char} {rest : List Char} (absent : token? (c :: rest) = none) :
    pieces (c :: rest) = .literal c :: pieces rest := by
  rw [pieces]
  split
  · rename_i found
    rw [absent] at found
    cases found
  · rfl

/-- The rules leave no choice. -/
theorem LeftmostShortest.eq_pieces {cut : List Piece} (rules : LeftmostShortest cut) :
    cut = pieces (source cut) := by
  induction cut with
  | nil => simp [source, pieces]
  | cons piece others ih =>
    cases piece with
    | literal c =>
      have absent : token? (c :: source others) = none := token?_eq_none_iff.2 rules.1
      have cut := pieces_of_token?_eq_none absent
      rw [← ih rules.2] at cut
      exact cut.symm
    | token name =>
      have found : token? (tokenText name ++ source others) = some (name, source others) :=
        token?_eq_some_iff.2 ⟨rules.1, rfl⟩
      have cut := pieces_of_token? found
      rw [← ih rules.2] at cut
      exact cut.symm

theorem render_of_unbound {bindings : Entries String} (unbound : ∀ name, bindings.get? name = none)
    (template : String) : render template bindings = template := by
  have same : Piece.render bindings = Piece.source := by
    funext piece
    cases piece with
    | literal c => rfl
    | token name => rw [Piece.render, unbound, Piece.source]
  rw [render, same, flatMap_source_pieces, String.ofList_toList]

theorem ofList_tokenText (name : String) : String.ofList (tokenText name.toList) = "___" ++ name ++ "___" := by
  rw [tokenText, ← String.toList_append, ← String.toList_append, String.ofList_toList]

/-- A name without a binding may as well be bound to the text of its token. -/
theorem render_set_tokenText {bindings : Entries String} {name : String} (unbound : bindings.get? name = none)
    (template : String) :
    render template (bindings.set name ("___" ++ name ++ "___")) = render template bindings := by
  rw [← ofList_tokenText]
  have same : Piece.render (bindings.set name (String.ofList (tokenText name.toList))) =
      Piece.render bindings := by
    funext piece
    cases piece with
    | literal c => rfl
    | token other =>
      by_cases here : String.ofList other = name
      · subst here
        simp [Piece.render, Entries.get?_set_of_get?_eq_none unbound, unbound]
      · rw [Piece.render, Piece.render, Entries.set, Entries.get?_update_of_ne here]
  rw [render, render, same]

/-- There is one cut of a template by the rules, and with any bindings the template is rendered piece by piece
of it: characters as they are, and each token as its binding or as it stands. So without bindings the template
stays as it is, and a binding of a name to its own token changes nothing. -/
theorem render_follows_one_cut (template : String) :
    ∃ cut : List Piece,
      (∀ other, source other = template.toList ∧ LeftmostShortest other ↔ other = cut) ∧
      (∀ bindings : Entries String,
        (render template bindings).toList =
          cut.flatMap fun piece =>
            match piece with
            | .literal c => [c]
            | .token name =>
              match bindings.get? (String.ofList name) with
              | some text => text.toList
              | none => "___".toList ++ name ++ "___".toList) ∧
      render template [] = template ∧
      ∀ (bindings : Entries String) (name : String), bindings.get? name = none →
        render template (bindings.set name ("___" ++ name ++ "___")) = render template bindings := by
  refine ⟨pieces template.toList, fun other => ⟨?_, ?_⟩, fun bindings => ?_, ?_, fun bindings name unbound => ?_⟩
  · rintro ⟨whole, rules⟩
    rw [← whole]
    exact rules.eq_pieces
  · rintro rfl
    exact ⟨flatMap_source_pieces _, leftmostShortest_pieces _⟩
  · rw [render, String.toList_ofList]
    refine List.flatMap_congr fun piece _ => ?_
    cases piece with
    | literal c => rfl
    | token name => rfl
  · exact render_of_unbound (fun name => rfl) template
  · exact render_set_tokenText unbound template

/-- Two tokens side by side, the first one bound to the text of another token, and underscores around a third. -/
theorem render_follows_one_cut_of_adjacent_tokens :
    let template := "___CALL_ARGS______TYPE_CAST___ ____A____"
    let bindings : Entries String := [("A", "a"), ("CALL_ARGS", "___A___")]
    let cut : List Piece :=
      [.token "CALL_ARGS".toList, .token "TYPE_CAST".toList, .literal ' ', .literal '_', .token "A".toList,
        .literal '_']
    source cut = template.toList ∧ LeftmostShortest cut ∧
    render template bindings = "___A______TYPE_CAST___ _a_" ∧
    bindings.get? "TYPE_CAST" = none ∧
    render template (bindings.set "TYPE_CAST" "___TYPE_CAST___") = "___A______TYPE_CAST___ _a_" := by
  intro template bindings cut
  obtain ⟨only, rules, parts, -, own⟩ := render_follows_one_cut template
  have computed : pieces template.toList = cut := by decide +kernel
  have same : only = cut :=
    ((rules _).1 ⟨flatMap_source_pieces template.toList, leftmostShortest_pieces template.toList⟩).symm.trans computed
  have rendered : render template bindings = "___A______TYPE_CAST___ _a_" := by
    rw [← String.toList_inj, parts bindings, same]
    decide +kernel
  have unbound : bindings.get? "TYPE_CAST" = none := by decide
  obtain ⟨whole, shortest⟩ := (rules cut).2 same.symm
  exact ⟨whole, shortest, rendered, unbound, (own bindings "TYPE_CAST" unbound).trans rendered⟩

end ClientStub.Template
