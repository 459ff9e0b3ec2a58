import ClientStub.Entries

/-!
# Templates

A template is text with tokens such as `___NAME___`. Rendering puts the bound text in the place of each
token and leaves a token without a binding as it is. A template is cut into its pieces before anything is
bound, so text that was put in is never looked at again.
-/

namespace ClientStub.Template

/-- A piece of a template: a character that stands for itself, or a token. -/
inductive Piece where
  | literal (c : Char)
  | token (name : List Char)
  deriving DecidableEq, Repr

def isLetter (c : Char) : Bool := c.isAlpha

def isNameChar (c : Char) : Bool := c.isAlphanum || c = '_'

/-- The shortest run of name characters that three underscores follow, and the text behind those. -/
def closing? : List Char → Option (List Char × List Char)
  | '_' :: '_' :: '_' :: rest => some ([], rest)
  | c :: rest => if isNameChar c then (closing? rest).map fun (name, after) => (c :: name, after) else none
  | [] => none

/-- The name of the token that a text begins with, and the text behind the token. A name begins with a
letter. -/
def token? : List Char → Option (List Char × List Char)
  | '_' :: '_' :: '_' :: c :: rest =>
    if isLetter c then (closing? rest).map fun (name, after) => (c :: name, after) else none
  | _ => none

theorem closing?_length {text name after : List Char} (found : closing? text = some (name, after)) :
    after.length < text.length := by
  fun_induction closing? text generalizing name with
  | case1 => simp at found; simp [← found.2]; omega
  | case2 c rest _ _ ih =>
    simp only [Option.map_eq_some_iff, Prod.exists, Prod.mk.injEq] at found
    obtain ⟨inner, _, found, _, rfl⟩ := found
    have := ih found
    simp; omega
  | case3 => simp at found
  | case4 => simp at found

theorem token?_length {text name after : List Char} (found : token? text = some (name, after)) :
    after.length < text.length := by
  unfold token? at found
  split at found
  · split at found
    · simp only [Option.map_eq_some_iff, Prod.exists, Prod.mk.injEq] at found
      obtain ⟨_, _, found, _, rfl⟩ := found
      have := closing?_length found
      simp; omega
    · simp at found
  · simp at found

/-- Cuts a template into pieces, from the left and each token as short as can be. -/
def pieces (template : List Char) : List Piece :=
  match template with
  | [] => []
  | c :: rest =>
    match _found : token? (c :: rest) with
    | some (name, after) => .token name :: pieces after
    | none => .literal c :: pieces rest
termination_by template.length
decreasing_by
  · exact token?_length _found
  · simp

/-- The text of a token in a template. -/
def tokenText (name : List Char) : List Char := "___".toList ++ name ++ "___".toList

/-- The text of a piece as it stands in the template. -/
def Piece.source : Piece → List Char
  | literal c => [c]
  | token name => tokenText name

theorem closing?_source {text name after : List Char} (found : closing? text = some (name, after)) :
    name ++ "___".toList ++ after = text := by
  fun_induction closing? text generalizing name with
  | case1 =>
    obtain ⟨rfl, rfl⟩ : name = [] ∧ _ = after := by simpa using found
    simp
  | case2 c rest _ _ ih =>
    simp only [Option.map_eq_some_iff, Prod.exists, Prod.mk.injEq] at found
    obtain ⟨inner, _, found, rfl, rfl⟩ := found
    simpa using ih found
  | case3 => simp at found
  | case4 => simp at found

theorem token?_source {text name after : List Char} (found : token? text = some (name, after)) :
    tokenText name ++ after = text := by
  unfold token? at found
  split at found
  · split at found
    · simp only [Option.map_eq_some_iff, Prod.exists, Prod.mk.injEq] at found
      obtain ⟨inner, _, found, rfl, rfl⟩ := found
      simpa [tokenText] using closing?_source found
    · simp at found
  · simp at found

/-- The pieces of a template make up the template. -/
theorem flatMap_source_pieces (template : List Char) :
    (pieces template).flatMap Piece.source = template := by
  fun_induction pieces template with
  | case1 => rfl
  | case2 c rest name after found ih =>
    rw [List.flatMap_cons, ih]; exact token?_source found
  | case3 c rest found ih => simp [Piece.source, ih]

/-- The text that a piece is rendered as. -/
def Piece.render (bindings : Entries String) : Piece → List Char
  | literal c => [c]
  | token name =>
    match bindings.get? (String.ofList name) with
    | some text => text.toList
    | none => tokenText name

/-- The text of a template with its tokens bound. -/
def render (template : String) (bindings : Entries String) : String :=
  String.ofList ((pieces template.toList).flatMap (Piece.render bindings))

end ClientStub.Template
