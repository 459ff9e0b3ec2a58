import Mathlib.Data.List.TakeWhile

/-!
# Runs and gaps

A run of characters of a kind reaches to the first character of another kind. So a text is a word, or a word with a
gap and a text behind it, and what is shown for both holds of every text.
-/

namespace ClientStub.Text

section

variable {kind : Char → Bool} {run behind : List Char}

theorem takeWhile_run_append (all : ∀ c ∈ run, kind c = true) (stops : ∀ c ∈ behind.head?, kind c = false) :
    (run ++ behind).takeWhile kind = run := by
  rw [List.takeWhile_append_of_pos all]
  cases behind with
  | nil => simp
  | cons c behind => simp [stops c rfl]

theorem dropWhile_run_append (all : ∀ c ∈ run, kind c = true) (stops : ∀ c ∈ behind.head?, kind c = false) :
    (run ++ behind).dropWhile kind = behind := by
  rw [List.dropWhile_append_of_pos all]
  cases behind with
  | nil => rfl
  | cons c behind => simp [stops c rfl]

/-- Behind the run of a kind there is nothing, or a character of another kind. -/
theorem eq_false_of_head?_dropWhile {text : List Char} : ∀ c ∈ (text.dropWhile kind).head?, kind c = false := by
  intro c first
  have stopped := List.head?_dropWhile_not kind text
  rw [Option.mem_def.1 first] at stopped
  simpa using stopped

end

/-- The characters of a gap are those that `gap` holds of; a word has none of them and may be empty. -/
theorem words_induction {motive : List Char → Prop} (isGap : Char → Bool)
    (word : ∀ word, (∀ c ∈ word, isGap c = false) → motive word)
    (gap : ∀ word c more rest, (∀ d ∈ word, isGap d = false) → (∀ d ∈ c :: more, isGap d = true) →
      (∀ d ∈ rest.head?, isGap d = false) → motive rest → motive (word ++ c :: (more ++ rest)))
    (text : List Char) : motive text := by
  generalize size : text.length = n
  induction n using Nat.strongRecOn generalizing text with
  | ind n ih =>
    have first : ∀ c ∈ text.takeWhile fun c => !isGap c, isGap c = false := by
      intro c listed
      simpa using List.mem_takeWhile_imp listed
    have cut := List.takeWhile_append_dropWhile (p := fun c => !isGap c) (l := text)
    cases behind : text.dropWhile fun c => !isGap c with
    | nil =>
      rw [behind, List.append_nil] at cut
      rw [← cut]
      exact word _ first
    | cons c behind' =>
      have separates : isGap c = true := by
        have head := List.head?_dropWhile_not (fun c => !isGap c) text
        rw [behind] at head
        simpa using head
      have gaps : ∀ d ∈ c :: behind'.takeWhile isGap, isGap d = true := by
        rw [List.forall_mem_cons]
        exact ⟨separates, fun d listed => List.mem_takeWhile_imp listed⟩
      have ends : ∀ d ∈ (behind'.dropWhile isGap).head?, isGap d = false := by
        intro d head
        have stops := List.head?_dropWhile_not isGap behind'
        rw [Option.mem_def] at head
        rw [head] at stops
        simpa using stops
      have shorter : (behind'.dropWhile isGap).length < n := by
        have lengths := congrArg List.length cut
        have fewer := (List.dropWhile_sublist (l := behind') isGap).length_le
        rw [behind, List.length_append, List.length_cons] at lengths
        omega
      rw [behind, ← List.takeWhile_append_dropWhile (p := isGap) (l := behind')] at cut
      rw [← cut]
      exact gap _ _ _ _ first gaps ends (ih _ shorter _ rfl)

end ClientStub.Text
