import ClientStub.Proofs.Text.Pattern
import ClientStub.Stub.Service
import Mathlib.Data.List.Destutter

/-!
# Finished texts

Finishing a text cuts every run of line feeds down to two. Of the lines this takes those away that are empty
and stand behind an empty one, and no others.
-/

namespace ClientStub

open ClientStub.Text

/-- A character other than a line feed ends every run. -/
theorem shortenRuns_append_cons {c : Char} (other : c ≠ '\n') (run : Nat) (front text : List Char) :
    shortenRuns run (front ++ c :: text) = shortenRuns run front ++ c :: shortenRuns 0 text := by
  induction front generalizing run with
  | nil => simp [shortenRuns, other]
  | cons d front ih =>
    rw [List.cons_append, shortenRuns, shortenRuns]
    split
    · split
      · rw [ih, List.cons_append]
      · exact ih run
    · rw [ih, List.cons_append]

theorem shortenRuns_append_of_not_mem {front : List Char} (absent : '\n' ∉ front) (text : List Char) :
    shortenRuns 0 (front ++ text) = front ++ shortenRuns 0 text := by
  induction front with
  | nil => rfl
  | cons c front ih =>
    rw [List.mem_cons, not_or] at absent
    rw [List.cons_append, shortenRuns, if_neg (Ne.symm absent.1), ih absent.2, List.cons_append]

/-- A line with something in it, whatever run it ends. -/
theorem shortenRuns_line {line : List Char} (filled : line ≠ []) (single : '\n' ∉ line) (run : Nat)
    (rest : List Char) :
    shortenRuns run (line ++ '\n' :: rest) = line ++ '\n' :: shortenRuns 1 rest := by
  obtain ⟨c, line, rfl⟩ := List.exists_cons_of_ne_nil filled
  rw [List.mem_cons, not_or] at single
  rw [List.cons_append, shortenRuns, if_neg (Ne.symm single.1), shortenRuns_append_of_not_mem single.2,
    List.cons_append]
  rfl

/-- With the run that has just passed before it, a shortened text has three line feeds nowhere. -/
theorem lacks_shortenRuns {run : Nat} (short : run ≤ 2) (text : List Char) :
    Lacks "\n\n\n".toList (List.replicate run '\n' ++ shortenRuns run text) := by
  induction text generalizing run with
  | nil =>
    intro found
    have length := found.length_le
    simp [shortenRuns] at length
    omega
  | cons c text ih =>
    rw [shortenRuns]
    split
    · rename_i feed
      subst feed
      split
      · rename_i less
        have longer := ih less
        rwa [List.replicate_succ', List.append_assoc, List.singleton_append] at longer
      · exact ih short
    · rename_i other
      have foreign : c ∉ "\n\n\n".toList := fun listed => other (List.eq_of_mem_replicate (n := 3) listed)
      have before : Lacks "\n\n\n".toList (List.replicate run '\n') := by
        intro found
        have length := found.length_le
        simp at length
        omega
      rw [lacks_append_cons (by decide) foreign]
      exact ⟨before, ih (Nat.zero_le 2)⟩

/-- A text with one line feed at its end loses nothing there. -/
theorem finishedText_eq {text : String} {front : List Char} {c : Char} (solid : isBlank c = false)
    (source : text.toList = front ++ [c, '\n']) :
    (finishedText text).toList = shortenRuns 0 text.toList ∧
      (finishedText text).toList = shortenRuns 0 front ++ [c, '\n'] := by
  have notFeed : c ≠ '\n' := by
    rintro rfl
    exact absurd solid (by decide)
  have shortened : shortenRuns 0 text.toList = shortenRuns 0 front ++ [c, '\n'] := by
    rw [source, shortenRuns_append_cons notFeed]
    rfl
  have finished : (finishedText text).toList = shortenRuns 0 front ++ [c, '\n'] := by
    rw [finishedText, String.toList_ofList, shortened, trimEnd_append_cons solid]
    simp [trimEnd, dropEndWhile, isBlank, blanks]
  exact ⟨finished.trans shortened.symm, finished⟩

/-- One of two neighbouring lines is not empty. -/
def Parted (above below : List Char) : Prop := above ≠ [] ∨ below ≠ []

instance : DecidableRel Parted := fun _ _ => inferInstanceAs (Decidable (_ ∨ _))

/-- Lines without the empty ones that stand behind an empty one. -/
def squeezed (ls : List (List Char)) : List (List Char) := ls.destutter Parted

theorem endLines_destutter' {ls : List (List Char)} (single : ∀ line ∈ ls, '\n' ∉ line) (above : List Char) :
    endLines (ls.destutter' Parted above) =
      above ++ '\n' :: shortenRuns (if above = [] then 2 else 1) (endLines ls) := by
  induction ls generalizing above with
  | nil => simp [endLines, shortenRuns]
  | cons line others ih =>
    rw [List.forall_mem_cons] at single
    rw [endLines_cons]
    by_cases empty : line = []
    · subst empty
      by_cases empty : above = []
      · -- The empty line goes, and so does the line feed that would be the third.
        subst empty
        rw [List.destutter'_cons_neg others (by simp [Parted]), ih single.2]
        rfl
      · rw [List.destutter'_cons_pos others (.inl empty), endLines_cons, ih single.2, if_neg empty]
        rfl
    · rw [List.destutter'_cons_pos others (.inr empty), endLines_cons, ih single.2,
        shortenRuns_line empty single.1, if_neg empty]

/-- Shortening a text squeezes its lines. -/
theorem shortenRuns_endLines {first : List Char} {ls : List (List Char)} (filled : first ≠ [])
    (single : ∀ line ∈ first :: ls, '\n' ∉ line) :
    shortenRuns 0 (endLines (first :: ls)) = endLines (squeezed (first :: ls)) := by
  rw [List.forall_mem_cons] at single
  rw [squeezed, List.destutter_cons', endLines_destutter' single.2, endLines_cons,
    shortenRuns_line filled single.1, if_neg filled]

/-- Lines that pass a test which empty ones fail are kept. -/
theorem filter_squeezed {test : List Char → Bool} (fails : test [] = false) (ls : List (List Char)) :
    (squeezed ls).filter test = ls.filter test := by
  have behind (above : List Char) (ls : List (List Char)) :
      (ls.destutter' Parted above).filter test = (above :: ls).filter test := by
    induction ls generalizing above with
    | nil => rfl
    | cons line others ih =>
      by_cases parted : Parted above line
      · rw [List.destutter'_cons_pos others parted, List.filter_cons, ih, ← List.filter_cons]
      · obtain ⟨rfl, rfl⟩ : above = [] ∧ line = [] := by simpa [Parted] using parted
        have passed : ¬ test [] = true := by simp [fails]
        rw [List.destutter'_cons_neg others parted, ih, List.filter_cons_of_neg passed,
          List.filter_cons_of_neg passed, List.filter_cons_of_neg passed]
  cases ls with
  | nil => rfl
  | cons first ls => exact behind first ls

/-- A line with something in it does not touch those behind it. -/
theorem squeezed_cons {line : List Char} (filled : line ≠ []) (below : List (List Char)) :
    squeezed (line :: below) = line :: squeezed below := by
  cases below with
  | nil => rfl
  | cons second below => exact List.destutter'_cons_pos below (.inl filled)

theorem squeezed_of_forall_ne_nil {ls : List (List Char)} (filled : ∀ line ∈ ls, line ≠ []) : squeezed ls = ls := by
  induction ls with
  | nil => rfl
  | cons line others ih =>
    rw [List.forall_mem_cons] at filled
    rw [squeezed_cons filled.1, ih filled.2]

/-- A line with something in it is kept, whatever stands before and behind it. -/
theorem squeezed_append_cons {line : List Char} (filled : line ≠ []) (above below : List (List Char)) :
    squeezed (above ++ line :: below) = squeezed above ++ line :: squeezed below := by
  have behind (first : List Char) (above : List (List Char)) :
      (above ++ line :: below).destutter' Parted first =
        above.destutter' Parted first ++ squeezed (line :: below) := by
    induction above generalizing first with
    | nil => exact List.destutter'_cons_pos below (.inr filled)
    | cons second above ih =>
      rw [List.cons_append]
      by_cases parted : Parted first second
      · rw [List.destutter'_cons_pos _ parted, List.destutter'_cons_pos _ parted, ih, List.cons_append]
      · rw [List.destutter'_cons_neg _ parted, List.destutter'_cons_neg _ parted, ih]
  rw [← squeezed_cons filled]
  cases above with
  | nil => rfl
  | cons first above => exact behind first above

end ClientStub
