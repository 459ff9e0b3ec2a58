import ClientStub.Proofs.DocBlock.Introducers
import ClientStub.Proofs.Text.Trim
import Mathlib.Data.List.Basic

/-!
# Quiet texts

How texts without introducers are put together and taken apart. Put one behind the other they stay quiet; a
part stays quiet if no opening brace follows it, or if what stands before it would not have kept its own
first character from beginning a tag. So what a text is cut into at its introducers is quiet, and words and
trimmed parts of it are.
-/

namespace ClientStub.DocBlock

open ClientStub.Text

/-- No white space keeps an at sign behind it from beginning a tag. -/
theorem bindsIntroducer_of_isBlank {c : Char} (blank : isBlank c = true) : bindsIntroducer c = false := by
  have clear : blanks.all (fun b => !bindsIntroducer b) = true := by decide +kernel
  have listed : c ∈ blanks := by simpa [isBlank] using blank
  simpa using List.all_eq_true.1 clear c listed

theorem cut_of_not_mem {text : List Char} (absent : introducer ∉ text) (before : Option Char) :
    cut before text = (text, []) := by
  refine cut_eq_of_snd_eq_nil ((cut_snd_eq_nil_iff before text).2 fun front behind source => ?_)
  rw [source] at absent
  simp at absent

theorem quiet_of_not_mem {text : List Char} (absent : introducer ∉ text) : Quiet text :=
  quiet_iff_cut.2 (cut_of_not_mem absent none)

theorem Quiet.append {first second : List Char} (quietFirst : Quiet first) (quietSecond : Quiet second) :
    Quiet (first ++ second) := by
  intro front behind source
  rcases List.append_eq_append_iff.1 source with ⟨middle, rfl, rest⟩ | ⟨middle, rfl, rest⟩
  · have kept := quietSecond middle behind rest
    cases middle with
    | nil =>
      -- The at sign stands first in the second text, where only the brace behind it can hold it back.
      unfold beginsTag at kept ⊢
      simp_all
    | cons c middle => rwa [List.getLast?_append_of_ne_nil _ (by simp)]
  · cases middle with
    | nil =>
      have kept := quietSecond [] behind rest.symm
      unfold beginsTag at kept ⊢
      simp_all
    | cons c middle =>
      obtain ⟨rfl, rfl⟩ := List.cons.inj rest
      have kept := quietFirst front middle rfl
      cases middle with
      | nil =>
        unfold beginsTag at kept ⊢
        simp_all
      | cons d middle => exact kept

theorem Quiet.of_append_left {first second : List Char} (quiet : Quiet (first ++ second))
    (unbraced : second.head? ≠ some '\x7b') : Quiet first := by
  intro front behind source
  have kept := quiet front (behind ++ second) (by simp [source])
  cases behind with
  | nil =>
    unfold beginsTag at kept ⊢
    simp_all
  | cons c behind => exact kept

theorem Quiet.of_append_right {first second : List Char} (quiet : Quiet (first ++ second))
    (loose : second.head? = some introducer → first.getLast?.any bindsIntroducer = false) :
    Quiet second := by
  intro front behind source
  have kept := quiet (first ++ front) behind (by simp [source])
  cases front with
  | nil =>
    have loose := loose (by simp [source])
    rw [List.append_nil] at kept
    unfold beginsTag at kept ⊢
    simp_all
  | cons c front => rwa [List.getLast?_append_of_ne_nil _ (by simp)] at kept

theorem any_getLast?_of_blank {text : List Char} (blank : isBlankText text = true) :
    text.getLast?.any bindsIntroducer = false := by
  cases last : text.getLast? with
  | none => rfl
  | some c =>
    have listed : c ∈ text := List.mem_of_getLast? last
    exact bindsIntroducer_of_isBlank (List.all_eq_true.1 blank c listed)

theorem head?_ne_of_blank {text : List Char} (blank : isBlankText text = true) {c : Char}
    (other : isBlank c = false) : text.head? ≠ some c := by
  intro first
  have listed : c ∈ text := List.mem_of_head? first
  have blankHead := List.all_eq_true.1 blank c listed
  simp [other] at blankHead

theorem Quiet.trim {text : List Char} (quiet : Quiet text) : Quiet (trim text) := by
  obtain ⟨front, behind, blankFront, blankBehind, source⟩ := trim_source text
  rw [source] at quiet
  have shorter := quiet.of_append_left (head?_ne_of_blank blankBehind rfl)
  exact shorter.of_append_right fun _ => any_getLast?_of_blank blankFront

theorem head?_cut (before : Option Char) (text : List Char) :
    (cut before text).1.head? = some '\x7b' ↔ text.head? = some '\x7b' := by
  cases text with
  | nil => rfl
  | cons c rest =>
    simp only [cut]
    split
    · rename_i begins
      have sign : c = introducer := by
        simp only [beginsTag, Bool.and_eq_true, decide_eq_true_eq] at begins
        exact begins.1.1
      simp [sign, introducer]
    · simp

/-- What stands before the first introducer of a text, and what stands behind each of them, has none. -/
theorem cut_parts (before : Option Char) (text : List Char) :
    (cut before (cut before text).1).2 = [] ∧ ∀ part ∈ (cut before text).2, Quiet part := by
  induction text generalizing before with
  | nil => simp [cut]
  | cons c rest ih =>
    obtain ⟨lead, parts⟩ := ih (some c)
    simp only [cut]
    split
    · rename_i begins
      have sign : c = introducer := by
        simp only [beginsTag, Bool.and_eq_true, decide_eq_true_eq] at begins
        exact begins.1.1
      subst sign
      refine ⟨rfl, fun part listed => ?_⟩
      rcases List.mem_cons.1 listed with rfl | listed
      · have same : (none : Option Char).any bindsIntroducer = (some introducer).any bindsIntroducer := by
          decide
        rw [quiet_iff_cut, cut_congr same]
        exact cut_eq_of_snd_eq_nil lead
      · exact parts part listed
    · rename_i begins
      have same : beginsTag before c (cut (some c) rest).1 = beginsTag before c rest := by
        unfold beginsTag
        rw [Bool.eq_iff_iff]
        simp only [Bool.and_eq_true, bne_iff_ne, ne_eq, head?_cut]
      refine ⟨?_, parts⟩
      simp only [cut, same, begins]
      exact lead

theorem quiet_leading (text : List Char) : Quiet (cut none text).1 :=
  quiet_iff_cut.2 (cut_eq_of_snd_eq_nil (cut_parts none text).1)

theorem cut_append_of_beginsTag {before : Option Char} {lead rest : List Char}
    (quiet : (cut before lead).2 = [])
    (begins : beginsTag (lead.getLast?.or before) introducer rest = true) :
    cut before (lead ++ introducer :: rest) =
      (lead, (cut (some introducer) rest).1 :: (cut (some introducer) rest).2) := by
  induction lead generalizing before with
  | nil =>
    rw [List.getLast?_nil, Option.none_or] at begins
    simp [cut, begins]
  | cons c lead ih =>
    obtain ⟨first, later⟩ := (cut_cons_snd_eq_nil_iff before c lead).1 quiet
    have same : beginsTag before c (lead ++ introducer :: rest) = beginsTag before c lead := by
      cases lead <;> rfl
    have last : (c :: lead).getLast?.or before = lead.getLast?.or (some c) := by
      rw [List.getLast?_cons]
      cases lead.getLast? <;> rfl
    rw [last] at begins
    simp [cut, same, first, ih later begins]

/-- A quiet text, an introducer, and what follows it. -/
theorem cut_append_introducer {lead rest : List Char} (quiet : Quiet lead)
    (loose : lead.getLast?.any bindsIntroducer = false) (unbraced : rest.head? ≠ some '\x7b') :
    cut none (lead ++ introducer :: rest) = (lead, (cut none rest).1 :: (cut none rest).2) := by
  have begins : beginsTag (lead.getLast?.or none) introducer rest = true := by
    simp [beginsTag, loose, unbraced]
  have same : (some introducer).any bindsIntroducer = (none : Option Char).any bindsIntroducer := by decide
  rw [cut_append_of_beginsTag (by rw [quiet_iff_cut.1 quiet]) begins, cut_congr same]

end ClientStub.DocBlock
