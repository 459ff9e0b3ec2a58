import Mathlib.Data.List.TakeDrop
import ClientStub.Yaml.Printer

/-!
# Places in a YAML text

The place behind a text, and the gaps inside scalars: blanks within a line, or line breaks with the blanks
that indent the line behind them. How lines are written with such a margin.
-/

namespace ClientStub.Yaml

/-- A line break that is read as itself. -/
def isKeptBreak (c : Char) : Bool := c = '\n' || c = '\u2028' || c = '\u2029'

theorem isBreak_of_isKeptBreak {c : Char} (kept : isKeptBreak c = true) : isBreak c = true := by
  simp only [isKeptBreak, isBreak] at kept ⊢
  grind

theorem isGapChar_of_isBreak {c : Char} (breaks : isBreak c = true) : isGapChar c = true := by
  simp [isGapChar, breaks]

theorem isBlankChar_of_isGapChar {c : Char} (apart : isGapChar c = false) : isBlankChar c = false := by
  simp only [isGapChar, Bool.or_eq_false_iff] at apart
  exact apart.1

theorem isBreak_of_isGapChar {c : Char} (apart : isGapChar c = false) : isBreak c = false := by
  simp only [isGapChar, Bool.or_eq_false_iff] at apart
  exact apart.2

/-- Written as it is, a line break is read as itself. -/
theorem isKeptBreak_of_isPrintable {c : Char} (printed : isPrintable c = true) (breaks : isBreak c = true) :
    isKeptBreak c = true := by
  simp only [isBreak, Bool.or_eq_true, decide_eq_true_eq] at breaks
  rcases breaks with (((rfl | rfl) | rfl) | rfl) | rfl
  · decide
  · exact absurd printed (by decide)
  · exact absurd printed (by decide)
  · decide
  · decide

/-- Of white space only spaces and line breaks are written as they are. -/
theorem isSpace_of_isPrintable {c : Char} (printed : isPrintable c = true) (gap : isGapChar c = true)
    (inLine : isBreak c = false) : c = ' ' := by
  simp only [isGapChar, inLine, Bool.or_false, isBlankChar, Bool.or_eq_true, decide_eq_true_eq] at gap
  rcases gap with rfl | rfl
  · rfl
  · exact absurd printed (by decide)

theorem isBreak_of_mem_spaces {n : Nat} : ∀ c ∈ spaces n, isBreak c = false := by
  intro c listed
  rw [(List.mem_replicate.1 listed).2]
  rfl

namespace Cursor

variable {at_ : Cursor}

/-- The place behind a character. -/
def passChar (at_ : Cursor) (c : Char) : Cursor :=
  if isBreak c then ⟨at_.rest.drop 1, at_.index + 1, at_.line + 1, 0⟩ else at_.advance 1

/-- The place behind a text that stands at a place. -/
def pass (text : List Char) (at_ : Cursor) : Cursor := text.foldl passChar at_

@[simp] theorem pass_nil : at_.pass [] = at_ := rfl

theorem pass_cons (c : Char) (text : List Char) : at_.pass (c :: text) = (at_.passChar c).pass text := rfl

theorem pass_append (front behind : List Char) : at_.pass (front ++ behind) = (at_.pass front).pass behind :=
  List.foldl_append

theorem rest_passChar (c : Char) : (at_.passChar c).rest = at_.rest.drop 1 := by
  unfold passChar
  split <;> rfl

theorem rest_pass {text behind : List Char} (stands : at_.rest = text ++ behind) : (at_.pass text).rest = behind := by
  induction text generalizing at_ with
  | nil => exact stands
  | cons c text ih => exact ih (by rw [rest_passChar, stands]; rfl)

theorem next?_of_stands {text behind : List Char} (some_ : text ≠ []) (stands : at_.rest = text ++ behind) :
    at_.next? = text.head? := by
  rw [Cursor.next?, stands]
  cases text with
  | nil => exact absurd rfl some_
  | cons c text => rfl

theorem index_pass (text : List Char) : (at_.pass text).index = at_.index + text.length := by
  induction text generalizing at_ with
  | nil => rfl
  | cons c text ih =>
    have one : (at_.passChar c).index = at_.index + 1 := by
      unfold passChar
      split <;> rfl
    rw [pass_cons, ih, one, List.length_cons]
    omega

theorem line_pass (text : List Char) : (at_.pass text).line = at_.line + text.countP isBreak := by
  induction text generalizing at_ with
  | nil => rfl
  | cons c text ih =>
    rw [pass_cons, ih, List.countP_cons]
    unfold passChar
    split
    · dsimp only
      omega
    · rfl

theorem advance_advance (m n : Nat) : (at_.advance m).advance n = at_.advance (m + n) := by
  simp [advance, Nat.add_assoc]

theorem pass_eq_advance {text : List Char} (inLine : ∀ c ∈ text, isBreak c = false) :
    at_.pass text = at_.advance text.length := by
  induction text generalizing at_ with
  | nil => simp [advance]
  | cons c text ih =>
    rw [List.forall_mem_cons] at inLine
    rw [pass_cons, ih inLine.2, passChar, if_neg (by simp [inLine.1]), advance_advance, List.length_cons, Nat.add_comm]

theorem pass_spaces (at_ : Cursor) (n : Nat) : at_.pass (spaces n) = at_.advance n := by
  rw [pass_eq_advance isBreak_of_mem_spaces, spaces, List.length_replicate]

/-- The column behind a line's margin is its width. -/
theorem column_pass_spaces (at_ : Cursor) (text : List Char) {c : Char} (breaks : isBreak c = true) (n : Nat) :
    (at_.pass (text ++ c :: spaces n)).column = n := by
  rw [pass_append, pass_cons, pass_spaces, passChar, if_pos breaks]
  exact Nat.zero_add n

theorem column_pass_breaks {breaks : List Char} (some_ : breaks ≠ []) (all : ∀ c ∈ breaks, isBreak c = true)
    (n : Nat) : (at_.pass (breaks ++ spaces n)).column = n := by
  have last := column_pass_spaces at_ breaks.dropLast (all _ (List.getLast_mem some_)) n
  rwa [← List.singleton_append, ← List.append_assoc, List.dropLast_concat_getLast some_] at last

theorem takeBreak?_of_isKeptBreak {c : Char} {behind : List Char} (kept : isKeptBreak c = true)
    (stands : at_.rest = c :: behind) : at_.takeBreak? = some (c, at_.passChar c) := by
  have breaks := isBreak_of_isKeptBreak kept
  simp only [isKeptBreak, Bool.or_eq_true, decide_eq_true_eq] at kept
  rw [takeBreak?.eq_def, stands]
  rcases kept with (rfl | rfl) | rfl <;> simp [passChar, breaks, stands]

theorem takeBreak?_eq_none (inLine : ∀ c ∈ at_.rest.head?, isBreak c = false) : at_.takeBreak? = none := by
  rw [takeBreak?.eq_def]
  split
  · rename_i same
    rw [same] at inLine
    exact absurd (inLine _ rfl) (by decide)
  · rename_i same
    rw [same] at inLine
    rw [if_neg (by simp [inLine _ rfl])]
  · rfl

end Cursor

namespace Gap

variable {margin : Int} {at_ : Cursor} {behind : List Char}

/-- A gap ends where something stands. -/
theorem read?_of_stands (fuel : Nat) (gap : Gap) (ends : ∀ c ∈ at_.rest.head?, isGapChar c = false) :
    read? margin fuel gap at_ = some (gap, at_) := by
  cases fuel with
  | zero => rfl
  | succ fuel =>
    rw [read?.eq_def]
    simp only [Cursor.next?]
    split
    · rfl
    · rename_i c first
      have stands := ends c first
      simp only [isGapChar, Bool.or_eq_false_iff] at stands
      rw [if_neg (by simp [stands.1]), Cursor.takeBreak?_eq_none]
      intro other same
      obtain rfl : c = other := Option.some.inj (first.symm.trans same)
      exact stands.2

/-- Spaces within a line are kept, and those before a line are not. -/
theorem read?_spaces {spaces : List Char} (all : ∀ c ∈ spaces, c = ' ') (stands : at_.rest = spaces ++ behind)
    (ends : ∀ c ∈ behind.head?, isGapChar c = false) {fuel : Nat} (enough : spaces.length ≤ fuel) (gap : Gap) :
    read? margin fuel gap at_ =
      some (if gap.broken then gap else { gap with blanks := gap.blanks ++ spaces }, at_.pass spaces) := by
  induction spaces generalizing at_ fuel gap with
  | nil =>
    rw [List.nil_append] at stands
    rw [read?_of_stands fuel gap (by rwa [stands])]
    simp
  | cons c spaces ih =>
    rw [List.forall_mem_cons] at all
    obtain ⟨rfl, all⟩ := all
    obtain ⟨fuel, rfl⟩ : ∃ less, fuel = less + 1 := ⟨fuel - 1, by grind⟩
    have next : at_.next? = some ' ' := by rw [Cursor.next?, stands]; rfl
    have after : (at_.passChar ' ').rest = spaces ++ behind := by rw [Cursor.rest_passChar, stands]; rfl
    have blank : isBlankChar ' ' = true := rfl
    have inLine : at_.advance 1 = at_.passChar ' ' := rfl
    rw [read?, next]
    simp only [blank, if_true, inLine]
    rw [if_neg (by simp), ih all after (by simpa using enough), Cursor.pass_cons]
    split <;> simp_all

/-- The line breaks of a gap are kept in their order, and the margin behind them is passed over. -/
theorem read?_breaks {breaks : List Char} (kept : ∀ c ∈ breaks, isKeptBreak c = true) {columns : Nat}
    (stands : at_.rest = breaks ++ (spaces columns ++ behind)) (ends : ∀ c ∈ behind.head?, isGapChar c = false)
    {fuel : Nat} (enough : breaks.length + columns ≤ fuel) {gap : Gap} (broken : gap.broken = true) :
    read? margin fuel gap at_ =
      some ({ gap with moreBreaks := gap.moreBreaks ++ breaks }, at_.pass (breaks ++ spaces columns)) := by
  induction breaks generalizing at_ fuel gap with
  | nil =>
    rw [List.nil_append] at stands
    rw [read?_spaces (by simp [spaces]) stands ends (by simpa [spaces] using enough), if_pos broken]
    simp
  | cons c breaks ih =>
    rw [List.forall_mem_cons] at kept
    obtain ⟨fuel, rfl⟩ : ∃ less, fuel = less + 1 := ⟨fuel - 1, by grind⟩
    have next : at_.next? = some c := by rw [Cursor.next?, stands]; rfl
    have after : (at_.passChar c).rest = breaks ++ (spaces columns ++ behind) := by
      rw [Cursor.rest_passChar, stands]; rfl
    have notBlank : isBlankChar c = false := by
      have kept := kept.1
      simp only [isKeptBreak, isBlankChar] at kept ⊢
      grind
    rw [read?, next]
    simp only [notBlank]
    rw [if_neg (by simp), Cursor.takeBreak?_of_isKeptBreak kept.1 stands]
    simp only [broken, if_true]
    rw [ih kept.2 after (by grind) rfl]
    simp [Cursor.pass_cons]

/-- A gap that begins with a line break. -/
theorem read?_break {c : Char} {breaks : List Char} (kept : ∀ d ∈ c :: breaks, isKeptBreak d = true) {columns : Nat}
    (stands : at_.rest = c :: (breaks ++ (spaces columns ++ behind)))
    (ends : ∀ c ∈ behind.head?, isGapChar c = false) {fuel : Nat} (enough : breaks.length + columns < fuel) :
    read? margin fuel .none at_ = some (⟨[], true, [c], breaks⟩, at_.pass (c :: (breaks ++ spaces columns))) := by
  rw [List.forall_mem_cons] at kept
  obtain ⟨fuel, rfl⟩ : ∃ less, fuel = less + 1 := ⟨fuel - 1, by omega⟩
  have next : at_.next? = some c := by rw [Cursor.next?, stands]; rfl
  have after : (at_.passChar c).rest = breaks ++ (spaces columns ++ behind) := by
    rw [Cursor.rest_passChar, stands]; rfl
  have notBlank : isBlankChar c = false := by
    have kept := kept.1
    simp only [isKeptBreak, isBlankChar] at kept ⊢
    grind
  rw [read?, next]
  simp only [notBlank]
  rw [if_neg (by simp), Cursor.takeBreak?_of_isKeptBreak kept.1 stands]
  have unbroken : Gap.none.broken = false := rfl
  simp only [unbroken]
  rw [if_neg (by simp), read?_breaks kept.2 after ends (by omega) rfl]
  simp [Cursor.pass_cons]

end Gap

section

variable {margin : Nat} {escape : Char → List Char} {c : Char}

theorem withMargin_word (margin : Nat) (escape : Char → List Char) {word : List Char}
    (inLine : ∀ c ∈ word, isBreak c = false) (rest : List Char) :
    withMargin margin escape false (word ++ rest) = word.flatMap escape ++ withMargin margin escape false rest := by
  induction word with
  | nil => rfl
  | cons c word ih =>
    rw [List.forall_mem_cons] at inLine
    rw [List.cons_append, withMargin, if_neg (by simp [inLine.1]), ih inLine.2]
    simp

theorem withMargin_breaks {breaks : List Char} (all : ∀ d ∈ c :: breaks, isBreak d = true) (starts : Bool)
    (rest : List Char) :
    withMargin margin escape starts (c :: (breaks ++ rest)) = c :: (breaks ++ withMargin margin escape true rest) := by
  induction breaks generalizing c starts with
  | nil => rw [List.nil_append, withMargin, if_pos (all c List.mem_cons_self), List.nil_append]
  | cons d breaks ih =>
    rw [List.forall_mem_cons] at all
    rw [withMargin, if_pos all.1, List.cons_append, ih all.2]
    rfl

theorem withMargin_line (inLine : isBreak c = false) (rest : List Char) :
    withMargin margin escape true (c :: rest) = spaces margin ++ withMargin margin escape false (c :: rest) := by
  simp [withMargin, inLine]

end

end ClientStub.Yaml
