import ClientStub.Text.Blank
import ClientStub.Text.LetterTables

/-!
# Letters

Letter classes and case of a character. ASCII is answered directly and every other character by the
tables.
-/

namespace ClientStub.Text

def isAscii (c : Char) : Bool := c.toNat < 128

/-- An ASCII letter or digit. -/
def isAsciiAlphanumeric (c : Char) : Bool := c.isAlphanum

private def listed (table : List Stretch) (c : Char) : Bool := table.any fun s => s.lists c.toNat

/-- A letter or a number of any script. -/
def isAlphanumeric (c : Char) : Bool :=
  if isAscii c then c.isAlphanum else listed alphanumericTable c

def isUppercase (c : Char) : Bool :=
  if isAscii c then c.isUpper else listed uppercaseTable c

def isLowercase (c : Char) : Bool :=
  if isAscii c then c.isLower else listed lowercaseTable c

/-- A control character: general category Cc. -/
def isControl (c : Char) : Bool := c.toNat < 0x20 || (0x7F ≤ c.toNat && c.toNat ≤ 0x9F)

/-- A character that an error message shows by its number, ASCII controls apart. -/
def isHidden (c : Char) : Bool :=
  if isAscii c then isControl c else listed hiddenTable c

/-- The form of `c` that a pair of case tables gives: more than one character when the first table
lists it, one when the second does, and `c` itself otherwise. -/
private def otherCase (long : List (Nat × List Nat)) (short : List CaseStretch) (c : Char) : List Char :=
  match long.lookup c.toNat with
  | some codes => codes.map Char.ofNat
  | none =>
    match short.find? fun s => s.source.lists c.toNat with
    | some s => [Char.ofNat (s.target + (c.toNat - s.source.first))]
    | none => [c]

/-- The lower-case form, longer than one character only for İ. -/
def toLowercase (c : Char) : List Char :=
  if isAscii c then [c.toLower] else otherCase longLowerCaseTable lowerCaseTable c

/-- The upper-case form, of up to three characters (ß becomes SS). -/
def toUppercase (c : Char) : List Char :=
  if isAscii c then [c.toUpper] else otherCase longUpperCaseTable upperCaseTable c

/-- Code points without surrogates, none of them before the capital `A`. -/
private def FromCapitalA (first last : Nat) : Prop :=
  65 ≤ first ∧ (last < 0xD800 ∨ (0xE000 ≤ first ∧ last < 0x110000))

private instance (first last : Nat) : Decidable (FromCapitalA first last) := inferInstanceAs (Decidable (_ ∧ _))

private theorem toNat_ofNat_of_among {first last code : Nat} (among : FromCapitalA first last)
    (start : first ≤ code) (ending : code ≤ last) : (Char.ofNat code).toNat = code := by
  have valid : code.isValidChar := by
    rcases among.2 with low | ⟨high, bound⟩
    · exact .inl (by omega)
    · exact .inr ⟨by omega, by omega⟩
  rw [Char.ofNat, dif_pos valid]
  rfl

private theorem capitalA_le_ofNat {first last code : Nat} (among : FromCapitalA first last)
    (start : first ≤ code) (ending : code ≤ last) : 'A' ≤ Char.ofNat code := by
  have order : 'A'.toNat ≤ (Char.ofNat code).toNat := by
    rw [toNat_ofNat_of_among among start ending]
    exact Nat.le_trans among.1 start
  exact order

/-- What is true of every character that a pair of case tables lists is true of every form that they give. -/
private theorem otherCase_cases (holds : Char → Prop) {long : List (Nat × List Nat)} {short : List CaseStretch}
    {c d : Char} (inLong : ∀ entry ∈ long, ∀ code ∈ entry.2, holds (Char.ofNat code))
    (inShort : ∀ s ∈ short, ∀ code, s.target ≤ code → code ≤ s.target + (s.source.last - s.source.first) →
      holds (Char.ofNat code))
    (listed : d ∈ otherCase long short c) : d = c ∨ holds d := by
  unfold otherCase at listed
  split at listed
  · rename_i codes found
    obtain ⟨code, inCodes, rfl⟩ := List.mem_map.1 listed
    obtain ⟨front, behind, source, -⟩ := List.lookup_eq_some_iff.1 found
    have inTable : (c.toNat, codes) ∈ long := by simp [source]
    exact .inr (inLong _ inTable code inCodes)
  · split at listed
    · rename_i s found
      obtain rfl := List.mem_singleton.1 listed
      have within := List.find?_some found
      simp only [Stretch.lists, Bool.and_eq_true, decide_eq_true_eq] at within
      exact .inr (inShort s (List.mem_of_find?_eq_some found) _ (by omega) (by omega))
    · exact .inl (List.mem_singleton.1 listed)

private theorem mem_otherCase {long : List (Nat × List Nat)} {short : List CaseStretch} {c d : Char}
    (soundLong : ∀ entry ∈ long, ∀ code ∈ entry.2, FromCapitalA code code)
    (soundShort : ∀ s ∈ short, FromCapitalA s.target (s.target + (s.source.last - s.source.first)))
    (listed : d ∈ otherCase long short c) : d = c ∨ 'A' ≤ d := by
  refine otherCase_cases ('A' ≤ ·) (fun entry inTable code inCodes => ?_)
    (fun s inTable code start ending => ?_) listed
  · exact capitalA_le_ofNat (soundLong entry inTable code inCodes) (Nat.le_refl _) (Nat.le_refl _)
  · exact capitalA_le_ofNat (soundShort s inTable) start ending

/-- Code points among which there is no white space. -/
private def FreeOfBlanks (first last : Nat) : Prop := ∀ b ∈ blanks, b.toNat < first ∨ last < b.toNat

-- The instance over the list; another one runs over every character there is.
private instance (first last : Nat) : Decidable (FreeOfBlanks first last) :=
  List.decidableBAll (fun b : Char => b.toNat < first ∨ last < b.toNat) blanks

private theorem isBlank_ofNat {first last code : Nat} (among : FromCapitalA first last)
    (free : FreeOfBlanks first last) (start : first ≤ code) (ending : code ≤ last) :
    isBlank (Char.ofNat code) = false := by
  refine Bool.eq_false_iff.2 fun blank => ?_
  have apart := free (Char.ofNat code) (by simpa [isBlank] using blank)
  rw [toNat_ofNat_of_among among start ending] at apart
  omega

/-- What is true of the first 128 characters, one by one. -/
private theorem ascii_forall (holds : Char → Prop) (all : ∀ n < 128, holds (Char.ofNat n)) {c : Char}
    (low : isAscii c = true) : holds c := by
  have known := all c.toNat (by simpa [isAscii] using low)
  rwa [Char.ofNat_toNat] at known

private theorem ascii_case {c : Char} (low : isAscii c = true) :
    (c.toUpper = c ∨ 'A' ≤ c.toUpper) ∧ (c.toLower = c ∨ 'A' ≤ c.toLower) :=
  ascii_forall (fun c => (c.toUpper = c ∨ 'A' ≤ c.toUpper) ∧ (c.toLower = c ∨ 'A' ≤ c.toLower)) (by decide) low

private theorem ascii_blank {c : Char} (low : isAscii c = true) :
    c.toUpper = c ∨ isBlank c.toUpper = false :=
  ascii_forall (fun c => c.toUpper = c ∨ isBlank c.toUpper = false) (by decide) low

theorem toUppercase_of_lt {c : Char} (low : c < 'A') : toUppercase c = [c] := by
  have bound : c.toNat < 65 := low
  have kept : ∀ n < 65, (Char.ofNat n).toUpper = Char.ofNat n := by decide
  have known := kept c.toNat bound
  rw [Char.ofNat_toNat] at known
  rw [toUppercase, if_pos (by simpa [isAscii] using Nat.lt_trans bound (by decide)), known]

/-- An upper-case form is the character itself, or it has no character before the capital `A`. -/
theorem mem_toUppercase {c d : Char} (listed : d ∈ toUppercase c) : d = c ∨ 'A' ≤ d := by
  unfold toUppercase at listed
  split at listed
  · rename_i low
    rw [List.mem_singleton.1 listed]
    exact (ascii_case low).1
  · exact mem_otherCase (by decide +kernel) (by decide +kernel) listed

/-- The upper-case form of a character that is no white space has none. -/
theorem isBlank_of_mem_toUppercase {c d : Char} (solid : isBlank c = false) (listed : d ∈ toUppercase c) :
    isBlank d = false := by
  have form : d = c ∨ isBlank d = false := by
    unfold toUppercase at listed
    split at listed
    · rename_i low
      rw [List.mem_singleton.1 listed]
      exact ascii_blank low
    · have long : ∀ entry ∈ longUpperCaseTable, ∀ code ∈ entry.2,
          FromCapitalA code code ∧ FreeOfBlanks code code := by decide +kernel
      have short : ∀ s ∈ upperCaseTable,
          FromCapitalA s.target (s.target + (s.source.last - s.source.first)) ∧
            FreeOfBlanks s.target (s.target + (s.source.last - s.source.first)) := by decide +kernel
      refine otherCase_cases (isBlank · = false) (fun entry inTable code inCodes => ?_)
        (fun s inTable code start ending => ?_) listed
      · obtain ⟨among, free⟩ := long entry inTable code inCodes
        exact isBlank_ofNat among free (Nat.le_refl _) (Nat.le_refl _)
      · obtain ⟨among, free⟩ := short s inTable
        exact isBlank_ofNat among free start ending
  rcases form with rfl | clear
  · exact solid
  · exact clear

/-- A lower-case form is the character itself, or it has no character before the capital `A`. -/
theorem mem_toLowercase {c d : Char} (listed : d ∈ toLowercase c) : d = c ∨ 'A' ≤ d := by
  unfold toLowercase at listed
  split at listed
  · rename_i low
    rw [List.mem_singleton.1 listed]
    exact (ascii_case low).2
  · exact mem_otherCase (by decide +kernel) (by decide +kernel) listed

/-- Every character has a lower-case form. -/
theorem toLowercase_ne_nil (c : Char) : toLowercase c ≠ [] := by
  have forms : ∀ entry ∈ longLowerCaseTable, entry.2 ≠ [] := by decide
  unfold toLowercase
  split
  · exact List.cons_ne_nil _ _
  · unfold otherCase
    split
    · rename_i codes found
      obtain ⟨front, behind, source, -⟩ := List.lookup_eq_some_iff.1 found
      have inTable : (c.toNat, codes) ∈ longLowerCaseTable := by simp [source]
      simpa using forms _ inTable
    · split
      · exact List.cons_ne_nil _ _
      · exact List.cons_ne_nil _ _

/-- An underscore is the lower-case form of no other character. -/
theorem eq_underscore_of_mem_toLowercase {c : Char} (listed : '_' ∈ toLowercase c) : c = '_' := by
  unfold toLowercase at listed
  split at listed
  · rename_i low
    have form : c.toLower = '_' → c = '_' := ascii_forall (fun c => c.toLower = '_' → c = '_') (by decide) low
    exact form (List.mem_singleton.1 listed).symm
  · have apart {first last code : Nat} (among : FromCapitalA first last) (free : last < 95 ∨ 95 < first)
        (start : first ≤ code) (ending : code ≤ last) : Char.ofNat code ≠ '_' := by
      intro same
      have number := toNat_ofNat_of_among among start ending
      rw [same] at number
      have underscore : '_'.toNat = 95 := rfl
      omega
    have long : ∀ entry ∈ longLowerCaseTable, ∀ code ∈ entry.2,
        FromCapitalA code code ∧ (code < 95 ∨ 95 < code) := by decide +kernel
    have short : ∀ s ∈ lowerCaseTable,
        FromCapitalA s.target (s.target + (s.source.last - s.source.first)) ∧
          (s.target + (s.source.last - s.source.first) < 95 ∨ 95 < s.target) := by decide +kernel
    have form : '_' = c ∨ '_' ≠ '_' := by
      refine otherCase_cases (· ≠ '_') (fun entry inTable code inCodes => ?_)
        (fun s inTable code start ending => ?_) listed
      · obtain ⟨among, free⟩ := long entry inTable code inCodes
        exact apart among free (Nat.le_refl _) (Nat.le_refl _)
      · obtain ⟨among, free⟩ := short s inTable
        exact apart among free start ending
    exact (form.resolve_right (not_not_intro rfl)).symm

/-- The code points of a stretch all have the parity of its first one. -/
private def Stretch.keepsParity (s : Stretch) : Bool := s.step == 2 || s.first == s.last

/-- One stretch lies behind the other, or they lie in each other with steps of two. -/
private def Stretch.isApart (s t : Stretch) : Bool :=
  Nat.blt s.last t.first || Nat.blt t.last s.first ||
    (s.keepsParity && t.keepsParity && s.first % 2 != t.first % 2)

private theorem mod_eq_of_lists {s : Stretch} {code : Nat} (even : s.keepsParity = true)
    (within : s.lists code = true) : code % 2 = s.first % 2 := by
  simp only [Stretch.lists, Bool.and_eq_true, decide_eq_true_eq, beq_iff_eq] at within
  simp only [Stretch.keepsParity, Bool.or_eq_true, beq_iff_eq] at even
  rcases even with step | single
  · rw [step] at within
    omega
  · omega

private theorem lists_eq_false_of_isApart {s t : Stretch} {code : Nat} (apart : s.isApart t = true)
    (within : s.lists code = true) : t.lists code = false := by
  refine Bool.eq_false_iff.2 fun other => ?_
  have bounds : s.first ≤ code ∧ code ≤ s.last := by
    simp only [Stretch.lists, Bool.and_eq_true, decide_eq_true_eq] at within
    exact within.1
  have otherBounds : t.first ≤ code ∧ code ≤ t.last := by
    simp only [Stretch.lists, Bool.and_eq_true, decide_eq_true_eq] at other
    exact other.1
  simp only [Stretch.isApart, Bool.or_eq_true, Nat.blt_eq, Bool.and_eq_true, bne_iff_ne] at apart
  rcases apart with (before | behind) | ⟨⟨even, otherEven⟩, differ⟩
  · omega
  · omega
  · exact differ ((mod_eq_of_lists even within).symm.trans (mod_eq_of_lists otherEven other))

private theorem case_tables_apart : (uppercaseTable.all fun s => lowercaseTable.all s.isApart) = true := by
  decide +kernel

/-- No character is of both cases. -/
theorem isLowercase_of_isUppercase {c : Char} (upper : isUppercase c = true) : isLowercase c = false := by
  unfold isUppercase at upper
  unfold isLowercase
  split at upper
  · rename_i low
    have form : c.isUpper = true → c.isLower = false :=
      ascii_forall (fun c => c.isUpper = true → c.isLower = false) (by decide) low
    rw [if_pos low]
    exact form upper
  · rename_i high
    obtain ⟨s, inUpper, within⟩ := List.any_eq_true.1 upper
    rw [if_neg high, listed, List.any_eq_false]
    intro t inLower
    have apart := List.all_eq_true.1 (List.all_eq_true.1 case_tables_apart s inUpper) t inLower
    rw [lists_eq_false_of_isApart apart within]
    exact Bool.false_ne_true

/-- An upper-case letter is no digit. -/
theorem isDigit_of_isUppercase {c : Char} (upper : isUppercase c = true) : c.isDigit = false := by
  refine Bool.eq_false_iff.2 fun digit => ?_
  have low : isAscii c = true := by
    simp only [Char.isDigit, Bool.and_eq_true, decide_eq_true_eq] at digit
    have bound : c.toNat ≤ 57 := digit.2
    simp only [isAscii, decide_eq_true_eq]
    omega
  have form : c.isDigit = true → c.isUpper = false :=
    ascii_forall (fun c => c.isDigit = true → c.isUpper = false) (by decide) low
  rw [isUppercase, if_pos low, form digit] at upper
  cases upper

/-- The lower-case form of an ASCII letter is one lower-case letter. -/
theorem mem_toLowercase_of_isAscii {c d : Char} (low : isAscii c = true) (upper : isUppercase c = true)
    (listed : d ∈ toLowercase c) : isAlphanumeric d = true ∧ isUppercase d = false := by
  have form : c.isUpper = true → isAlphanumeric c.toLower = true ∧ isUppercase c.toLower = false :=
    ascii_forall
      (fun c => c.isUpper = true → isAlphanumeric c.toLower = true ∧ isUppercase c.toLower = false)
      (by decide) low
  rw [toLowercase, if_pos low, List.mem_singleton] at listed
  rw [isUppercase, if_pos low] at upper
  rw [listed]
  exact form upper

end ClientStub.Text
