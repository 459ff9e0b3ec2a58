import ClientStub.Proofs.Yaml.Literal
import ClientStub.Proofs.Yaml.Plain
import ClientStub.Proofs.Yaml.Quoted

/-!
# Styles of scalars

Which texts a style is chosen for, and how they are written in it. A written scalar holds only characters that
a text may hold; that of a text of one line stands on one line, and that of a short key is short.
-/

namespace ClientStub.Yaml

variable {text : String}

theorem allowsPlain_of_styleOf (style : styleOf text = .plain) :
    text.toList ≠ [] ∧ allowsPlain text.toList = true := by
  have plain : isAmbiguous text = false ∧ allowsPlain text.toList = true := by
    simp only [styleOf] at style
    grind
  refine ⟨?_, plain.2⟩
  intro nothing
  rw [String.toList_eq_nil_iff.1 nothing] at plain
  exact absurd plain.1 (by decide)

theorem allowsSingleQuotes_of_styleOf (style : styleOf text = .singleQuoted) :
    '\n' ∉ text.toList ∧ allowsSingleQuotes text.toList = true := by
  have single : text.toList.contains '\n' = false ∧ allowsSingleQuotes text.toList = true := by
    simp only [styleOf] at style
    grind
  exact ⟨by simpa using single.1, single.2⟩

theorem allowsLiteral_of_styleOf (style : styleOf text = .literal) :
    '\n' ∈ text.toList ∧ allowsLiteral text.toList = true := by
  have literal : text.toList.contains '\n' = true ∧ allowsLiteral text.toList = true := by
    simp only [styleOf] at style
    grind
  exact ⟨by simpa using literal.1, literal.2⟩

theorem styleOf_cases (text : String) : styleOf text = .plain ∨ styleOf text = .singleQuoted ∨
    styleOf text = .literal ∨ styleOf text = .doubleQuoted := by
  simp only [styleOf]
  grind

theorem scalarText_plain {margin : Nat} (style : styleOf text = .plain) : scalarText margin text = text.toList := by
  simp [scalarText, style]

theorem scalarText_singleQuoted {margin : Nat} (style : styleOf text = .singleQuoted) :
    scalarText margin text = singleQuoted margin text.toList := by
  simp [scalarText, style]

theorem scalarText_literal {margin : Nat} (style : styleOf text = .literal) :
    scalarText margin text = literal margin text.toList := by
  simp [scalarText, style]

theorem scalarText_doubleQuoted {margin : Nat} (style : styleOf text = .doubleQuoted) :
    scalarText margin text = doubleQuoted text.toList := by
  simp [scalarText, style]

theorem getLast?_withMargin (margin : Nat) (starts : Bool) (text : List Char) :
    (withMargin margin (fun c => [c]) starts text).getLast? = text.getLast? := by
  induction text generalizing starts with
  | nil => rfl
  | cons c text ih =>
    rw [withMargin]
    split
    · rw [List.getLast?_cons, List.getLast?_cons, ih]
    · simp only [List.getLast?_append, List.getLast?_cons, ih, List.getLast?_nil]
      cases text.getLast? <;> rfl

theorem scalarLine_plain {margin : Nat} (style : styleOf text = .plain) :
    scalarLine margin text = text.toList ++ ['\n'] := by
  obtain ⟨some_, allowed⟩ := allowsPlain_of_styleOf style
  obtain ⟨-, line, -⟩ := isPlainText_of_allowsPlain some_ allowed
  simp only [scalarLine, scalarText_plain style]
  rw [if_neg]
  rw [List.getLast?_eq_some_getLast some_]
  simp [line _ (List.getLast_mem some_)]

theorem scalarLine_singleQuoted {margin : Nat} (style : styleOf text = .singleQuoted) :
    scalarLine margin text = singleQuoted margin text.toList ++ ['\n'] := by
  have last : (singleQuoted margin text.toList).getLast? = some '\'' := by
    rw [singleQuoted_eq, ← List.cons_append, List.getLast?_concat]
  simp only [scalarLine, scalarText_singleQuoted style, last]
  rfl

theorem scalarLine_doubleQuoted {margin : Nat} (style : styleOf text = .doubleQuoted) :
    scalarLine margin text = doubleQuoted text.toList ++ ['\n'] := by
  have last : (doubleQuoted text.toList).getLast? = some '"' := by
    rw [doubleQuoted, List.getLast?_concat]
  simp only [scalarLine, scalarText_doubleQuoted style, last]
  rfl

theorem scalarLine_literal {margin : Nat} (style : styleOf text = .literal) :
    scalarLine margin text = literal margin text.toList ++ literalEnd text.toList := by
  have some_ : text.toList ≠ [] := by
    intro nothing
    have feed := (allowsLiteral_of_styleOf style).1
    rw [nothing] at feed
    cases feed
  have last : (literal margin text.toList).getLast?.any isBreak = text.toList.getLast?.any isBreak := by
    simp [literal_eq, List.getLast?_append, List.getLast?_cons, getLast?_withMargin,
      List.getLast?_eq_some_getLast some_]
  simp only [scalarLine, scalarText_literal style, last, literalEnd]
  split <;> simp

theorem exists_scalarLine_eq_concat (margin : Nat) (text : String) :
    ∃ line c, scalarLine margin text = line ++ [c] ∧ isBreak c = true := by
  simp only [scalarLine]
  split
  · rename_i breaks
    rw [Option.any_eq_true] at breaks
    obtain ⟨c, last, breaks⟩ := breaks
    exact ⟨_, c, (List.dropLast_append_getLast? c last).symm, breaks⟩
  · exact ⟨_, '\n', rfl, rfl⟩

theorem isAllowed_of_isPrintable {c : Char} (printed : isPrintable c = true) : isAllowed c = true := by
  simp only [isPrintable, isAllowed] at printed ⊢
  grind

theorem isAllowed_of_needsDoubleQuotes {text : List Char} (free : needsDoubleQuotes text = false) :
    ∀ c ∈ text, isAllowed c = true := fun c listed =>
  isAllowed_of_isPrintable (isPrintable_of_needsDoubleQuotes free c listed)

theorem isAllowed_spaces (n : Nat) : ∀ c ∈ spaces n, isAllowed c = true := by
  intro c listed
  rw [(List.mem_replicate.1 listed).2]
  rfl

theorem isAllowed_withMargin (margin : Nat) (escape : Char → List Char) {text : List Char}
    (allowed : ∀ c ∈ text, isAllowed c = true) (escaped : ∀ c ∈ text, ∀ d ∈ escape c, isAllowed d = true)
    (starts : Bool) : ∀ c ∈ withMargin margin escape starts text, isAllowed c = true := by
  induction text generalizing starts with
  | nil => simp [withMargin]
  | cons c text ih =>
    rw [List.forall_mem_cons] at allowed escaped
    have behind := ih allowed.2 escaped.2
    have margins : ∀ d ∈ (if starts then spaces margin else []), isAllowed d = true := by
      split
      · exact isAllowed_spaces margin
      · simp
    rw [withMargin]
    split
    · rw [List.forall_mem_cons]
      exact ⟨allowed.1, behind true⟩
    · rw [List.forall_mem_append, List.forall_mem_append]
      exact ⟨⟨margins, escaped.1⟩, behind false⟩

theorem isAllowed_doubleQuotedChar (c : Char) : ∀ d ∈ doubleQuotedChar c, isAllowed d = true := by
  have table : ∀ value < 16, isAllowed (Text.hexDigit value).toUpper = true := by decide
  have digits (letter : Char) (count : Nat) (visible : isAllowed letter = true) :
      ∀ d ∈ '\\' :: letter :: upperHex count c.toNat, isAllowed d = true := by
    rw [List.forall_mem_cons, List.forall_mem_cons]
    refine ⟨rfl, visible, fun d listed => ?_⟩
    obtain ⟨value, bound, rfl⟩ := exists_of_mem_upperHex listed
    exact table value bound
  unfold doubleQuotedChar
  split
  case h_15 =>
    split
    · rename_i printed
      rw [List.forall_mem_singleton]
      exact isAllowed_of_isPrintable printed
    · split
      · exact digits 'x' 2 rfl
      · split
        · exact digits 'u' 4 rfl
        · exact digits 'U' 8 rfl
  all_goals exact List.all_eq_true.1 rfl

theorem isAllowed_scalarText (margin : Nat) (text : String) : ∀ c ∈ scalarText margin text, isAllowed c = true := by
  rcases styleOf_cases text with style | style | style | style
  · rw [scalarText_plain style]
    obtain ⟨some_, allowed⟩ := allowsPlain_of_styleOf style
    exact fun c listed => isAllowed_of_isPrintable ((isPlainText_of_allowsPlain some_ allowed).1 c listed)
  · have allowed := (allowsSingleQuotes_of_styleOf style).2
    simp only [allowsSingleQuotes, Bool.not_eq_true', Bool.or_eq_false_iff] at allowed
    have printed := isAllowed_of_needsDoubleQuotes allowed.1
    have quoted : ∀ c ∈ text.toList, ∀ d ∈ singleQuotedChar c, isAllowed d = true := by
      intro c listed
      unfold singleQuotedChar
      split
      · exact List.all_eq_true.1 rfl
      · rw [List.forall_mem_singleton]
        exact printed c listed
    have body := isAllowed_withMargin margin singleQuotedChar printed quoted false
    rw [scalarText_singleQuoted style, singleQuoted_eq, List.forall_mem_cons, List.forall_mem_append, singleQuotedBody,
      List.forall_mem_append]
    refine ⟨rfl, ⟨body, ?_⟩, List.all_eq_true.1 rfl⟩
    split
    · exact isAllowed_spaces margin
    · simp
  · have allowed := (allowsLiteral_of_styleOf style).2
    simp only [allowsLiteral, Bool.not_eq_true', Bool.or_eq_false_iff] at allowed
    have printed := isAllowed_of_needsDoubleQuotes allowed.1
    have body := isAllowed_withMargin margin (fun c => [c]) printed (by simpa using printed) true
    rw [scalarText_literal style, literal_eq, List.forall_mem_cons, List.forall_mem_append, List.forall_mem_append,
      List.forall_mem_cons, marginMark]
    refine ⟨rfl, ?_, ?_, rfl, body⟩
    · split <;> exact List.all_eq_true.1 rfl
    · unfold chompingMark
      split
      · exact List.all_eq_true.1 rfl
      · split
        · exact List.all_eq_true.1 rfl
        · split <;> exact List.all_eq_true.1 rfl
  · rw [scalarText_doubleQuoted style, doubleQuoted, List.forall_mem_append, List.forall_mem_cons]
    refine ⟨⟨rfl, fun d listed => ?_⟩, List.all_eq_true.1 rfl⟩
    obtain ⟨c, -, inside⟩ := List.mem_flatMap.1 listed
    exact isAllowed_doubleQuotedChar c d inside

theorem isAllowed_scalarLine (margin : Nat) (text : String) : ∀ c ∈ scalarLine margin text, isAllowed c = true := by
  have written := isAllowed_scalarText margin text
  simp only [scalarLine]
  split
  · exact written
  · rw [List.forall_mem_append]
    exact ⟨written, List.all_eq_true.1 rfl⟩

theorem isBreak_doubleQuotedChar (c : Char) : ∀ d ∈ doubleQuotedChar c, isBreak d = false := by
  by_cases space : c = ' '
  · subst space
    simp [doubleQuotedChar, isPrintable, isBreak]
  · exact (quotedUnit_doubleQuotedChar space).inLine

/-- A text of one line is written on one line. -/
theorem isBreak_scalarText (margin : Nat) (line : isMultiline text.toList = false) :
    ∀ c ∈ scalarText margin text, isBreak c = false := by
  have line : ∀ c ∈ text.toList, isBreak c = false := by simpa [isMultiline] using line
  rcases styleOf_cases text with style | style | style | style
  · rw [scalarText_plain style]
    exact line
  · rw [scalarText_singleQuoted style, singleQuoted_eq, singleQuotedBody_line line, List.forall_mem_cons,
      List.forall_mem_append]
    refine ⟨rfl, fun d listed => ?_, by simp [isBreak]⟩
    obtain ⟨c, inside, listed⟩ := List.mem_flatMap.1 listed
    unfold singleQuotedChar at listed
    split at listed
    · have quotes : ∀ q ∈ ['\'', '\''], isBreak q = false := by simp [isBreak]
      exact quotes d listed
    · rw [List.mem_singleton.1 listed]
      exact line c inside
  · exact absurd (line _ (allowsLiteral_of_styleOf style).1) (by decide)
  · rw [scalarText_doubleQuoted style, doubleQuoted, List.forall_mem_append, List.forall_mem_cons]
    refine ⟨⟨rfl, fun d listed => ?_⟩, by simp [isBreak]⟩
    obtain ⟨c, -, inside⟩ := List.mem_flatMap.1 listed
    exact isBreak_doubleQuotedChar c d inside

theorem length_le_utf8ByteSize (text : String) : text.toList.length ≤ text.utf8ByteSize := by
  have ofList (chars : List Char) : chars.length ≤ (String.ofList chars).utf8ByteSize := by
    induction chars with
    | nil => exact Nat.zero_le _
    | cons c chars ih =>
      have one := c.utf8Size_pos
      rw [← List.singleton_append, String.ofList_append, String.utf8ByteSize_append, ← String.singleton_eq_ofList,
        String.utf8ByteSize_singleton, List.length_append, List.length_singleton]
      omega
  simpa using ofList text.toList

theorem length_flatMap_le {unit : Char → List Char} {n : Nat} (short : ∀ c, (unit c).length ≤ n) (text : List Char) :
    (text.flatMap unit).length ≤ n * text.length := by
  induction text with
  | nil => exact Nat.zero_le _
  | cons c text ih =>
    have one := short c
    rw [List.flatMap_cons, List.length_append, List.length_cons, Nat.mul_succ]
    omega

theorem length_doubleQuotedChar_le (c : Char) : (doubleQuotedChar c).length ≤ 6 := by
  unfold doubleQuotedChar
  split
  case h_15 =>
    split
    · simp
    · rename_i notPrinted
      split
      · simp [length_upperHex]
      · split
        · simp [length_upperHex]
        · exact absurd (by simp [isPrintable]; omega) notPrinted
  all_goals decide

/-- A key before its colon is short enough to be taken for one. -/
theorem length_scalarText_le (margin : Nat) {key : String} (simple : isSimpleKey key = true) :
    (scalarText margin key).length ≤ 1024 := by
  simp only [isSimpleKey, Bool.and_eq_true, Bool.not_eq_true', decide_eq_true_eq] at simple
  obtain ⟨line, size⟩ := simple
  have length := length_le_utf8ByteSize key
  have line : ∀ c ∈ key.toList, isBreak c = false := by simpa [isMultiline] using line
  rcases styleOf_cases key with style | style | style | style
  · rw [scalarText_plain style]
    omega
  · have short := length_flatMap_le (show ∀ c, (singleQuotedChar c).length ≤ 2 from
      fun c => by unfold singleQuotedChar; split <;> simp) key.toList
    rw [scalarText_singleQuoted style, singleQuoted_eq, singleQuotedBody_line line, List.length_cons,
      List.length_append]
    simp only [List.length_singleton]
    omega
  · have feed := line _ (allowsLiteral_of_styleOf style).1
    exact absurd feed (by decide)
  · have short := length_flatMap_le length_doubleQuotedChar_le key.toList
    rw [scalarText_doubleQuoted style, doubleQuoted, List.length_append, List.length_cons]
    simp only [List.length_singleton]
    omega

end ClientStub.Yaml
