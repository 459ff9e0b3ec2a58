import Mathlib.Data.List.TakeDrop
import ClientStub.Proofs.Json.Strings
import ClientStub.Toml.Printer

/-!
# Strings in TOML

What a string may be written as, character by character, and that every such text is read as the string. Inside
a string of several lines quotes are read in runs: three of them close it, so that never more than two stand
in a row.
-/

namespace ClientStub.Toml

/-- What may stand for a character of a basic string: the character itself, or an escape that is read as it. -/
inductive BasicUnit (c : Char) : List Char → Prop where
  | plain (stands : isBasicChar c = true) : BasicUnit c [c]
  | escape {letter : Char} {more : List Char} (visible : letter ∉ [' ', '\t', '\n', '\r'])
      (reads : ∀ rest, readEscape? (letter :: (more ++ rest)) = some (c, rest)) :
      BasicUnit c ('\\' :: letter :: more)

theorem readCode?_upperHex4 {c : Char} (small : c.toNat < 0x10000) (rest : List Char) :
    readCode? 4 (upperHex4 c.toNat ++ rest) = some (c, rest) := by
  have digit (n : Nat) : Text.hexValue? (Text.hexDigit (n % 16)).toUpper = some (n % 16) :=
    Json.hexValue?_of_hexDigit ⟨Nat.mod_lt n (by decide), .inr rfl⟩
  have value : (((c.toNat / 4096 % 16) * 16 + c.toNat / 256 % 16) * 16 + c.toNat / 16 % 16) * 16 +
      c.toNat % 16 = c.toNat := by omega
  have apart := Json.toNat_lt_or_lt c
  simp only [readCode?, upperHex4, Text.hex4, List.map_cons, List.map_nil, List.cons_append, List.nil_append,
    List.take_succ_cons, List.take_zero, List.mapM_cons, List.mapM_nil, digit, Option.pure_def, Option.bind_eq_bind,
    Option.bind_some, List.foldl_cons, List.foldl_nil, List.length_cons, List.length_nil, Nat.zero_mul,
    Nat.zero_add, value, List.drop_succ_cons, List.drop_zero, Char.ofNat_toNat]
  rw [if_neg]
  simp only [Bool.or_eq_true, decide_eq_true_eq, Bool.and_eq_true]
  omega

theorem isLineChar_of_needsEscape {c : Char} (free : needsEscape c = false) (inLine : c ≠ '\n') :
    isLineChar c = true := by
  simp only [needsEscape, isLineChar] at free ⊢
  grind

/-- Line feeds and quotes of a string of several lines apart, every character has a text that stands for it. -/
theorem basicUnit_basicChar (long : Bool) (c : Char) (inLine : long = true → c ≠ '\n' ∧ c ≠ '"') :
    BasicUnit c (basicChar long c) := by
  unfold basicChar
  split
  case h_3 =>
    cases long with
    | true => exact absurd rfl (inLine rfl).1
    | false => exact .escape (by decide) fun rest => rfl
  case h_6 =>
    cases long with
    | true => exact absurd rfl (inLine rfl).2
    | false => exact .escape (by decide) fun rest => rfl
  case h_8 =>
    split
    · rename_i needs
      have small : c.toNat < 0x10000 := by
        simp only [needsEscape, Bool.or_eq_true, Bool.and_eq_true, decide_eq_true_eq] at needs
        omega
      exact .escape (by decide) (readCode?_upperHex4 small)
    · rename_i notFeed _ _ notQuote notBackslash stands
      rw [Bool.not_eq_true] at stands
      have others : c ≠ '"' ∧ c ≠ '\\' := ⟨notQuote, notBackslash⟩
      exact .plain (by simp [isBasicChar, isLineChar_of_needsEscape stands notFeed, others])
  all_goals exact .escape (by decide) fun rest => rfl

theorem BasicUnit.head_ne {c : Char} {written : List Char} (unit : BasicUnit c written) (rest : List Char) :
    (written ++ rest).head? ≠ some '"' := by
  cases unit with
  | plain stands =>
    rintro ⟨⟩
    exact absurd stands (by decide)
  | escape => simp

theorem BasicUnit.length_pos {c : Char} {written : List Char} (unit : BasicUnit c written) :
    1 ≤ written.length := by
  cases unit <;> simp

theorem isLiteralChar_of_needsEscape {c : Char} (free : needsEscape c = false) (inLine : c ≠ '\n')
    (notQuote : c ≠ '\'') : isLiteralChar c = true := by
  simp [isLiteralChar, isLineChar_of_needsEscape free inLine, notQuote]

theorem readBasic?_append {c : Char} {written : List Char} (unit : BasicUnit c written) (fuel : Nat)
    (rest : List Char) :
    readBasic? (fuel + 1) (written ++ rest) =
      (readBasic? fuel rest).map fun (more, behind) => (c :: more, behind) := by
  cases unit with
  | plain stands =>
    rw [List.singleton_append, readBasic?]
    · rw [if_pos stands]
    · rintro rfl
      exact absurd stands (by decide)
    · rintro rfl
      exact absurd stands (by decide)
  | escape visible reads =>
    simp only [List.cons_append, readBasic?, reads, Option.bind_eq_bind, Option.bind_some]
    cases readBasic? fuel rest <;> rfl

theorem readBasic?_flatMap {text : List Char} {fuel : Nat} (enough : text.length < fuel) (rest : List Char) :
    readBasic? fuel (text.flatMap (basicChar false) ++ '"' :: rest) = some (text, rest) := by
  induction text generalizing fuel with
  | nil =>
    obtain ⟨fuel, rfl⟩ := Nat.exists_eq_add_of_lt enough
    rfl
  | cons c text ih =>
    obtain ⟨fuel, rfl⟩ : ∃ less, fuel = less + 1 := ⟨fuel - 1, by grind⟩
    rw [List.flatMap_cons, List.append_assoc, readBasic?_append (basicUnit_basicChar _ _ (by simp)),
      ih (by simpa using enough)]
    rfl

theorem length_le_length_flatMap_basicChar (text : List Char) :
    text.length ≤ (text.flatMap (basicChar false)).length := by
  induction text with
  | nil => exact Nat.le_refl 0
  | cons c text ih =>
    have one := (basicUnit_basicChar false c (by simp)).length_pos
    rw [List.flatMap_cons, List.length_append, List.length_cons]
    omega

theorem readShortString?_basicString (text rest : List Char) :
    readShortString? (basicString text ++ rest) = some (text, rest) := by
  have enough := length_le_length_flatMap_basicChar text
  rw [basicString, List.cons_append, List.cons_append, List.append_assoc, List.singleton_append, readShortString?]
  exact readBasic?_flatMap (by rw [List.length_append]; omega) rest

theorem readShortString?_literalString {text : List Char} (stands : ∀ c ∈ text, isLiteralChar c = true)
    (rest : List Char) : readShortString? (literalString text ++ rest) = some (text, rest) := by
  have span : (text ++ '\'' :: rest).span isLiteralChar = (text, '\'' :: rest) := by
    rw [List.span_eq_takeWhile_dropWhile, List.takeWhile_append_of_pos stands, List.dropWhile_append_of_pos stands]
    simp [isLiteralChar]
  rw [literalString, List.cons_append, List.cons_append, List.append_assoc, List.singleton_append, readShortString?,
    readLiteral?]
  simp only [span]

/-- The quote of a string of several lines. -/
def longQuote (basic : Bool) : Char := if basic then '"' else '\''

/-- What may stand for a character inside a string of several lines. -/
inductive LongUnit : Bool → Char → List Char → Prop where
  | lineFeed {basic : Bool} : LongUnit basic '\n' ['\n']
  | basic {c : Char} {written : List Char} (unit : BasicUnit c written) : LongUnit true c written
  | literal {c : Char} (stands : isLiteralChar c = true) : LongUnit false c [c]

/-- What may stand for a text inside a string of several lines, of whose quotes there are `run` right before
it. -/
inductive LongText (basic : Bool) : Nat → List Char → List Char → Prop where
  | nil {run : Nat} (few : run ≤ 2) : LongText basic run [] []
  | quote {run : Nat} {text written : List Char} (more : LongText basic (run + 1) text written) :
      LongText basic run (longQuote basic :: text) (longQuote basic :: written)
  | unit {run : Nat} {c : Char} {first text written : List Char} (few : run ≤ 2) (unit : LongUnit basic c first)
      (more : LongText basic 0 text written) : LongText basic run (c :: text) (first ++ written)

theorem LongUnit.head_ne {basic : Bool} {c : Char} {written : List Char} (unit : LongUnit basic c written)
    (rest : List Char) : (written ++ rest).head? ≠ some (longQuote basic) := by
  cases unit with
  | lineFeed => cases basic <;> simp [longQuote]
  | basic unit => exact unit.head_ne rest
  | literal stands =>
    rintro ⟨⟩
    exact absurd stands (by decide)

theorem LongUnit.length_pos {basic : Bool} {c : Char} {written : List Char} (unit : LongUnit basic c written) :
    1 ≤ written.length := by
  cases unit with
  | lineFeed => simp
  | basic unit => exact unit.length_pos
  | literal => simp

theorem skipHiddenBreak?_of_visible {letter : Char} (visible : letter ∉ [' ', '\t', '\n', '\r'])
    (rest : List Char) : skipHiddenBreak? (letter :: rest) = none := by
  simp only [List.mem_cons, List.not_mem_nil, or_false, not_or] at visible
  obtain ⟨notSpace, notTab, notLineFeed, notReturn⟩ := visible
  have stays : skipBlanks (letter :: rest) = letter :: rest :=
    List.dropWhile_cons_of_neg (by simp [isBlank, notSpace, notTab])
  rw [skipHiddenBreak?, stays]
  unfold readNewline?
  grind

theorem readNewline?_of_isLineChar {c : Char} (inLine : isLineChar c = true) (rest : List Char) :
    readNewline? (c :: rest) = none := by
  rw [readNewline?]
  · rintro behind ⟨⟩
    exact absurd inLine (by decide)
  · rintro behind ⟨⟩
    exact absurd inLine (by decide)

theorem readLong?_append {basic : Bool} {c : Char} {written : List Char} (unit : LongUnit basic c written)
    (fuel : Nat) (rest : List Char) :
    readLong? basic (fuel + 1) (written ++ rest) =
      (readLong? basic fuel rest).map fun (more, behind) => (c :: more, behind) := by
  cases unit with
  | lineFeed => cases basic <;> simp [readLong?, readNewline?]
  | basic unit =>
    cases unit with
    | plain stands =>
      simp only [isBasicChar, Bool.and_eq_true, decide_eq_true_eq, ne_eq] at stands
      simp [readLong?, readNewline?_of_isLineChar stands.1.1, stands]
    | escape visible reads =>
      simp only [List.cons_append, readLong?, skipHiddenBreak?_of_visible visible, reads]
      cases behind : readLong? true fuel rest <;> simp [behind]
  | literal stands =>
    simp only [isLiteralChar, Bool.and_eq_true, decide_eq_true_eq, ne_eq] at stands
    simp [readLong?, readNewline?_of_isLineChar stands.1, stands]

theorem takeWhile_replicate_append {quote : Char} (run : Nat) {rest : List Char} (ends : rest.head? ≠ some quote) :
    (List.replicate run quote ++ rest).takeWhile (· = quote) = List.replicate run quote := by
  rw [List.takeWhile_append_of_pos (by simp)]
  cases rest with
  | nil => simp
  | cons c rest =>
    rw [List.head?_cons, ne_eq, Option.some.injEq] at ends
    rw [List.takeWhile_cons_of_neg (by simpa using ends), List.append_nil]

/-- At a run of quotes a string ends or goes on behind the run. -/
theorem readLong?_quotes {basic : Bool} {run : Nat} (fuel : Nat) {rest : List Char} :
    readLong? basic (fuel + 1) (List.replicate (run + 1) (longQuote basic) ++ rest) =
      match readClosing? (longQuote basic) (List.replicate (run + 1) (longQuote basic) ++ rest) with
      | none => none
      | some (.inr (content, behind)) => some (content, behind)
      | some (.inl quotes) =>
        (readLong? basic fuel ((List.replicate (run + 1) (longQuote basic) ++ rest).drop quotes.length)).map
          fun (more, behind) => (quotes ++ more, behind) := by
  rw [List.replicate_succ, List.cons_append, readLong?]
  exact if_pos rfl

/-- One or two quotes alone belong to the string. -/
theorem readLong?_replicate {basic : Bool} {run : Nat} (few : run + 1 ≤ 2) (fuel : Nat) {rest : List Char}
    (ends : rest.head? ≠ some (longQuote basic)) :
    readLong? basic (fuel + 1) (List.replicate (run + 1) (longQuote basic) ++ rest) =
      (readLong? basic fuel rest).map fun (more, behind) =>
        (List.replicate (run + 1) (longQuote basic) ++ more, behind) := by
  have open_ : readClosing? (longQuote basic) (List.replicate (run + 1) (longQuote basic) ++ rest) =
      some (.inl (List.replicate (run + 1) (longQuote basic))) := by
    simp only [readClosing?, takeWhile_replicate_append _ ends, List.length_replicate]
    rw [if_pos (by omega), List.take_left' List.length_replicate]
  rw [readLong?_quotes, open_]
  simp only [List.drop_left' rfl]

/-- Up to two quotes before the three that close a string belong to it. -/
theorem readLong?_closing {basic : Bool} {run : Nat} (few : run ≤ 2) (fuel : Nat) {rest : List Char}
    (ends : rest.head? ≠ some (longQuote basic)) :
    readLong? basic (fuel + 1) (List.replicate (run + 3) (longQuote basic) ++ rest) =
      some (List.replicate run (longQuote basic), rest) := by
  have closing : readClosing? (longQuote basic) (List.replicate (run + 3) (longQuote basic) ++ rest) =
      some (.inr (List.replicate run (longQuote basic), rest)) := by
    simp only [readClosing?, takeWhile_replicate_append _ ends, List.length_replicate]
    rw [if_neg (by omega), Nat.min_eq_left (by omega), Nat.add_sub_cancel, List.drop_left' List.length_replicate]
  rw [readLong?_quotes, closing]

theorem LongText.readLong? {basic : Bool} {run fuel : Nat} {text written : List Char}
    (stands : LongText basic run text written) (enough : run + written.length < fuel) {rest : List Char}
    (ends : rest.head? ≠ some (longQuote basic)) :
    Toml.readLong? basic fuel
        (List.replicate run (longQuote basic) ++ (written ++ (List.replicate 3 (longQuote basic) ++ rest))) =
      some (List.replicate run (longQuote basic) ++ text, rest) := by
  induction stands generalizing fuel with
  | @nil run few =>
    obtain ⟨less, rfl⟩ : ∃ less, fuel = less + 1 := ⟨fuel - 1, by omega⟩
    rw [List.nil_append, ← List.append_assoc, List.replicate_append_replicate,
      readLong?_closing few less ends, List.append_nil]
  | @quote run text written more ih =>
    have ih := ih (show run + 1 + written.length < fuel by grind)
    rw [List.replicate_succ', List.append_assoc, List.append_assoc] at ih
    exact ih
  | @unit run c first text written few unit more ih =>
    have one := unit.length_pos
    rw [List.length_append] at enough
    have behind {fuel : Nat} (enough : written.length < fuel) :
        Toml.readLong? basic (fuel + 1)
          (first ++ (written ++ (List.replicate 3 (longQuote basic) ++ rest))) = some (c :: text, rest) := by
      rw [readLong?_append unit]
      have ih := ih (show 0 + written.length < fuel by omega)
      rw [List.replicate_zero, List.nil_append] at ih
      rw [ih]
      rfl
    rw [List.append_assoc]
    obtain - | pending := run
    · obtain ⟨less, rfl⟩ : ∃ less, fuel = less + 1 := ⟨fuel - 1, by omega⟩
      rw [List.replicate_zero, List.nil_append, List.nil_append]
      exact behind (by omega)
    · obtain ⟨less, rfl⟩ : ∃ less, fuel = less + 2 := ⟨fuel - 2, by omega⟩
      rw [readLong?_replicate few (less + 1) (unit.head_ne _), behind (by omega)]
      rfl

theorem longText_longBasicChars {run : Nat} (few : run ≤ 2) (text : List Char) :
    LongText true run text (longBasicChars run text) := by
  induction text generalizing run with
  | nil => exact .nil few
  | cons c text ih =>
    rw [longBasicChars]
    split
    · rename_i quote
      subst quote
      split
      · exact .unit few (.basic (.escape (by decide) fun rest => rfl)) (ih (by decide))
      · exact .quote (ih (by omega))
    · rename_i notQuote
      refine .unit few ?_ (ih (by decide))
      by_cases feed : c = '\n'
      · subst feed
        exact .lineFeed
      · exact .basic (basicUnit_basicChar _ _ fun _ => ⟨feed, notQuote⟩)

theorem longText_of_longestRun {run : Nat} {text : List Char} (free : ∀ c ∈ text, needsEscape c = false)
    (few : longestRun '\'' run text ≤ 2) : LongText false run text text := by
  induction text generalizing run with
  | nil => exact .nil few
  | cons c text ih =>
    rw [List.forall_mem_cons] at free
    rw [longestRun] at few
    split at few
    · rename_i quote
      subst quote
      exact .quote (ih free.2 few)
    · rename_i notQuote
      refine .unit (Nat.le_trans (Nat.le_max_left _ _) few) (show LongUnit false c [c] from ?_)
        (ih free.2 (Nat.le_trans (Nat.le_max_right _ _) few))
      by_cases feed : c = '\n'
      · subst feed
        exact .lineFeed
      · exact .literal (isLiteralChar_of_needsEscape free.1 feed notQuote)

theorem LongText.readNewline?_eq_none {basic : Bool} {run : Nat} {text written : List Char}
    (stands : LongText basic run text written) (noFeed : '\n' ∉ text) (rest : List Char) :
    readNewline? (written ++ (List.replicate 3 (longQuote basic) ++ rest)) = none := by
  have quote (rest : List Char) : readNewline? (longQuote basic :: rest) = none :=
    readNewline?_of_isLineChar (by cases basic <;> decide) rest
  cases stands with
  | nil => exact quote _
  | quote => exact quote _
  | unit few unit more =>
    cases unit with
    | lineFeed => exact absurd List.mem_cons_self noFeed
    | basic unit =>
      cases unit with
      | plain stands =>
        simp only [isBasicChar, Bool.and_eq_true] at stands
        exact readNewline?_of_isLineChar stands.1.1 _
      | escape => rfl
    | literal stands =>
      simp only [isLiteralChar, Bool.and_eq_true] at stands
      exact readNewline?_of_isLineChar stands.1 _

/-- The line feed that a text with line feeds begins behind is not part of it. -/
theorem LongText.readString? {basic : Bool} {text written : List Char} (stands : LongText basic 0 text written)
    (rest : List Char) :
    Toml.readString? (longString (List.replicate 3 (longQuote basic)) text written ++ '\n' :: rest) =
      some (String.ofList text, '\n' :: rest) := by
  have ends : ('\n' :: rest).head? ≠ some (longQuote basic) := by cases basic <;> simp [longQuote]
  have read {fuel : Nat} (enough : written.length < fuel) := stands.readLong? (show 0 + _ < fuel by omega) ends
  simp only [List.replicate_zero, List.nil_append] at read
  have body (start : List Char)
      (first : (readNewline? start).getD start =
        written ++ (List.replicate 3 (longQuote basic) ++ '\n' :: rest))
      (long : written.length ≤ start.length) :
      Toml.readString? (List.replicate 3 (longQuote basic) ++ start) = some (String.ofList text, '\n' :: rest) := by
    cases basic with
    | false =>
      have read := read (show written.length < start.length + 1 by omega)
      rw [← first] at read
      simp [Toml.readString?, longQuote, List.replicate, read]
    | true =>
      have read := read (show written.length < start.length + 1 by omega)
      rw [← first] at read
      simp [Toml.readString?, longQuote, List.replicate, read]
  rw [longString, List.append_assoc, List.append_assoc, List.append_assoc]
  split
  · exact body _ rfl (by simp only [List.length_append]; omega)
  · rename_i noFeed
    have noFeed : '\n' ∉ text := by simpa using noFeed
    refine body _ ?_ (by simp only [List.length_append]; omega)
    rw [List.nil_append, stands.readNewline?_eq_none noFeed]
    rfl

/-- A string of one line that is no beginning of three quotes is read as one. -/
theorem readString?_of_readShortString? {written text : List Char} {rest : List Char}
    (basic : ∀ more, written ++ rest ≠ '"' :: '"' :: '"' :: more)
    (literal : ∀ more, written ++ rest ≠ '\'' :: '\'' :: '\'' :: more)
    (read : readShortString? (written ++ rest) = some (text, rest)) :
    readString? (written ++ rest) = some (String.ofList text, rest) := by
  unfold readString?
  split
  · rename_i more same
    exact absurd same (basic more)
  · rename_i more same
    exact absurd same (literal more)
  · rw [read]
    rfl

theorem readString?_basicString (text rest : List Char) :
    readString? (basicString text ++ '\n' :: rest) = some (String.ofList text, '\n' :: rest) := by
  refine readString?_of_readShortString? ?_ (by simp [basicString]) (readShortString?_basicString text _)
  intro more same
  cases text with
  | nil => simp [basicString] at same
  | cons c text =>
    have first := (basicUnit_basicChar false c (by simp)).head_ne
      (text.flatMap (basicChar false) ++ '"' :: '\n' :: rest)
    simp only [basicString, List.flatMap_cons, List.cons_append, List.append_assoc, List.nil_append,
      List.cons.injEq, true_and] at same
    rw [same] at first
    exact first rfl

theorem readString?_literalString {text : List Char} (stands : ∀ c ∈ text, isLiteralChar c = true)
    (rest : List Char) :
    readString? (literalString text ++ '\n' :: rest) = some (String.ofList text, '\n' :: rest) := by
  refine readString?_of_readShortString? (by simp [literalString]) ?_ (readShortString?_literalString stands _)
  intro more same
  cases text with
  | nil => simp [literalString] at same
  | cons c text =>
    simp only [literalString, List.cons_append, List.append_assoc, List.nil_append, List.cons.injEq, true_and]
      at same
    have first := stands c List.mem_cons_self
    rw [same.1] at first
    exact absurd first (by decide)

theorem isLiteralChar_of_formOf {text : List Char} (form : formOf text = .literal) :
    ∀ c ∈ text, isLiteralChar c = true := by
  intro c listed
  have free : text.any needsEscape = false ∧ text.contains '\n' = false ∧ text.contains '\'' = false := by
    simp only [formOf] at form
    grind
  obtain ⟨free, noFeed, noQuote⟩ := free
  refine isLiteralChar_of_needsEscape (by simpa using List.any_eq_false.1 free c listed) ?_ ?_
  · rintro rfl
    simp [listed] at noFeed
  · rintro rfl
    simp [listed] at noQuote

theorem longText_of_formOf {text : List Char} (form : formOf text = .longLiteral) :
    LongText false 0 text text := by
  have free : text.any needsEscape = false ∧ longestRun '\'' 0 text ≤ 2 := by
    simp only [formOf] at form
    grind
  exact longText_of_longestRun (by simpa using List.any_eq_false.1 free.1) free.2

/-- A string at the end of a line is read back, whatever form it is written in. -/
theorem readString?_stringText (text : String) (rest : List Char) :
    readString? (stringText text ++ '\n' :: rest) = some (text, '\n' :: rest) := by
  simp only [stringText]
  split
  · simpa using readString?_basicString text.toList rest
  · rename_i form
    simpa using readString?_literalString (isLiteralChar_of_formOf form) rest
  · simpa [longQuote] using (longText_longBasicChars (by decide) text.toList).readString? rest
  · rename_i form
    simpa [longQuote] using (longText_of_formOf form).readString? rest

end ClientStub.Toml
