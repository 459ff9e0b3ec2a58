import ClientStub.Json.Reader
import ClientStub.Proofs.Json.Grammar

/-!
# Reading JSON strings

Every text of a string is read as that string, and skipped whole. A character takes one step of either reader,
whichever of its texts stands for it.
-/

namespace ClientStub.Json

theorem hexValue?_of_hexDigit {value : Nat} {c : Char} (digit : HexDigit value c) :
    Text.hexValue? c = some value := by
  have table : ∀ value < 16, Text.hexValue? (Text.hexDigit value) = some value ∧
      Text.hexValue? (Text.hexDigit value).toUpper = some value := by decide
  obtain ⟨bound, lower | upper⟩ := digit
  · rw [lower]
    exact (table value bound).1
  · rw [upper]
    exact (table value bound).2

/-- The escape of a code unit is a backslash, the letter u, and digits that are read as the unit. -/
theorem UnitText.digits {unit : Nat} {text : List Char} (shown : UnitText unit text) :
    ∃ digits, text = '\\' :: 'u' :: digits ∧ ∀ rest, readHex4 (digits ++ rest) = .ok (unit, rest) := by
  cases shown with
  | escape high upper lower low =>
    refine ⟨_, rfl, fun rest => ?_⟩
    simp only [readHex4, List.cons_append, List.nil_append, hexValue?_of_hexDigit high,
      hexValue?_of_hexDigit upper, hexValue?_of_hexDigit lower, hexValue?_of_hexDigit low]

theorem shortEscape?_of_mem {letter c : Char} (listed : (letter, c) ∈ shortEscapes) :
    shortEscape? letter = some c ∧ letter ≠ 'u' := by
  have table : ∀ escape ∈ shortEscapes, shortEscape? escape.1 = some escape.2 ∧ escape.1 ≠ 'u' := by decide
  exact table (letter, c) listed

/-- No character is a surrogate. -/
theorem toNat_lt_or_lt (c : Char) : c.toNat < 0xD800 ∨ 0xDFFF < c.toNat := by
  rcases c.valid with low | high
  · exact .inl low
  · exact .inr high.1

theorem readUnicodeEscape_unit {c : Char} {digits rest : List Char}
    (read : readHex4 (digits ++ rest) = .ok (c.toNat, rest)) :
    readUnicodeEscape (digits ++ rest) = .ok (c, rest) := by
  have apart := toNat_lt_or_lt c
  rw [readUnicodeEscape, read]
  dsimp only
  rw [if_neg (by omega), if_neg (by omega), Char.ofNat_toNat]

theorem readUnicodeEscape_pair {c : Char} {high low : Nat} {first second : List Char}
    (value : c.toNat = 0x10000 + high * 0x400 + low) (highFits : high < 0x400) (lowFits : low < 0x400)
    (leading : ∀ rest, readHex4 (first ++ rest) = .ok (0xD800 + high, rest))
    (trailing : ∀ rest, readHex4 (second ++ rest) = .ok (0xDC00 + low, rest)) (rest : List Char) :
    readUnicodeEscape (first ++ '\\' :: 'u' :: (second ++ rest)) = .ok (c, rest) := by
  rw [readUnicodeEscape, leading]
  dsimp only
  rw [if_pos (by omega), readSecondUnit, trailing]
  dsimp only
  rw [if_pos (by omega), Nat.add_sub_cancel_left, Nat.add_sub_cancel_left, ← value, Char.ofNat_toNat]

theorem readStringBody_append {c : Char} {text : List Char} (shown : CharText c text) (behind : List Char) :
    readStringBody (text ++ behind) = (readStringBody behind).map fun (cs, last) => (c :: cs, last) := by
  cases shown with
  | plain notQuote notBackslash printed =>
    rw [List.singleton_append, readStringBody.eq_def]
    grind
  | short listed =>
    obtain ⟨stands, other⟩ := shortEscape?_of_mem listed
    rw [List.cons_append, List.singleton_append, readStringBody]
    · rw [stands]
    · exact other
  | unit shown =>
    obtain ⟨digits, rfl, read⟩ := shown.digits
    have one := readUnicodeEscape_unit (read behind)
    rw [List.cons_append, List.cons_append, readStringBody]
    grind
  | pair value highFits lowFits leading trailing =>
    obtain ⟨first, rfl, leads⟩ := leading.digits
    obtain ⟨second, rfl, trails⟩ := trailing.digits
    have both := readUnicodeEscape_pair value highFits lowFits leads trails behind
    simp only [List.cons_append, List.append_assoc]
    rw [readStringBody]
    grind

theorem skipStringBody_unit {unit : Nat} {text : List Char} (shown : UnitText unit text) (behind : List Char) :
    skipStringBody (text ++ behind) = skipStringBody behind := by
  obtain ⟨digits, rfl, read⟩ := shown.digits
  have skipped := read behind
  rw [List.cons_append, List.cons_append, skipStringBody]
  grind

theorem skipStringBody_append {c : Char} {text : List Char} (shown : CharText c text) (behind : List Char) :
    skipStringBody (text ++ behind) = skipStringBody behind := by
  cases shown with
  | plain notQuote notBackslash printed =>
    rw [List.singleton_append, skipStringBody.eq_def]
    grind
  | short listed =>
    obtain ⟨stands, other⟩ := shortEscape?_of_mem listed
    rw [List.cons_append, List.singleton_append, skipStringBody]
    · rw [stands]
    · exact other
  | unit shown => exact skipStringBody_unit shown behind
  | pair value highFits lowFits leading trailing =>
    rw [List.append_assoc, skipStringBody_unit leading, skipStringBody_unit trailing]

theorem readStringBody_of_charsText {cs body : List Char} (shown : CharsText cs body) (rest : List Char) :
    readStringBody (body ++ '"' :: rest) = .ok (cs, rest) := by
  induction shown with
  | nil => rw [List.nil_append, readStringBody]
  | cons first _ ih =>
    rw [List.append_assoc, readStringBody_append first, ih]
    rfl

theorem skipStringBody_of_charsText {cs body : List Char} (shown : CharsText cs body) (rest : List Char) :
    skipStringBody (body ++ '"' :: rest) = .ok rest := by
  induction shown with
  | nil => rw [List.nil_append, skipStringBody]
  | cons first _ ih => rw [List.append_assoc, skipStringBody_append first, ih]

/-- A string is a quote and what is read, or skipped, from there on. -/
theorem StringText.body {value : String} {text : List Char} (shown : StringText value text) :
    ∃ body, text = '"' :: body ∧ ∀ rest, readText (body ++ rest) = .ok (value, rest) ∧
      skipStringBody (body ++ rest) = .ok rest := by
  obtain ⟨inner, chars, rfl⟩ := shown
  refine ⟨inner ++ ['"'], rfl, fun rest => ?_⟩
  rw [List.append_assoc, List.singleton_append]
  refine ⟨?_, skipStringBody_of_charsText chars rest⟩
  rw [readText, readStringBody_of_charsText chars]
  simp [Except.map]

end ClientStub.Json
