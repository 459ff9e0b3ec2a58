import ClientStub.Description
import ClientStub.Proofs.DocBlock.Words
import ClientStub.Proofs.Json.Printing
import ClientStub.Proofs.Json.Strings

/-!
# What literals of defaults are made of

The literal of a default stays on one line, for control characters of a text are escaped in it. It has an at
sign only if it quotes a text that has one. A text is read back from its literal, which no other value has.
-/

namespace ClientStub

open ClientStub.Text ClientStub.DocBlock

theorem JsonNumber.isNumeral_of_mem_literal (number : JsonNumber) :
    ∀ c ∈ number.literal.toList, DecimalDigits.isNumeral c = true := by
  cases number with
  | integer value =>
    rw [literal, Int.toString_eq_repr, Int.repr_eq_if]
    split
    · rw [Nat.toList_repr]
      exact DecimalDigits.isNumeral_of_mem_toDigits
    · have sign : "-".toList.all DecimalDigits.isNumeral = true := by decide
      rw [String.toList_append, Nat.toList_repr, List.forall_mem_append]
      exact ⟨List.all_eq_true.1 sign, DecimalDigits.isNumeral_of_mem_toDigits⟩
  | real value => exact Binary64.isNumeral_of_mem_compact

/-- The characters of escapes. -/
def escapeMarks : List Char := "\\'nrtu0123456789abcdef".toList

theorem hexDigit_mem_escapeMarks (n : Nat) : Text.hexDigit (n % 16) ∈ escapeMarks := by
  have digits : ∀ d < 16, Text.hexDigit d ∈ escapeMarks := by decide
  exact digits (n % 16) (Nat.mod_lt n (by decide))

/-- A character is written with the characters of escapes or as it is. -/
theorem mem_quoteChar {c d : Char} (listed : d ∈ quoteChar c) : d ∈ escapeMarks ∨ (d = c ∧ c ≠ '\n') := by
  have short : ∀ second ∈ escapeMarks, d ∈ ['\\', second] → d ∈ escapeMarks := by
    intro second mark either
    rw [List.mem_cons, List.mem_singleton] at either
    rcases either with rfl | rfl
    · decide
    · exact mark
  unfold quoteChar at listed
  split at listed
  · exact .inl (short '\\' (by decide) listed)
  · exact .inl (short '\'' (by decide) listed)
  · exact .inl (short 'n' (by decide) listed)
  · exact .inl (short 'r' (by decide) listed)
  · exact .inl (short 't' (by decide) listed)
  · rename_i feed _ _
    split at listed
    · left
      simp only [hex4, List.mem_cons, List.not_mem_nil, or_false] at listed
      rcases listed with rfl | rfl | rfl | rfl | rfl | rfl
      · decide
      · decide
      · exact hexDigit_mem_escapeMarks _
      · exact hexDigit_mem_escapeMarks _
      · exact hexDigit_mem_escapeMarks _
      · exact hexDigit_mem_escapeMarks _
    · exact .inr ⟨List.mem_singleton.1 listed, feed⟩

/-- Between its quotes a literal has no line feed, and no at sign that its text has not. -/
theorem inline_quote {text : String} (absent : introducer ∉ text.toList) : Inline (quote text).toList := by
  have clear : ∀ d ∈ (quote text).toList, d ≠ '\n' ∧ d ≠ introducer := by
    intro d listed
    rw [quote, String.toList_ofList, quoteChars, List.mem_append, List.mem_cons, List.mem_singleton,
      List.mem_flatMap] at listed
    rcases listed with (rfl | ⟨c, inText, escaped⟩) | rfl
    · decide
    · rcases mem_quoteChar escaped with mark | ⟨rfl, other⟩
      · constructor
        · rintro rfl
          exact absurd mark (by decide)
        · rintro rfl
          exact absurd mark (by decide)
      · refine ⟨other, ?_⟩
        rintro rfl
        exact absent inText
    · decide
  exact inline_of_not_mem (fun feed => (clear _ feed).1 rfl) fun sign => (clear _ sign).2 rfl

/-- The letters that stand for a character behind a backslash. -/
def quoteEscapes : List (Char × Char) := [('\\', '\\'), ('\'', '\''), ('n', '\n'), ('r', '\r'), ('t', '\t')]

/-- What stands for a character between quotes: itself, if it needs no escape, a letter behind a backslash, or
four hexadecimal digits. -/
inductive LiteralChar : Char → List Char → Prop where
  | plain {c : Char} (notQuote : c ≠ '\'') (notBackslash : c ≠ '\\') (printed : isControl c = false) :
      LiteralChar c [c]
  | short {letter c : Char} (listed : (letter, c) ∈ quoteEscapes) : LiteralChar c ['\\', letter]
  | number {c : Char} {text : List Char} (shown : Json.UnitText c.toNat text) : LiteralChar c text

theorem literalChar_quoteChar (c : Char) : LiteralChar c (quoteChar c) := by
  unfold quoteChar
  split
  case h_6 notBackslash notQuote _ _ _ =>
    split
    · rename_i control
      have small : c.toNat < 0x10000 := by
        simp only [isControl, Bool.or_eq_true, Bool.and_eq_true, decide_eq_true_eq] at control
        omega
      exact .number (Json.unitText_hex4 small)
    · rename_i printed
      exact .plain notQuote notBackslash (Bool.eq_false_iff.2 printed)
  all_goals exact .short (by decide)

theorem isControl_of_mem_unitText {unit : Nat} {text : List Char} (shown : Json.UnitText unit text) :
    ∀ c ∈ text, isControl c = false := by
  have digit {value : Nat} {c : Char} (hex : Json.HexDigit value c) : isControl c = false := by
    have table : ∀ value < 16, isControl (hexDigit value) = false ∧ isControl (hexDigit value).toUpper = false := by
      decide
    obtain ⟨bound, rfl | rfl⟩ := hex
    · exact (table value bound).1
    · exact (table value bound).2
  cases shown with
  | escape high upper lower low =>
    simp only [List.forall_mem_cons]
    exact ⟨by decide, by decide, digit high, digit upper, digit lower, digit low, List.forall_mem_nil _⟩

theorem LiteralChar.isControl_of_mem {c : Char} {text : List Char} (shown : LiteralChar c text) :
    ∀ d ∈ text, isControl d = false := by
  cases shown with
  | plain _ _ printed => rwa [List.forall_mem_singleton]
  | short listed =>
    have table : ∀ escape ∈ quoteEscapes, isControl escape.1 = false := by decide
    rw [List.forall_mem_cons, List.forall_mem_singleton]
    exact ⟨by decide, table _ listed⟩
  | number shown => exact isControl_of_mem_unitText shown

/-- Reads a literal from its opening quote on: the text it stands for, and what follows its closing
quote. There is none when no quote opens it, none closes it, or an escape is not one of those that
`quoteChar` writes. -/
def Text.unquote? : List Char → Option (List Char × List Char)
  | '\'' :: rest => body rest
  | _ => none
where
  body : List Char → Option (List Char × List Char)
    | '\'' :: rest => some ([], rest)
    | '\\' :: '\\' :: rest => (body rest).map fun (text, after) => ('\\' :: text, after)
    | '\\' :: '\'' :: rest => (body rest).map fun (text, after) => ('\'' :: text, after)
    | '\\' :: 'n' :: rest => (body rest).map fun (text, after) => ('\n' :: text, after)
    | '\\' :: 'r' :: rest => (body rest).map fun (text, after) => ('\r' :: text, after)
    | '\\' :: 't' :: rest => (body rest).map fun (text, after) => ('\t' :: text, after)
    | '\\' :: 'u' :: a :: b :: c :: d :: rest => do
      let code := (← hexValue? a) * 4096 + (← hexValue? b) * 256 + (← hexValue? c) * 16 + (← hexValue? d)
      let (text, after) ← body rest
      pure (Char.ofNat code :: text, after)
    | '\\' :: _ => none
    | c :: rest => (body rest).map fun (text, after) => (c :: text, after)
    | [] => none

theorem body_append_of_unitText {unit : Nat} {text : List Char} (shown : Json.UnitText unit text)
    (rest : List Char) :
    unquote?.body (text ++ rest) =
      (unquote?.body rest).map fun (read, after) => (Char.ofNat unit :: read, after) := by
  cases shown with
  | escape high upper lower low =>
    simp only [List.cons_append, List.nil_append, unquote?.body, Json.hexValue?_of_hexDigit high,
      Json.hexValue?_of_hexDigit upper, Json.hexValue?_of_hexDigit lower, Json.hexValue?_of_hexDigit low]
    cases unquote?.body rest with
    | none => rfl
    | some read => rfl

/-- The reader takes what stands for a character as that character. -/
theorem LiteralChar.body_append {c : Char} {text : List Char} (shown : LiteralChar c text) (rest : List Char) :
    unquote?.body (text ++ rest) = (unquote?.body rest).map fun (read, after) => (c :: read, after) := by
  cases shown with
  | plain notQuote notBackslash _ =>
    rw [List.singleton_append, unquote?.body]
    · exact notQuote
    -- No backslash begins any of the escapes.
    all_goals
      intros
      contradiction
  | short listed =>
    simp only [quoteEscapes, List.mem_cons, Prod.mk.injEq, List.not_mem_nil, or_false] at listed
    rcases listed with ⟨rfl, rfl⟩ | ⟨rfl, rfl⟩ | ⟨rfl, rfl⟩ | ⟨rfl, rfl⟩ | ⟨rfl, rfl⟩
    all_goals rfl
  | number shown =>
    rw [body_append_of_unitText shown, Char.ofNat_toNat]

/-- What stands for the characters of a text, between quotes, is read as the text. -/
theorem unquote?_of_forall₂ {text : List Char} {shown : List (List Char)}
    (each : List.Forall₂ LiteralChar text shown) (behind : List Char) :
    unquote? ('\'' :: (shown.flatten ++ '\'' :: behind)) = some (text, behind) := by
  change unquote?.body (shown.flatten ++ '\'' :: behind) = some (text, behind)
  induction each with
  | nil => rfl
  | cons first _ ih => rw [List.flatten_cons, List.append_assoc, first.body_append, ih]; rfl

theorem forall₂_quoteChar (text : List Char) : List.Forall₂ LiteralChar text (text.map quoteChar) := by
  rw [List.forall₂_map_right_iff, List.forall₂_same]
  exact fun c _ => literalChar_quoteChar c

theorem toList_quote (text : String) :
    (quote text).toList = '\'' :: ((text.toList.map quoteChar).flatten ++ ['\'']) := by
  rw [quote, String.toList_ofList, quoteChars, List.flatMap_def]
  rfl

/-- The literals that do not show their value. -/
def fixedLiterals : List String := ["null", "true", "false", "[]"]

/-- A character that neither numbers nor fixed literals are written with stands in literals of texts alone. -/
theorem text_or_not_mem_defaultLiteral (mark : Char) (notNumeral : DecimalDigits.isNumeral mark = false)
    (absent : ∀ literal ∈ fixedLiterals, mark ∉ literal.toList) (value : Json) :
    (∃ text, value = .string text) ∨ mark ∉ value.defaultLiteral.toList := by
  cases value with
  | null => exact .inr (absent "null" (by decide))
  | bool value =>
    cases value with
    | false => exact .inr (absent "false" (by decide))
    | true => exact .inr (absent "true" (by decide))
  | number value =>
    refine .inr fun listed => ?_
    have numeral := value.isNumeral_of_mem_literal mark listed
    rw [notNumeral] at numeral
    cases numeral
  | string text => exact .inl ⟨text, rfl⟩
  | array items => exact .inr (absent "[]" (by decide))
  | object members => exact .inr (absent "[]" (by decide))

theorem inline_defaultLiteral {value : Json}
    (clear : ∀ text, value = .string text → introducer ∉ text.toList) :
    Inline value.defaultLiteral.toList := by
  rcases text_or_not_mem_defaultLiteral '\n' (by decide) (by decide) value with ⟨text, rfl⟩ | feed
  · exact inline_quote (clear text rfl)
  rcases text_or_not_mem_defaultLiteral introducer (by decide) (by decide) value with ⟨text, rfl⟩ | sign
  · exact inline_quote (clear text rfl)
  · exact inline_of_not_mem feed sign

/-- The literal of a text is on one line between quotes: every character of the text as itself or as an escape,
and no control character. It is read as the text, whatever follows it. No other value has the same literal. -/
theorem text_reads_back_from_literal (text : String) :
    let literal := (Json.string text).defaultLiteral
    (∃ shown, List.Forall₂ LiteralChar text.toList shown ∧ literal.toList = '\'' :: (shown.flatten ++ ['\''])) ∧
    lines literal.toList = [literal.toList] ∧
    (∀ c ∈ literal.toList, isControl c = false) ∧
    (∀ behind, unquote? (literal.toList ++ behind) = some (text.toList, behind)) ∧
    ∀ value : Json, value.defaultLiteral = literal ↔ value = .string text := by
  intro literal
  have source (text : String) : (Json.string text).defaultLiteral.toList =
      '\'' :: ((text.toList.map quoteChar).flatten ++ ['\'']) := toList_quote text
  have reads (text : String) (behind : List Char) :
      unquote? ((Json.string text).defaultLiteral.toList ++ behind) = some (text.toList, behind) := by
    have read := unquote?_of_forall₂ (forall₂_quoteChar text.toList) behind
    rw [source text, List.cons_append, List.append_assoc]
    exact read
  have printed : ∀ c ∈ literal.toList, isControl c = false := by
    rw [source text, List.forall_mem_cons, List.forall_mem_append, List.forall_mem_singleton]
    refine ⟨by decide, fun d listed => ?_, by decide⟩
    obtain ⟨shown, inMap, inShown⟩ := List.mem_flatten.1 listed
    obtain ⟨c, -, rfl⟩ := List.mem_map.1 inMap
    exact (literalChar_quoteChar c).isControl_of_mem d inShown
  have single : lines literal.toList = [literal.toList] := by
    refine lines_of_not_mem ?_ (fun feed => absurd (printed _ feed) (by decide))
      fun return_ => absurd (printed _ return_) (by decide)
    rw [source text]
    exact List.cons_ne_nil _ _
  refine ⟨⟨_, forall₂_quoteChar text.toList, source text⟩, single, printed, reads text, fun value => ⟨fun same => ?_, ?_⟩⟩
  · rcases text_or_not_mem_defaultLiteral '\'' (by decide) (by decide) value with ⟨other, rfl⟩ | absent
    · have both := reads other []
      rw [same, reads text [], Option.some.injEq, Prod.mk.injEq] at both
      exact congrArg Json.string (String.toList_injective both.1).symm
    · rw [same, source text] at absent
      exact absurd List.mem_cons_self absent
  · rintro rfl
    rfl

/-- A backslash before a quote, a control character before digits, and a character beyond ASCII. -/
example : (Json.string "\\'\x0741é").defaultLiteral = "'\\\\\\'\\u000741é'" := by decide

end ClientStub
