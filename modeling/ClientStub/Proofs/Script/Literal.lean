import ClientStub.Text.Blank
import ClientStub.Text.Quoted

/-!
# Literals as a script engine reads them

A literal between single quotes goes up to the first quote that no backslash escapes. Its value is a sequence
of UTF-16 code units: those of its characters, with the escapes of plain scripts resolved, the octal ones
among them. The main statement bounds what a literal can say by its length: a quote or a backslash in the
value takes two characters at least.
-/

namespace ClientStub.Script

open ClientStub.Text

/-- The characters that end a line. A literal goes over one only behind a backslash, and leaves both out. -/
def isLineTerminator (c : Char) : Bool := c = '\n' || c = '\r' || c = '\u2028' || c = '\u2029'

def highSurrogate (n : Nat) : Nat := 0xD800 + (n - 0x10000) / 0x400

def lowSurrogate (n : Nat) : Nat := 0xDC00 + (n - 0x10000) % 0x400

/-- The UTF-16 code units of a code point. -/
def codePointUnits (n : Nat) : List Nat :=
  if n < 0x10000 then [n] else [highSurrogate n, lowSurrogate n]

/-- The value that a text is to a script. -/
def units (text : List Char) : List Nat := text.flatMap fun c => codePointUnits c.toNat

/-- The escapes of one letter. -/
def letterEscape? : Char → Option Nat
  | 'b' => some 8
  | 't' => some 9
  | 'n' => some 10
  | 'v' => some 11
  | 'f' => some 12
  | 'r' => some 13
  | _ => none

def hexNumber? (digits : List Char) : Option Nat :=
  digits.foldlM (fun n c => (hexValue? c).map fun digit => n * 16 + digit) 0

/-- A number of just so many hexadecimal digits, and what follows it. -/
def fixedHex? (count : Nat) (text : List Char) : Option (Nat × List Char) :=
  if count ≤ text.length then (hexNumber? (text.take count)).map fun n => (n, text.drop count) else none

/-- A code point between braces, and what follows the closing one. -/
def bracedHex? (text : List Char) : Option (Nat × List Char) :=
  let digits := (text.drop 1).takeWhile (· ≠ '\x7d')
  match (text.drop 1).dropWhile (· ≠ '\x7d'), hexNumber? digits with
  | _ :: after, some n => if digits ≠ [] ∧ n ≤ 0x10FFFF then some (n, after) else none
  | _, _ => none

def isOctalDigit (c : Char) : Bool := '0' ≤ c && c ≤ '7'

/-- The octal digits behind a first one: two or one, as the value stays within a byte. -/
def moreOctal (first : Char) (text : List Char) : List Char :=
  (text.take (if first ≤ '3' then 2 else 1)).takeWhile isOctalDigit

def octalNumber (digits : List Char) : Nat := digits.foldl (fun n c => n * 8 + (c.toNat - 48)) 0

/-- What follows a line terminator: a line feed belongs to the carriage return before it. -/
def afterTerminator (c : Char) (text : List Char) : List Char :=
  if c = '\r' then (dropStart? ['\n'] text).getD text else text

/-- The escape behind a backslash: the units that it stands for, and what follows it. A character that begins
no escape of its own stands for itself. -/
def escape? : List Char → Option (List Nat × List Char)
  | [] => none
  | c :: rest =>
    if isLineTerminator c then some ([], afterTerminator c rest)
    else if c = 'x' then (fixedHex? 2 rest).map fun (n, after) => ([n], after)
    else if c = 'u' then
      if rest.head? = some '\x7b' then (bracedHex? rest).map fun (n, after) => (codePointUnits n, after)
      else (fixedHex? 4 rest).map fun (n, after) => ([n], after)
    else if isOctalDigit c then
      some ([octalNumber (c :: moreOctal c rest)], rest.drop (moreOctal c rest).length)
    else match letterEscape? c with
      | some n => some ([n], rest)
      | none => some (codePointUnits c.toNat, rest)

/-- How many characters of a literal a unit takes at least. A low surrogate is counted with its high one. -/
def unitCost (unit : Nat) : Nat :=
  if 0xDC00 ≤ unit ∧ unit < 0xE000 then 0 else if unit = 39 ∨ unit = 92 then 2 else 1

def cost : List Nat → Nat
  | [] => 0
  | unit :: value => unitCost unit + cost value

theorem cost_append (first second : List Nat) : cost (first ++ second) = cost first + cost second := by
  induction first with
  | nil => simp [cost]
  | cons unit first ih => rw [List.cons_append, cost, cost, ih, Nat.add_assoc]

theorem unitCost_le (unit : Nat) : unitCost unit ≤ 2 := by
  unfold unitCost
  split
  · omega
  · split <;> omega

theorem cost_singleton (unit : Nat) : cost [unit] = unitCost unit := by simp [cost]

theorem cost_pair (first second : Nat) : cost [first, second] = unitCost first + unitCost second := by
  simp [cost]

theorem unitCost_lowSurrogate (n : Nat) : unitCost (lowSurrogate n) = 0 := by
  unfold unitCost lowSurrogate
  rw [if_pos (by omega)]

theorem highSurrogate_range {n : Nat} (valid : n < 0x110000) :
    0xD800 ≤ highSurrogate n ∧ highSurrogate n < 0xDC00 := by
  unfold highSurrogate
  omega

theorem unitCost_highSurrogate {n : Nat} (valid : n < 0x110000) : unitCost (highSurrogate n) = 1 := by
  have range := highSurrogate_range valid
  unfold unitCost
  rw [if_neg (by omega), if_neg (by omega)]

theorem cost_codePointUnits_le (n : Nat) : cost (codePointUnits n) ≤ 2 := by
  unfold codePointUnits
  split
  · rw [cost_singleton]
    exact unitCost_le n
  · rw [cost_pair, unitCost_lowSurrogate, Nat.add_zero]
    exact unitCost_le (highSurrogate n)

/-- A quote or a backslash costs two characters, and every other character one. -/
theorem cost_char (c : Char) : cost (codePointUnits c.toNat) = if c = '\'' ∨ c = '\\' then 2 else 1 := by
  have marks : (c = '\'' ∨ c = '\\') ↔ (c.toNat = 39 ∨ c.toNat = 92) := by
    rw [← Char.toNat_inj, ← Char.toNat_inj]
    rfl
  have valid : c.toNat < 0xD800 ∨ 0xDFFF < c.toNat ∧ c.toNat < 0x110000 := c.valid
  simp only [marks]
  unfold codePointUnits
  split
  · rw [cost_singleton, unitCost, if_neg (by omega)]
  · rw [cost_pair, unitCost_lowSurrogate, unitCost_highSurrogate (by omega), if_neg (by omega)]

/-- A text costs as many characters as it has, and one more for every quote and every backslash. -/
theorem cost_units (text : List Char) :
    cost (units text) = text.length + text.count '\'' + text.count '\\' := by
  induction text with
  | nil => rfl
  | cons c rest ih =>
    have first := cost_char c
    rw [units, List.flatMap_cons, cost_append, ← units, ih, first, List.length_cons, List.count_cons,
      List.count_cons]
    by_cases quote : c = '\''
    · subst quote
      simp
      omega
    · by_cases backslash : c = '\\'
      · subst backslash
        simp
        omega
      · simp [quote, backslash]
        omega

theorem fixedHex?_length {count n : Nat} {text after : List Char}
    (found : fixedHex? count text = some (n, after)) : after.length ≤ text.length := by
  unfold fixedHex? at found
  split at found
  · obtain ⟨_, _, same⟩ := Option.map_eq_some_iff.1 found
    obtain ⟨-, rfl⟩ := Prod.mk.inj same
    simp
  · cases found

theorem bracedHex?_length {n : Nat} {text after : List Char}
    (found : bracedHex? text = some (n, after)) : after.length ≤ text.length := by
  have shorter := (List.dropWhile_suffix (fun c => decide (c ≠ '\x7d')) (l := text.drop 1)).length_le
  unfold bracedHex? at found
  dsimp only at found
  split at found
  · rename_i closing _
    rw [closing, List.length_cons, List.length_drop] at shorter
    split at found
    · obtain ⟨-, rfl⟩ := Prod.mk.inj (Option.some.inj found)
      omega
    · cases found
  · cases found

theorem afterTerminator_length (c : Char) (text : List Char) :
    (afterTerminator c text).length ≤ text.length := by
  unfold afterTerminator dropStart?
  split
  · split
    · simp
    · simp
  · exact Nat.le_refl _

/-- An escape stands for units that cost no more than itself: two characters with the backslash. -/
theorem escape?_bound {text after : List Char} {value : List Nat}
    (found : escape? text = some (value, after)) : cost value ≤ 2 ∧ after.length < text.length := by
  cases text with
  | nil => cases found
  | cons c rest =>
    rw [List.length_cons, Nat.lt_succ_iff]
    have one (unit : Nat) : cost [unit] ≤ 2 := by
      rw [cost_singleton]
      exact unitCost_le unit
    rw [escape?] at found
    split at found
    · obtain ⟨rfl, rfl⟩ := Prod.mk.inj (Option.some.inj found)
      exact ⟨by simp [cost], afterTerminator_length c rest⟩
    split at found
    · obtain ⟨⟨n, behind⟩, read, same⟩ := Option.map_eq_some_iff.1 found
      obtain ⟨rfl, rfl⟩ := Prod.mk.inj same
      exact ⟨one n, fixedHex?_length read⟩
    split at found
    · split at found
      · obtain ⟨⟨n, behind⟩, read, same⟩ := Option.map_eq_some_iff.1 found
        obtain ⟨rfl, rfl⟩ := Prod.mk.inj same
        exact ⟨cost_codePointUnits_le n, bracedHex?_length read⟩
      · obtain ⟨⟨n, behind⟩, read, same⟩ := Option.map_eq_some_iff.1 found
        obtain ⟨rfl, rfl⟩ := Prod.mk.inj same
        exact ⟨one n, fixedHex?_length read⟩
    split at found
    · obtain ⟨rfl, rfl⟩ := Prod.mk.inj (Option.some.inj found)
      exact ⟨one _, by simp⟩
    split at found
    · obtain ⟨rfl, rfl⟩ := Prod.mk.inj (Option.some.inj found)
      exact ⟨one _, Nat.le_refl _⟩
    · obtain ⟨rfl, rfl⟩ := Prod.mk.inj (Option.some.inj found)
      exact ⟨cost_codePointUnits_le _, Nat.le_refl _⟩

/-- Reads the inside of a literal and its closing quote: the value, and what follows the quote. -/
def inside? (text : List Char) : Option (List Nat × List Char) :=
  match text with
  | [] => none
  | c :: rest =>
    if c = '\'' then some ([], rest)
    else if c = '\\' then
      match _found : escape? rest with
      | none => none
      | some (escaped, after) => (inside? after).map fun (value, behind) => (escaped ++ value, behind)
    else if isLineTerminator c then none
    else (inside? rest).map fun (value, behind) => (codePointUnits c.toNat ++ value, behind)
termination_by text.length
decreasing_by
  · exact Nat.lt_succ_of_lt (escape?_bound _found).2
  · simp

/-- Reads the single-quoted literal that a text begins with: its value, and what follows it. -/
def literal? : List Char → Option (List Nat × List Char)
  | '\'' :: rest => inside? rest
  | _ => none

/-- A literal is at least as long as its value costs. -/
theorem cost_le_of_inside? {text behind : List Char} {value : List Nat}
    (read : inside? text = some (value, behind)) : cost value + 1 + behind.length ≤ text.length := by
  fun_induction inside? text generalizing value with
  | case1 => cases read
  | case2 rest =>
    obtain ⟨rfl, rfl⟩ := Prod.mk.inj (Option.some.inj read)
    simp [cost]
    omega
  | case3 => cases read
  | case4 rest escaped after found _ ih =>
    obtain ⟨⟨inner, following⟩, readInner, same⟩ := Option.map_eq_some_iff.1 read
    obtain ⟨rfl, rfl⟩ := Prod.mk.inj same
    have bound := escape?_bound found
    have shorter := ih readInner
    rw [cost_append, List.length_cons]
    omega
  | case5 => cases read
  | case6 c rest quote backslash _ ih =>
    obtain ⟨⟨inner, following⟩, readInner, same⟩ := Option.map_eq_some_iff.1 read
    obtain ⟨rfl, rfl⟩ := Prod.mk.inj same
    have shorter := ih readInner
    rw [cost_append, cost_char, if_neg (by simp [quote, backslash]), List.length_cons]
    omega

/-- A text with a backslash before every quote. -/
def escapeQuotes (text : List Char) : List Char :=
  text.flatMap fun c => if c = '\'' then ['\\', '\''] else [c]

theorem length_escapeQuotes (text : List Char) :
    (escapeQuotes text).length = text.length + text.count '\'' := by
  induction text with
  | nil => rfl
  | cons c rest ih =>
    rw [escapeQuotes, List.flatMap_cons, List.length_append, ← escapeQuotes, ih, List.length_cons,
      List.count_cons]
    by_cases quote : c = '\''
    · subst quote
      simp
      omega
    · simp [quote]
      omega

theorem inside?_quote (text : List Char) : inside? ('\'' :: text) = some ([], text) := by
  rw [inside?, if_pos rfl]

theorem inside?_escapedQuote (text : List Char) :
    inside? ('\\' :: '\'' :: text) = (inside? text).map fun (value, behind) => (39 :: value, behind) := by
  have escaped : escape? ('\'' :: text) = some ([39], text) := rfl
  rw [inside?, if_neg (by decide), if_pos rfl]
  split
  · rename_i absent
    rw [escaped] at absent
    cases absent
  · rename_i found
    rw [escaped] at found
    obtain ⟨rfl, rfl⟩ := Prod.mk.inj (Option.some.inj found)
    rfl

theorem inside?_cons {c : Char} (quote : c ≠ '\'') (backslash : c ≠ '\\')
    (unbroken : isLineTerminator c = false) (text : List Char) :
    inside? (c :: text) =
      (inside? text).map fun (value, behind) => (codePointUnits c.toNat ++ value, behind) := by
  rw [inside?, if_neg quote, if_neg backslash, if_neg (by simp [unbroken])]

/-- Escaping the quotes is enough where there is no backslash. -/
theorem inside?_escapeQuotes {text : List Char} (absent : '\\' ∉ text)
    (unbroken : ∀ c ∈ text, isLineTerminator c = false) (behind : List Char) :
    inside? (escapeQuotes text ++ '\'' :: behind) = some (units text, behind) := by
  induction text with
  | nil => exact inside?_quote behind
  | cons c rest ih =>
    rw [List.mem_cons, not_or] at absent
    rw [List.forall_mem_cons] at unbroken
    have others := ih absent.2 unbroken.2
    rw [escapeQuotes, List.flatMap_cons, ← escapeQuotes, units, List.flatMap_cons, ← units]
    by_cases quote : c = '\''
    · subst quote
      rw [if_pos rfl, List.append_assoc, List.cons_append, List.cons_append, List.nil_append,
        inside?_escapedQuote, others]
      rfl
    · rw [if_neg quote, List.append_assoc, List.singleton_append,
        inside?_cons quote (Ne.symm absent.1) unbroken.1, others]
      rfl

/-- A text between quotes, with its own quotes escaped, is a literal of the text exactly if it has no
backslash. -/
theorem literal?_escapeQuotes_iff {text : List Char} (unbroken : ∀ c ∈ text, isLineTerminator c = false)
    (behind : List Char) :
    literal? ('\'' :: (escapeQuotes text ++ '\'' :: behind)) = some (units text, behind) ↔ '\\' ∉ text := by
  constructor
  · intro read
    have bound := cost_le_of_inside? read
    rw [cost_units, List.length_append, length_escapeQuotes, List.length_cons] at bound
    exact List.count_eq_zero.1 (by omega)
  · intro absent
    exact inside?_escapeQuotes absent unbroken behind

end ClientStub.Script
