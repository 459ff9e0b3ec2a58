import Mathlib.Algebra.Group.Nat.Defs
import Mathlib.Data.List.Basic
import ClientStub.Proofs.Json.Strings
import ClientStub.Proofs.Text.Gaps
import ClientStub.Proofs.Yaml.Cursor
import ClientStub.Yaml.Scalar

/-!
# Quoted scalars, read back

A text between quotes is read word by word with the gaps between. Single quotes hold texts of several lines
too, if only line breaks that are no line feeds end them; between double quotes everything but spaces and what
is printed as itself is escaped.
-/

namespace ClientStub.Yaml

def quoteMark (double : Bool) : Char := if double then '"' else '\''

/-- What may stand for a character of a word between quotes. -/
inductive QuotedUnit (double : Bool) (c : Char) : List Char → Prop where
  | plain (apart : isGapChar c = false) (notQuote : c ≠ quoteMark double) (notEscape : double = true → c ≠ '\\') :
      QuotedUnit double c [c]
  | doubled (single : double = false) (quote : c = '\'') : QuotedUnit double c ['\'', '\'']
  | escape {letter : Char} {more : List Char} (doubled : double = true)
      (line : ∀ d ∈ letter :: more, isBreak d = false)
      (reads : ∀ rest, readEscape? (letter :: (more ++ rest)) = some (c, more.length + 1)) :
      QuotedUnit double c ('\\' :: letter :: more)

variable {double : Bool} {c : Char} {at_ : Cursor}

theorem QuotedUnit.inLine {written : List Char} (unit : QuotedUnit double c written) :
    ∀ d ∈ written, isBreak d = false := by
  cases unit with
  | plain apart =>
    rw [List.forall_mem_singleton]
    exact isBreak_of_isGapChar apart
  | doubled => simp [isBreak]
  | escape _ line =>
    rw [List.forall_mem_cons]
    exact ⟨rfl, line⟩

theorem QuotedUnit.apart {written : List Char} (unit : QuotedUnit double c written) (rest : List Char) :
    ∀ d ∈ (written ++ rest).head?, isGapChar d = false := by
  cases unit with
  | plain apart =>
    rintro d ⟨⟩
    exact apart
  | doubled =>
    rintro d ⟨⟩
    rfl
  | escape =>
    rintro d ⟨⟩
    rfl

theorem QuotedUnit.length_pos {written : List Char} (unit : QuotedUnit double c written) : 1 ≤ written.length := by
  cases unit <;> simp

/-- What ends a word between quotes: a gap, or the closing quote. -/
def StopsQuoted (double : Bool) (text : List Char) : Prop :=
  (∃ c rest, text = c :: rest ∧ isGapChar c = true) ∨
    ∃ rest, text = quoteMark double :: rest ∧ (double = false → rest.head? ≠ some '\'')

theorem quotedRun?_of_stops (stops : StopsQuoted double at_.rest) (fuel : Nat) :
    quotedRun? double (fuel + 1) at_ = some ([], .plain, at_) := by
  rw [quotedRun?]
  rcases stops with ⟨c, rest, text, gap⟩ | ⟨rest, text, last⟩
  · rw [text]
    simp only
    rw [if_pos gap]
  · rw [text]
    cases double with
    | false =>
      simp only [quoteMark]
      rw [if_neg (by decide), if_pos (by decide), if_neg (by simpa using last rfl)]
    | true =>
      simp only [quoteMark]
      rw [if_neg (by decide), if_neg (by decide), if_pos (by decide)]

theorem quotedRun?_append {written behind : List Char} (unit : QuotedUnit double c written)
    (stands : at_.rest = written ++ behind) (fuel : Nat) :
    quotedRun? double (fuel + 1) at_ =
      (quotedRun? double fuel (at_.pass written)).map fun (text, result) => (c :: text, result) := by
  rw [quotedRun?, Cursor.pass_eq_advance unit.inLine, stands]
  cases unit with
  | plain apart notQuote notEscape =>
    simp only [List.singleton_append]
    cases double with
    | false =>
      simp only [quoteMark] at notQuote
      rw [if_neg (by simp [apart]), if_neg (by simpa using notQuote), if_neg (by simp), if_neg (by simp)]
      rfl
    | true =>
      simp only [quoteMark] at notQuote
      rw [if_neg (by simp [apart]), if_neg (by simp), if_neg (by simpa using notQuote),
        if_neg (by simpa using notEscape rfl)]
      rfl
  | doubled single quote =>
    subst single quote
    simp only [List.cons_append, List.nil_append]
    rw [if_neg (by decide), if_pos (by decide), if_pos (by simp)]
    rfl
  | @escape letter more doubled line reads =>
    subst doubled
    have visible : isBreak letter = false := line letter List.mem_cons_self
    simp only [List.cons_append]
    rw [if_neg (by decide), if_neg (by decide), if_neg (by decide), if_pos (by decide),
      if_neg (by simp [visible]), reads]
    simp only [Option.bind_eq_bind, Option.bind_some, List.length_cons]
    cases quotedRun? true fuel (at_.advance (more.length + 1 + 1)) <;> rfl

/-- A word is read up to what ends it. -/
theorem quotedRun?_word {unit : Char → List Char} {word behind : List Char}
    (units : ∀ c ∈ word, QuotedUnit double c (unit c)) (stands : at_.rest = word.flatMap unit ++ behind)
    (stops : StopsQuoted double behind) {fuel : Nat} (enough : (word.flatMap unit).length < fuel) :
    quotedRun? double fuel at_ = some (word, .plain, at_.pass (word.flatMap unit)) := by
  obtain ⟨fuel, rfl⟩ : ∃ less, fuel = less + 1 := ⟨fuel - 1, by omega⟩
  induction word generalizing at_ fuel with
  | nil =>
    rw [List.flatMap_nil, List.nil_append] at stands
    exact quotedRun?_of_stops (by rwa [stands]) fuel
  | cons c word ih =>
    rw [List.forall_mem_cons] at units
    have one := units.1.length_pos
    rw [List.flatMap_cons, List.append_assoc] at stands
    rw [List.flatMap_cons, List.length_append] at enough
    obtain ⟨fuel, rfl⟩ : ∃ less, fuel = less + 1 := ⟨fuel - 1, by omega⟩
    rw [quotedRun?_append units.1 stands, ih units.2 (Cursor.rest_pass stands) fuel (by omega), List.flatMap_cons,
      Cursor.pass_append]
    rfl

/-- What may stand for a gap between words: its spaces, or its line breaks with a margin behind them. -/
inductive GapText : List Char → List Char → Prop where
  | spaces {more : List Char} (all : ∀ c ∈ ' ' :: more, c = ' ') : GapText (' ' :: more) (' ' :: more)
  | breaks {c : Char} {more : List Char} {columns : Nat} (kept : ∀ d ∈ c :: more, isKeptBreak d = true)
      (notFeed : c ≠ '\n') (indented : 0 < columns) : GapText (c :: more) (c :: (more ++ Yaml.spaces columns))

theorem GapText.starts {gap shown : List Char} (text : GapText gap shown) :
    ∃ c rest, shown = c :: rest ∧ isGapChar c = true := by
  cases text with
  | spaces => exact ⟨' ', _, rfl, rfl⟩
  | breaks kept => exact ⟨_, _, rfl, isGapChar_of_isBreak (isBreak_of_isKeptBreak (kept _ List.mem_cons_self))⟩

/-- A gap is read as itself. What follows it stands inside its line. -/
theorem GapText.read? {gap shown behind : List Char} (text : GapText gap shown) (stands : at_.rest = shown ++ behind)
    (ends : ∀ c ∈ behind.head?, isGapChar c = false) :
    (at_.pass shown).column ≠ 0 ∧
      ∃ found, Gap.read? (-1) at_.rest.length Gap.none at_ = some (found, at_.pass shown) ∧ found.folded = gap := by
  cases text with
  | @spaces more all =>
    have inLine : ∀ c ∈ ' ' :: more, isBreak c = false := by
      intro c listed
      rw [all c listed]
      rfl
    refine ⟨?_, _, Gap.read?_spaces all stands ends (by rw [stands, List.length_append]; omega) _, rfl⟩
    rw [Cursor.pass_eq_advance inLine]
    simp [Cursor.advance]
  | @breaks c more columns kept notFeed indented =>
    refine ⟨?_, _, Gap.read?_break kept (by simpa using stands) ends ?_, ?_⟩
    · rw [← List.cons_append, Cursor.column_pass_breaks (List.cons_ne_nil c more) fun d listed =>
        isBreak_of_isKeptBreak (kept d listed)]
      omega
    · rw [stands]
      simp only [List.length_cons, List.length_append, Yaml.spaces, List.length_replicate]
      omega
    · simp [Gap.folded, notFeed]

/-- What may stand between quotes for a text whose words are written by `unit`. -/
inductive QuotedText (double : Bool) (unit : Char → List Char) : List Char → List Char → Prop where
  | word {word : List Char} (units : ∀ c ∈ word, QuotedUnit double c (unit c)) :
      QuotedText double unit word (word.flatMap unit)
  | gap {word gap shown rest written : List Char} (units : ∀ c ∈ word, QuotedUnit double c (unit c))
      (between : GapText gap shown) (starts : ∀ c ∈ written.head?, isGapChar c = false)
      (more : QuotedText double unit rest written) :
      QuotedText double unit (word ++ (gap ++ rest)) (word.flatMap unit ++ (shown ++ written))

theorem isGapChar_quoteMark (double : Bool) : isGapChar (quoteMark double) = false := by cases double <;> rfl

/-- A text between quotes is read up to behind its closing quote. -/
theorem readQuoted?_text {unit : Char → List Char} {text written behind : List Char}
    (shown : QuotedText double unit text written) (inside : at_.column ≠ 0)
    (stands : at_.rest = written ++ quoteMark double :: behind)
    (last : double = false → behind.head? ≠ some '\'') {fuel : Nat} (enough : written.length < fuel) :
    readQuoted? double fuel at_ = some (text, at_.pass (written ++ [quoteMark double])) := by
  have passMark (at_ : Cursor) : at_.pass [quoteMark double] = at_.advance 1 :=
    Cursor.pass_eq_advance (by rw [List.forall_mem_singleton]; exact isBreak_of_isGapChar (isGapChar_quoteMark double))
  have mark : (if double = true then '"' else '\'') = quoteMark double := rfl
  obtain ⟨fuel, rfl⟩ : ∃ less, fuel = less + 1 := ⟨fuel - 1, by omega⟩
  induction shown generalizing at_ fuel with
  | @word word units =>
    have some_ : at_.rest.isEmpty = false := by simp [stands]
    have read := quotedRun?_word units stands (.inr ⟨behind, rfl, last⟩) (show _ < at_.rest.length + 1 by
      rw [stands, List.length_append]
      omega)
    have next : (at_.pass (word.flatMap unit)).next? = some (quoteMark double) := by
      rw [Cursor.next?, Cursor.rest_pass stands]
      rfl
    have folded : Gap.none.folded = [] := rfl
    rw [readQuoted?, if_neg (by simp [Cursor.atDocumentMarker, inside, some_]), read]
    simp only [Option.bind_eq_bind, Option.bind_some]
    rw [mark, if_pos next, folded, List.append_nil, Cursor.pass_append, passMark]
    rfl
  | @gap word gap shown rest written units between starts more ih =>
    have some_ : at_.rest.isEmpty = false := by
      obtain ⟨c, more, same, -⟩ := between.starts
      simp [stands, same]
    have stands' : at_.rest = word.flatMap unit ++ (shown ++ (written ++ quoteMark double :: behind)) := by
      rw [stands]
      simp
    have ends : ∀ c ∈ (written ++ quoteMark double :: behind).head?, isGapChar c = false := by
      cases written with
      | nil =>
        rintro c ⟨⟩
        exact isGapChar_quoteMark double
      | cons c written => exact starts
    obtain ⟨c, front, same, gapFirst⟩ := between.starts
    have read := quotedRun?_word units stands'
      (.inl ⟨c, front ++ (written ++ quoteMark double :: behind), by simp [same], gapFirst⟩)
      (show _ < at_.rest.length + 1 by
        rw [stands', List.length_append]
        omega)
    have rest' := Cursor.rest_pass stands'
    obtain ⟨column, found, readGap, folded⟩ := between.read? rest' ends
    have next : (at_.pass (word.flatMap unit)).next? ≠ some (quoteMark double) := by
      rw [Cursor.next?, rest', same]
      rintro ⟨⟩
      rw [isGapChar_quoteMark] at gapFirst
      exact absurd gapFirst (by decide)
    have length : 1 ≤ shown.length := by simp [same]
    simp only [List.length_append] at enough
    obtain ⟨fuel, rfl⟩ : ∃ less, fuel = less + 1 := ⟨fuel - 1, by omega⟩
    rw [readQuoted?, if_neg (by simp [Cursor.atDocumentMarker, inside, some_]), read]
    simp only [Option.bind_eq_bind, Option.bind_some]
    rw [mark, if_neg next, readGap]
    simp only [Option.bind_some]
    rw [ih column (Cursor.rest_pass rest') fuel (by omega)]
    simp [folded, Cursor.pass_append]

theorem hasPair_append {first second : Char → Bool} (front : List Char) {text : List Char}
    (free : hasPair first second (front ++ text) = false) : hasPair first second text = false := by
  induction front with
  | nil => exact free
  | cons c front ih =>
    cases behind : front ++ text with
    | nil =>
      rw [(List.append_eq_nil_iff.1 behind).2]
      rfl
    | cons d rest =>
      rw [List.cons_append, behind, hasPair, Bool.or_eq_false_iff] at free
      exact ih (behind ▸ free.2)

/-- Where no space stands beside a line break, a gap is of one kind. -/
theorem spaces_or_breaks {gap rest : List Char} (each : ∀ c ∈ gap, c = ' ' ∨ isBreak c = true)
    (noEnd : hasPair isSpace isBreak (gap ++ rest) = false) (noStart : hasPair isBreak isSpace (gap ++ rest) = false) :
    (∀ c ∈ gap, c = ' ') ∨ ∀ c ∈ gap, isBreak c = true := by
  induction gap with
  | nil => exact .inl (by simp)
  | cons c gap ih =>
    rw [List.forall_mem_cons] at each
    have behind := ih each.2 (hasPair_append [c] noEnd) (hasPair_append [c] noStart)
    simp only [List.forall_mem_cons]
    cases gap with
    | nil => simpa using each.1
    | cons d gap =>
      rw [List.forall_mem_cons, List.forall_mem_cons] at behind
      simp only [List.cons_append, hasPair, Bool.or_eq_false_iff, Bool.and_eq_false_iff] at noEnd noStart
      simp only [List.forall_mem_cons]
      rcases each.1 with rfl | breaks
      · rcases behind with same | ⟨other, -⟩
        · exact .inl ⟨rfl, same⟩
        · simp [isSpace, other] at noEnd
      · rcases behind with ⟨rfl, -⟩ | same
        · simp [isSpace, breaks] at noStart
        · exact .inr ⟨breaks, same⟩

def singleQuotedChar (c : Char) : List Char := if c = '\'' then ['\'', '\''] else [c]

theorem quotedUnit_singleQuotedChar (apart : isGapChar c = false) : QuotedUnit false c (singleQuotedChar c) := by
  unfold singleQuotedChar
  split
  · exact .doubled rfl ‹_›
  · exact .plain apart ‹_› (by simp)

/-- What stands between single quotes: a line break at the end has a margin behind it. -/
def singleQuotedBody (margin : Nat) (text : List Char) : List Char :=
  withMargin margin singleQuotedChar false text ++ (if text.getLast?.any isBreak then spaces margin else [])

theorem singleQuoted_eq (margin : Nat) (text : List Char) :
    singleQuoted margin text = '\'' :: (singleQuotedBody margin text ++ ['\'']) := rfl

theorem singleQuotedBody_line {word : List Char} (inLine : ∀ c ∈ word, isBreak c = false) (margin : Nat) :
    singleQuotedBody margin word = word.flatMap singleQuotedChar := by
  have noBreak : word.getLast?.any isBreak = false := by
    cases last : word.getLast? with
    | none => rfl
    | some c => exact inLine c (List.mem_of_getLast? last)
  have body := withMargin_word margin singleQuotedChar inLine []
  rw [List.append_nil] at body
  rw [singleQuotedBody, noBreak, body]
  simp [withMargin]

theorem singleQuotedBody_spaces {word more rest : List Char} (apart : ∀ c ∈ word, isGapChar c = false)
    (all : ∀ c ∈ ' ' :: more, c = ' ') (margin : Nat) :
    singleQuotedBody margin (word ++ ' ' :: (more ++ rest)) =
      word.flatMap singleQuotedChar ++ (' ' :: more ++ singleQuotedBody margin rest) := by
  have inLine : ∀ c ∈ word, isBreak c = false := fun c listed => isBreak_of_isGapChar (apart c listed)
  have lineOfSpaces : ∀ c ∈ ' ' :: more, isBreak c = false := by
    intro c listed
    rw [all c listed]
    rfl
  have written : (' ' :: more).flatMap singleQuotedChar = ' ' :: more := by
    have same : ∀ c ∈ ' ' :: more, singleQuotedChar c = [c] := by
      intro c listed
      rw [all c listed]
      rfl
    rw [List.flatMap_congr same, List.flatMap_singleton']
  have last : (' ' :: more).getLast? = some ' ' := by
    rw [List.getLast?_eq_some_getLast (List.cons_ne_nil ' ' more), all _ (List.getLast_mem _)]
  have closing : (word ++ (' ' :: more ++ rest)).getLast?.any isBreak = rest.getLast?.any isBreak := by
    rw [List.getLast?_append, List.getLast?_append, last]
    cases rest.getLast? <;> rfl
  rw [← List.cons_append, singleQuotedBody, closing, withMargin_word _ _ inLine,
    withMargin_word _ _ lineOfSpaces, written]
  simp [singleQuotedBody]

theorem singleQuotedBody_breaks {word more rest : List Char} (apart : ∀ c ∈ word, isGapChar c = false)
    (all : ∀ d ∈ c :: more, isBreak d = true) (starts : ∀ d ∈ rest.head?, isGapChar d = false) (margin : Nat) :
    singleQuotedBody margin (word ++ c :: (more ++ rest)) =
      word.flatMap singleQuotedChar ++ (c :: (more ++ spaces margin) ++ singleQuotedBody margin rest) := by
  have inLine : ∀ c ∈ word, isBreak c = false := fun c listed => isBreak_of_isGapChar (apart c listed)
  rw [singleQuotedBody, withMargin_word _ _ inLine, withMargin_breaks all]
  cases rest with
  | nil =>
    have last : (word ++ c :: (more ++ [])).getLast?.any isBreak = true := by
      rw [List.append_nil, List.getLast?_append, List.getLast?_eq_some_getLast (List.cons_ne_nil c more)]
      exact all _ (List.getLast_mem _)
    rw [last]
    simp [withMargin, singleQuotedBody]
  | cons d rest =>
    have closing : (word ++ c :: (more ++ d :: rest)).getLast?.any isBreak = (d :: rest).getLast?.any isBreak := by
      rw [← List.cons_append, ← List.append_assoc, List.getLast?_append_of_ne_nil _ (List.cons_ne_nil d rest)]
    rw [closing, withMargin_line (isBreak_of_isGapChar (starts d rfl))]
    simp [singleQuotedBody]

theorem singleQuotedBody_starts {text : List Char} (starts : ∀ d ∈ text.head?, isGapChar d = false) (margin : Nat) :
    ∀ d ∈ (singleQuotedBody margin text).head?, isGapChar d = false := by
  cases text with
  | nil => simp [singleQuotedBody, withMargin]
  | cons c text =>
    have apart := starts c rfl
    have line : ∀ d ∈ [c], isBreak d = false := by
      rw [List.forall_mem_singleton]
      exact isBreak_of_isGapChar apart
    have body := withMargin_word margin singleQuotedChar line text
    rw [List.singleton_append] at body
    rw [singleQuotedBody, body, List.flatMap_singleton, List.append_assoc]
    exact (quotedUnit_singleQuotedChar apart).apart _

/-- A text whose gaps are spaces, or line breaks that are no line feeds, may stand between single quotes. -/
theorem quotedText_singleQuotedBody {margin : Nat} (indented : 0 < margin) {text : List Char}
    (printed : ∀ c ∈ text, isPrintable c = true) (noFeed : '\n' ∉ text)
    (noEnd : hasPair isSpace isBreak text = false) (noStart : hasPair isBreak isSpace text = false) :
    QuotedText false singleQuotedChar text (singleQuotedBody margin text) := by
  induction text using Text.words_induction isGapChar with
  | word word apart =>
    rw [singleQuotedBody_line fun c listed => isBreak_of_isGapChar (apart c listed)]
    exact .word fun c listed => quotedUnit_singleQuotedChar (apart c listed)
  | gap word c more rest apart gaps starts ih =>
    have units : ∀ c ∈ word, QuotedUnit false c (singleQuotedChar c) := fun c listed =>
      quotedUnit_singleQuotedChar (apart c listed)
    have each : ∀ d ∈ c :: more, d = ' ' ∨ isBreak d = true := by
      intro d listed
      cases breaks : isBreak d with
      | false => exact .inl (isSpace_of_isPrintable (printed d (by grind)) (gaps d listed) breaks)
      | true => exact .inr rfl
    have noEnd := hasPair_append _ noEnd
    have noStart := hasPair_append _ noStart
    have behind := ih (fun d listed => printed d (by simp [listed])) (fun listed => noFeed (by simp [listed]))
      (hasPair_append (c :: more) noEnd) (hasPair_append (c :: more) noStart)
    rcases spaces_or_breaks each noEnd noStart with all | all
    · obtain rfl := all c List.mem_cons_self
      rw [singleQuotedBody_spaces apart all]
      exact .gap units (.spaces all) (singleQuotedBody_starts starts margin) behind
    · rw [singleQuotedBody_breaks apart all starts]
      refine .gap units (.breaks (fun d listed => ?_) ?_ indented) (singleQuotedBody_starts starts margin) behind
      · exact isKeptBreak_of_isPrintable (printed d (by grind)) (all d listed)
      · rintro rfl
        exact noFeed (by simp)

/-- The digits of a number escape are read as the number. -/
theorem mapM_hexValue?_upperHex (digits n : Nat) :
    ∃ values, (upperHex digits n).mapM Text.hexValue? = some values ∧
      values.foldl (fun n d => n * 16 + d) 0 = n % 16 ^ digits := by
  induction digits generalizing n with
  | zero => exact ⟨[], rfl, by simp [Nat.mod_one]⟩
  | succ digits ih =>
    obtain ⟨values, read, value⟩ := ih (n / 16)
    have digit : Text.hexValue? (Text.hexDigit (n % 16)).toUpper = some (n % 16) :=
      Json.hexValue?_of_hexDigit ⟨Nat.mod_lt n (by decide), .inr rfl⟩
    refine ⟨values ++ [n % 16], ?_, ?_⟩
    · simp [upperHex, List.mapM_append, read, digit]
    · rw [List.foldl_append, value]
      simp only [List.foldl_cons, List.foldl_nil]
      rw [Nat.pow_succ, Nat.mul_comm (16 ^ digits) 16, Nat.mod_mul]
      omega

theorem length_upperHex (digits n : Nat) : (upperHex digits n).length = digits := by
  induction digits generalizing n with
  | zero => rfl
  | succ digits ih => simp [upperHex, ih]

theorem readEscape?_upperHex {letter : Char} {digits : Nat} (wanted : escapeDigits? letter = some digits)
    (fits : c.toNat < 16 ^ digits) (rest : List Char) :
    readEscape? (letter :: (upperHex digits c.toNat ++ rest)) = some (c, digits + 1) := by
  obtain ⟨values, read, value⟩ := mapM_hexValue?_upperHex digits c.toNat
  rw [Nat.mod_eq_of_lt fits] at value
  have apart := Json.toNat_lt_or_lt c
  have small : c.toNat ≤ 0x10FFFF := by
    rcases c.valid with low | high
    · exact Nat.le_trans (Nat.le_of_lt low) (by decide)
    · exact Nat.le_of_lt_succ high.2
  have char : charOfCode? c.toNat = some c := by
    rw [charOfCode?, if_neg, Char.ofNat_toNat]
    simp only [Bool.or_eq_true, Bool.and_eq_true, decide_eq_true_eq]
    omega
  have taken : (upperHex digits c.toNat ++ rest).take digits = upperHex digits c.toNat :=
    List.take_left' (length_upperHex digits _)
  simp [readEscape?, wanted, taken, length_upperHex, read, value, char]

theorem isGapChar_of_isPrintable (printed : isPrintable c = true) (inLine : isBreak c = false) (apart : c ≠ ' ') :
    isGapChar c = false := by
  cases gap : isGapChar c with
  | false => rfl
  | true => exact absurd (isSpace_of_isPrintable printed gap inLine) apart

theorem exists_of_mem_upperHex {digits n : Nat} {d : Char} (listed : d ∈ upperHex digits n) :
    ∃ value < 16, d = (Text.hexDigit value).toUpper := by
  induction digits generalizing n with
  | zero => cases listed
  | succ digits ih =>
    rw [upperHex, List.mem_append, List.mem_singleton] at listed
    rcases listed with front | last
    · exact ih front
    · exact ⟨n % 16, Nat.mod_lt n (by decide), last⟩

theorem quotedUnit_upperHex {letter : Char} {digits : Nat} (visible : isBreak letter = false)
    (wanted : escapeDigits? letter = some digits) (fits : c.toNat < 16 ^ digits) :
    QuotedUnit true c ('\\' :: letter :: upperHex digits c.toNat) := by
  have table : ∀ value < 16, isBreak (Text.hexDigit value).toUpper = false := by decide
  refine .escape rfl ?_ fun rest => by rw [readEscape?_upperHex wanted fits, length_upperHex]
  rw [List.forall_mem_cons]
  refine ⟨visible, fun d listed => ?_⟩
  obtain ⟨value, bound, rfl⟩ := exists_of_mem_upperHex listed
  exact table value bound

/-- Every character but the space has a text that stands for it between double quotes. -/
theorem quotedUnit_doubleQuotedChar (apart : c ≠ ' ') : QuotedUnit true c (doubleQuotedChar c) := by
  unfold doubleQuotedChar
  split
  case h_15 =>
    split
    · rename_i printed
      refine .plain (isGapChar_of_isPrintable printed ?_ apart) (by assumption) fun _ => by assumption
      simp_all [isBreak]
    · split
      · exact quotedUnit_upperHex rfl rfl (by omega)
      · split
        · exact quotedUnit_upperHex rfl rfl (by omega)
        · refine quotedUnit_upperHex rfl rfl ?_
          rcases c.valid with low | high
          · exact Nat.lt_trans low (by decide)
          · exact Nat.lt_trans high.2 (by decide)
  all_goals exact .escape rfl (by simp [isBreak]) fun rest => rfl

/-- Every text may stand between double quotes. -/
theorem quotedText_doubleQuoted (text : List Char) :
    QuotedText true doubleQuotedChar text (text.flatMap doubleQuotedChar) := by
  have units {word : List Char} (apart : ∀ c ∈ word, isSpace c = false) :
      ∀ c ∈ word, QuotedUnit true c (doubleQuotedChar c) := by
    intro c listed
    exact quotedUnit_doubleQuotedChar (by simpa [isSpace] using apart c listed)
  induction text using Text.words_induction isSpace with
  | word word apart => exact .word (units apart)
  | gap word c more rest apart gaps starts ih =>
    have all : ∀ d ∈ c :: more, d = ' ' := fun d listed => by simpa [isSpace] using gaps d listed
    obtain rfl := all c List.mem_cons_self
    have written : (' ' :: more).flatMap doubleQuotedChar = ' ' :: more := by
      have same : ∀ c ∈ ' ' :: more, doubleQuotedChar c = [c] := by
        intro c listed
        rw [all c listed]
        rfl
      rw [List.flatMap_congr same, List.flatMap_singleton']
    rw [← List.cons_append, List.flatMap_append, List.flatMap_append, written]
    refine .gap (units apart) (.spaces all) ?_ ih
    cases rest with
    | nil => simp
    | cons d rest =>
      rw [List.flatMap_cons]
      exact (quotedUnit_doubleQuotedChar (by simpa [isSpace] using starts d rfl)).apart _

end ClientStub.Yaml
