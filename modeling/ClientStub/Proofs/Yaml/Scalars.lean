import ClientStub.Proofs.Yaml.Styles
import ClientStub.Yaml.Tokens

/-!
# Tokens of scalars

A scalar at the place of a state is read as one token with its text and its style, whichever style it was
written in.
-/

namespace ClientStub.Yaml

variable {text : String}

/-- What a token may begin with. -/
def opensToken (c : Char) : Bool := !isGapChar c && c ≠ '#' && c ≠ byteOrderMark

/-- Whether a token, or nothing at all, begins a text. -/
def Stands (text : List Char) : Prop := ∀ c ∈ text.head?, opensToken c = true

theorem stands_cons {c : Char} {text : List Char} (opens : opensToken c = true) : Stands (c :: text) := by
  rintro d ⟨⟩
  exact opens

theorem Stands.goesOn {text : List Char} (stands : Stands text) : ∀ c ∈ text.head?, isGapChar c = false := by
  intro c first
  have opens := stands c first
  simp only [opensToken, Bool.and_eq_true, Bool.not_eq_true'] at opens
  exact opens.1.1

theorem Stands.noComment {text : List Char} (stands : Stands text) : text.head? ≠ some '#' := by
  intro first
  exact absurd (stands '#' first) (by decide)

theorem Stands.noMark {text : List Char} (stands : Stands text) : text.head? ≠ some byteOrderMark := by
  intro first
  exact absurd (stands byteOrderMark first) (by decide)

theorem exists_scalarText_eq_cons (margin : Nat) (text : String) :
    ∃ c rest, scalarText margin text = c :: rest ∧ opensToken c = true := by
  rcases styleOf_cases text with style | style | style | style
  · obtain ⟨some_, allowed⟩ := allowsPlain_of_styleOf style
    obtain ⟨printed, -, -, before, plain⟩ := isPlainText_of_allowsPlain some_ allowed
    obtain ⟨c, rest, same⟩ := List.exists_cons_of_ne_nil some_
    rw [same] at plain printed
    refine ⟨c, rest, by rw [scalarText_plain style, same], ?_⟩
    have noMark : c ≠ byteOrderMark := by
      rintro rfl
      exact absurd (printed _ List.mem_cons_self) (by decide)
    have noComment : c ≠ '#' := fun comment => plain.noComment (by rw [List.head?_cons, comment])
    simp [opensToken, plain.starts c rfl, noComment, noMark]
  · exact ⟨'\'', _, scalarText_singleQuoted style, rfl⟩
  · exact ⟨'|', _, scalarText_literal style, rfl⟩
  · exact ⟨'"', _, scalarText_doubleQuoted style, rfl⟩

theorem stands_scalarText (margin : Nat) (text : String) (behind : List Char) :
    Stands (scalarText margin text ++ behind) := by
  obtain ⟨c, rest, same, opens⟩ := exists_scalarText_eq_cons margin text
  rw [same]
  exact stands_cons opens

theorem stands_scalarLine (margin : Nat) (text : String) (rest : List Char) :
    Stands (scalarLine margin text ++ rest) := by
  simp only [scalarLine]
  split
  · exact stands_scalarText margin text rest
  · rw [List.append_assoc]
    exact stands_scalarText margin text _

namespace TokenState

variable {s : TokenState} {rest : List Char}

theorem inFlow_eq_false {key : Option KeyPlace} (block : s.keys = [key]) : s.inFlow = false := by
  simp [inFlow, block]

theorem readToken?_singleQuote (stands : s.at_.rest = '\'' :: rest) : s.readToken? = s.addQuoted? false := by
  simp [readToken?, stands, Cursor.atDocumentMarker]

theorem readToken?_doubleQuote (stands : s.at_.rest = '"' :: rest) : s.readToken? = s.addQuoted? true := by
  simp [readToken?, stands, Cursor.atDocumentMarker]

theorem readToken?_literal (block : s.inFlow = false) (stands : s.at_.rest = '|' :: rest) :
    s.readToken? = s.addBlockScalar? true := by
  simp [readToken?, stands, Cursor.atDocumentMarker, block]

theorem isPrefix_of_isPrefix_append {mark text : List Char} (stop : Char) (rest : List Char) (apart : stop ∉ mark)
    (begins : mark <+: text ++ stop :: rest) : mark <+: text := by
  rcases List.prefix_or_prefix_of_prefix begins (List.prefix_append text (stop :: rest)) with inside | ⟨more, rfl⟩
  · exact inside
  · rw [List.prefix_append_right_inj] at begins
    cases more with
    | nil => simp
    | cons d more =>
      rw [List.cons_prefix_cons] at begins
      exact absurd (by simp [begins.1]) apart

/-- A text that is taken for no document marker is none, whatever ends it. -/
theorem atDocumentMarker_of_hasIndicator {at_ : Cursor} {text : List Char} (free : hasIndicator text = false)
    {stop : Char} (ends : stop ∉ ['-', '.']) (stands : at_.rest = text ++ stop :: rest) :
    at_.atDocumentMarker = false := by
  have noMark : ¬ ['-', '-', '-'] <+: text ∧ ¬ ['.', '.', '.'] <+: text := by
    cases text with
    | nil => simp
    | cons c text =>
      simp only [hasIndicator, Bool.or_eq_false_iff] at free
      simp only [← List.isPrefixOf_iff_prefix, Bool.not_eq_true]
      exact ⟨free.1.1.1, free.1.1.2⟩
  simp only [List.mem_cons, List.not_mem_nil, or_false, not_or] at ends
  rw [Cursor.atDocumentMarker, Bool.and_eq_false_iff]
  refine .inr ?_
  rw [stands]
  split
  · rename_i more same
    refine absurd (isPrefix_of_isPrefix_append stop rest (by simp [ends]) ?_) noMark.1
    exact ⟨more, same.symm⟩
  · rename_i more same
    refine absurd (isPrefix_of_isPrefix_append stop rest (by simp [ends]) ?_) noMark.2
    exact ⟨more, same.symm⟩
  · rfl

theorem readToken?_plain {text : List Char} (some_ : text ≠ []) (allowed : allowsPlain text = true)
    (block : s.inFlow = false) (noMarker : s.at_.atDocumentMarker = false) {behind : List Char}
    (stands : s.at_.rest = text ++ behind) : s.readToken? = s.addPlain? := by
  obtain ⟨-, -, free, before, plain⟩ := isPlainText_of_allowsPlain some_ allowed
  cases text with
  | nil => exact absurd rfl some_
  | cons c text =>
    have noGap : isGapChar c = false := plain.starts c rfl
    simp only [hasIndicator, Bool.or_eq_false_iff, isOpeningIndicator] at free
    have noIndicator := free.1.2.1
    have goesOn :
        ((decide (c = '?') || decide (c = ':') || decide (c = '-')) && endsHere (text ++ behind)) = false := by
      cases text with
      | nil =>
        have never := free.1.2.2
        rw [endsHere, List.head?_nil, Option.all_none, Bool.and_true] at never
        rw [never, Bool.false_and]
      | cons d text => exact free.1.2.2
    simp only [List.contains_eq_mem, List.mem_cons, List.not_mem_nil, or_false, decide_eq_false_iff_not, not_or]
      at noIndicator
    simp only [Bool.and_eq_false_iff, Bool.or_eq_false_iff, decide_eq_false_iff_not] at goesOn
    have noBlank (ends : endsHere (text ++ behind) = false) : (text ++ behind).head?.any isBlankChar = false := by
      cases same : (text ++ behind).head? with
      | none => rfl
      | some d =>
        rw [endsHere, same, Option.all_some, isGapChar, Bool.or_eq_false_iff] at ends
        exact ends.1
    have begins : beginsPlain false c (text ++ behind) = true := by
      rcases goesOn with ⟨⟨notMark, notColon⟩, notDash⟩ | ends
      · simp [beginsPlain, noGap, noIndicator, notMark, notColon, notDash]
      · by_cases special : c = '?' ∨ c = ':' ∨ c = '-'
        · rcases special with rfl | rfl | rfl <;> simp [beginsPlain, ends, noBlank ends, -List.head?_append]
        · rw [not_or, not_or] at special
          simp [beginsPlain, noGap, noIndicator, special]
    rw [readToken?, stands]
    simp only [List.cons_append, noMarker, block, begins, noIndicator]
    rcases goesOn with ⟨⟨notMark, notColon⟩, notDash⟩ | ends
    · simp [notMark, notColon, notDash]
    · simp [ends]

/-- The place of a possible key at a state outside all flow collections. -/
def keyHere (s : TokenState) : KeyPlace :=
  ⟨s.indent = s.at_.column, s.passed + s.held.length, s.at_.index, s.at_.line, s.at_.column⟩

theorem noteKey?_of_block (block : s.keys = [none]) :
    s.noteKey? = some { s with keys := [if s.keyAllowed then some s.keyHere else none] } := by
  obtain ⟨place, indent, outer, keys, keyAllowed, held, passed⟩ := s
  obtain rfl : keys = [none] := block
  cases keyAllowed with
  | false => rfl
  | true => simp [noteKey?, inFlow, dropKey?, keyHere]

section

variable {at_ : Cursor} {columns : Nat}

/-- Spaces before a token are passed over. -/
theorem skipToToken_spaces {inFlow : Bool} (stands : at_.rest = spaces columns ++ rest) (begins : Stands rest)
    (fuel : Nat) (allowed : Bool) :
    skipToToken inFlow (fuel + 1) allowed at_ = (allowed, at_.pass (spaces columns)) := by
  have noMark : at_.next? ≠ some byteOrderMark := by
    rw [Cursor.next?, stands]
    cases columns with
    | zero => exact begins.noMark
    | succ n =>
      rintro ⟨⟩
  have blanks : at_.rest.takeWhile (fun c => c = ' ' || ((inFlow || !allowed) && c = '\t')) = spaces columns := by
    rw [stands, List.takeWhile_append_of_pos (by simp [spaces])]
    cases rest with
    | nil => simp
    | cons c rest =>
      have apart := begins.goesOn c rfl
      simp only [isGapChar, isBlankChar, Bool.or_eq_false_iff, decide_eq_false_iff_not] at apart
      rw [List.takeWhile_cons_of_neg (by simp [apart]), List.append_nil]
  have place := (Cursor.pass_spaces at_ columns).symm
  have behind : (at_.pass (spaces columns)).rest = rest := Cursor.rest_pass stands
  have length : (spaces columns).length = columns := by simp [spaces]
  rw [skipToToken]
  simp only [Cursor.skipWhile]
  rw [if_neg (by simp [noMark]), blanks, length, place, Cursor.skipComment, Cursor.next?, behind,
    if_neg begins.noComment, Cursor.takeBreak?_eq_none]
  rw [behind]
  exact fun c first => isBreak_of_isGapChar (begins.goesOn c first)

/-- A token that stands at the place is found at once. -/
theorem skipToToken_here {inFlow : Bool} (stands : at_.rest = rest) (begins : Stands rest) (fuel : Nat)
    (allowed : Bool) : skipToToken inFlow (fuel + 1) allowed at_ = (allowed, at_) :=
  skipToToken_spaces (show at_.rest = spaces 0 ++ rest from stands) begins fuel allowed

/-- Behind the end of a line a key may begin where the next line stands. -/
theorem skipToToken_line (stands : at_.rest = '\n' :: (spaces columns ++ rest)) (begins : Stands rest) (fuel : Nat)
    (allowed : Bool) : skipToToken false (fuel + 2) allowed at_ = (true, at_.pass ('\n' :: spaces columns)) := by
  have next : at_.next? = some '\n' := by rw [Cursor.next?, stands]; rfl
  have nothing : at_.rest.takeWhile (fun c => c = ' ' || ((false || !allowed) && c = '\t')) = [] := by
    simp [stands]
  have place : at_.advance 0 = at_ := by simp [Cursor.advance]
  have behind : (at_.passChar '\n').rest = spaces columns ++ rest := by
    rw [Cursor.rest_passChar, stands]
    rfl
  rw [skipToToken]
  simp only [Cursor.skipWhile]
  rw [if_neg (by rw [next]; simp [byteOrderMark]), nothing, List.length_nil, place, Cursor.skipComment, next,
    if_neg (by decide), Cursor.takeBreak?_of_isKeptBreak (by decide) stands]
  simp only [Bool.not_false, Bool.or_true]
  rw [skipToToken_spaces behind begins, Cursor.pass_cons]

end

/-- A scalar that begins at a state's place, where a key may begin when the state allows one, is read as a token. -/
def ReadsScalar (s : TokenState) (text : String) (behind : Cursor) (allowed : Bool) : Prop :=
  s.readToken? = some { s with
    at_ := behind, keys := [if s.keyAllowed then some s.keyHere else none], keyAllowed := allowed,
    held := s.held ++ [.scalar text (styleOf text)] }

theorem readsScalar_quoted {double : Bool} {text : String} {written : List Char} {unit : Char → List Char}
    (block : s.keys = [none]) (shown : QuotedText double unit text.toList written)
    (style : styleOf text = if double then .doubleQuoted else .singleQuoted)
    (stands : s.at_.rest = quoteMark double :: (written ++ quoteMark double :: rest))
    (last : double = false → rest.head? ≠ some '\'') :
    s.ReadsScalar text (s.at_.pass (quoteMark double :: (written ++ [quoteMark double]))) false := by
  have read : readQuoted? double (s.at_.rest.length + 1) (s.at_.advance 1) =
      some (text.toList, s.at_.pass (quoteMark double :: (written ++ [quoteMark double]))) := by
    have mark : s.at_.passChar (quoteMark double) = s.at_.advance 1 := by cases double <;> rfl
    have behind : (s.at_.passChar (quoteMark double)).rest = written ++ quoteMark double :: rest := by
      rw [Cursor.rest_passChar, stands]
      rfl
    rw [Cursor.pass_cons, ← readQuoted?_text shown ?_ behind last ?_, mark]
    · rw [mark]
      simp [Cursor.advance]
    · rw [stands]
      simp only [List.length_cons, List.length_append]
      omega
  have dispatch : s.readToken? = s.addQuoted? double := by
    cases double with
    | false => exact readToken?_singleQuote stands
    | true => exact readToken?_doubleQuote stands
  rw [ReadsScalar, dispatch, addQuoted?, addProperty?, noteKey?_of_block block]
  simp only [Option.bind_eq_bind, Option.bind_some, read, Option.map_some, String.ofList_toList, ← style]
  rfl

theorem readsScalar_singleQuoted {text : String} {margin : Nat} (indented : 0 < margin) (block : s.keys = [none])
    (style : styleOf text = .singleQuoted) (stands : s.at_.rest = singleQuoted margin text.toList ++ rest)
    (last : rest.head? ≠ some '\'') : s.ReadsScalar text (s.at_.pass (singleQuoted margin text.toList)) false := by
  obtain ⟨noFeed, allowed⟩ := allowsSingleQuotes_of_styleOf style
  simp only [allowsSingleQuotes, Bool.not_eq_true', Bool.or_eq_false_iff] at allowed
  have printed := isPrintable_of_needsDoubleQuotes allowed.1
  have noEnd := allowed.1
  rw [needsDoubleQuotes, Bool.or_eq_false_iff] at noEnd
  rw [singleQuoted_eq] at stands ⊢
  exact readsScalar_quoted block (quotedText_singleQuotedBody indented printed noFeed noEnd.2 allowed.2) style
    (by simpa [quoteMark] using stands) fun _ => last

theorem readsScalar_doubleQuoted {text : String} (block : s.keys = [none]) (style : styleOf text = .doubleQuoted)
    (stands : s.at_.rest = doubleQuoted text.toList ++ rest) :
    s.ReadsScalar text (s.at_.pass (doubleQuoted text.toList)) false :=
  readsScalar_quoted block (quotedText_doubleQuoted text.toList) style
    (by simpa [quoteMark, doubleQuoted] using stands) (by simp)

/-- A key of one line is read up to its colon. -/
theorem readsScalar_key {key : String} {margin : Nat} (indented : 0 < margin) (block : s.keys = [none])
    (line : isMultiline key.toList = false) (column : s.indent ≤ s.at_.column) (ends : endsHere rest = true)
    (stands : s.at_.rest = scalarText margin key ++ ':' :: rest) :
    s.ReadsScalar key (s.at_.pass (scalarText margin key)) false := by
  rcases styleOf_cases key with style | style | style | style
  · rw [scalarText_plain style] at stands ⊢
    obtain ⟨some_, allowed⟩ := allowsPlain_of_styleOf style
    obtain ⟨-, -, free, -⟩ := isPlainText_of_allowsPlain some_ allowed
    have noMarker := atDocumentMarker_of_hasIndicator free (by decide) stands
    have read : readPlain? false (s.indent + 1) (s.at_.rest.length + 2) .none s.at_ =
        some (⟨key.toList, false⟩, s.at_.pass key.toList) :=
      readPlain?_key some_ allowed noMarker (by omega) ends stands (by rw [stands, List.length_append]; omega)
    rw [ReadsScalar, readToken?_plain some_ allowed (inFlow_eq_false block) noMarker stands, addPlain?,
      noteKey?_of_block block]
    have block' : ({ s with keys := [if s.keyAllowed then some s.keyHere else none] } : TokenState).inFlow = false :=
      inFlow_eq_false rfl
    simp only [Option.bind_eq_bind, Option.bind_some, block', read, String.ofList_toList, style]
    rfl
  · rw [scalarText_singleQuoted style] at stands ⊢
    exact readsScalar_singleQuoted indented block style stands (by simp)
  · have breaks := List.any_eq_false.1 line '\n' (allowsLiteral_of_styleOf style).1
    exact absurd rfl breaks
  · rw [scalarText_doubleQuoted style] at stands ⊢
    exact readsScalar_doubleQuoted block style stands

/-- A scalar at a state's place is read as a token, and the next line begins at `next`. -/
def ReadsLine (s : TokenState) (text : String) (next : Cursor) : Prop :=
  ∃ behind allowed key, (key = none ∨ key = some s.keyHere) ∧
    s.readToken? = some { s with
      at_ := behind, keys := [key], keyAllowed := allowed, held := s.held ++ [.scalar text (styleOf text)] } ∧
    behind.rest.length < s.at_.rest.length ∧ next.rest.length ≤ behind.rest.length ∧
    skipToToken false (behind.rest.length + 1) allowed behind = (true, next)

variable {behind : List Char} {columns outer : Nat}

theorem readsLine_quoted {written : List Char} (some_ : written ≠ [])
    (reads : s.ReadsScalar text (s.at_.pass written) false) (begins : Stands behind)
    (stands : s.at_.rest = written ++ '\n' :: (spaces columns ++ behind)) :
    s.ReadsLine text (s.at_.pass (written ++ '\n' :: spaces columns)) := by
  have rest := Cursor.rest_pass stands
  have length := List.length_pos_iff.2 some_
  have next : (s.at_.pass (written ++ '\n' :: spaces columns)).rest = behind := Cursor.rest_pass (by simp [stands])
  refine ⟨_, _, _, ?_, reads, ?_, ?_, ?_⟩
  · cases s.keyAllowed <;> simp
  · rw [rest, stands, List.length_append, List.length_cons]
    omega
  · rw [next, rest, List.length_cons, List.length_append]
    omega
  · rw [rest, List.length_cons, List.length_append, Cursor.pass_append]
    exact skipToToken_line rest begins _ false

theorem readsLine_plain (block : s.keys = [none]) (inside : s.indent = outer) (column : s.indent < s.at_.column)
    (outside : columns ≤ outer) (begins : Stands behind) (style : styleOf text = .plain)
    (stands : s.at_.rest = text.toList ++ '\n' :: (spaces columns ++ behind)) :
    s.ReadsLine text (s.at_.pass (text.toList ++ '\n' :: spaces columns)) := by
  obtain ⟨some_, allowed⟩ := allowsPlain_of_styleOf style
  have noMarker : s.at_.atDocumentMarker = false := Cursor.atDocumentMarker_eq_false (by omega)
  have next : (s.at_.pass (text.toList ++ '\n' :: spaces columns)).rest = behind := Cursor.rest_pass (by simp [stands])
  have read : readPlain? false (s.indent + 1) (s.at_.rest.length + 2) .none s.at_ =
      some (⟨text.toList, true⟩, s.at_.pass (text.toList ++ '\n' :: spaces columns)) :=
    readPlain?_value some_ allowed noMarker (by omega) (by omega) begins.goesOn stands
      (by rw [stands, List.length_append]; omega)
  have block' : ({ s with keys := [if s.keyAllowed then some s.keyHere else none] } : TokenState).inFlow = false :=
    inFlow_eq_false rfl
  refine ⟨_, true, if s.keyAllowed then some s.keyHere else none, ?_, ?_, ?_, Nat.le_refl _, ?_⟩
  · cases s.keyAllowed <;> simp
  · rw [readToken?_plain some_ allowed (inFlow_eq_false block) noMarker stands, addPlain?, noteKey?_of_block block]
    simp only [Option.bind_eq_bind, Option.bind_some, block', read, String.ofList_toList, style]
    rfl
  · rw [next, stands]
    simp only [List.length_append, List.length_cons]
    omega
  · exact skipToToken_here next begins _ true

theorem readsLine_literal (block : s.keys = [none]) (inside : s.indent = outer) (outside : columns ≤ outer)
    (begins : Stands behind) (style : styleOf text = .literal)
    (stands : s.at_.rest = literal (outer + 2) text.toList ++
      (literalEnd text.toList ++ (spaces columns ++ behind))) :
    s.ReadsLine text (s.at_.pass (literal (outer + 2) text.toList ++ (literalEnd text.toList ++ spaces columns))) := by
  obtain ⟨feed, allowed⟩ := allowsLiteral_of_styleOf style
  simp only [allowsLiteral, Bool.not_eq_true', Bool.or_eq_false_iff] at allowed
  have next : (s.at_.pass (literal (outer + 2) text.toList ++ (literalEnd text.toList ++ spaces columns))).rest =
      behind := Cursor.rest_pass (by simp [stands])
  have dispatch : s.readToken? = s.addBlockScalar? true := readToken?_literal (inFlow_eq_false block) (by
    rw [stands, literal_eq, List.cons_append])
  have noKey : s.dropKey? = some s := by simp [dropKey?, block]
  have bar : s.at_.passChar '|' = s.at_.advance 1 := rfl
  have read : readBlock? true outer (s.at_.advance 1) = some (text.toList,
      s.at_.pass (literal (outer + 2) text.toList ++ (literalEnd text.toList ++ spaces columns))) := by
    rw [← bar, readBlock?_literal (List.ne_nil_of_mem feed) (isPrintable_of_needsDoubleQuotes allowed.1)
      (show columns < outer + 2 by omega) begins.goesOn]
    · simp [literal_eq, Cursor.pass_cons]
    · rw [Cursor.rest_passChar, stands, literal_eq]
      simp
  refine ⟨_, true, none, .inl rfl, ?_, ?_, Nat.le_refl _, skipToToken_here next begins _ true⟩
  · rw [dispatch, addBlockScalar?, noKey]
    simp only [Option.bind_eq_bind, Option.bind_some, inside, read, String.ofList_toList, style, ← block]
    rfl
  · rw [next, stands, literal_eq]
    simp only [List.length_append, List.length_cons]
    omega

/-- A scalar that ends its line is read as a token, whichever style it is written in, up to the next line. -/
theorem readsLine (block : s.keys = [none]) (inside : s.indent = outer) (column : s.indent < s.at_.column)
    (outside : columns ≤ outer) (begins : Stands behind)
    (stands : s.at_.rest = scalarLine (outer + 2) text ++ (spaces columns ++ behind)) :
    s.ReadsLine text (s.at_.pass (scalarLine (outer + 2) text ++ spaces columns)) := by
  rcases styleOf_cases text with style | style | style | style
  · rw [scalarLine_plain style] at stands ⊢
    simpa using readsLine_plain block inside column outside begins style (by simpa using stands)
  · rw [scalarLine_singleQuoted style] at stands ⊢
    have reads := readsScalar_singleQuoted (Nat.succ_pos (outer + 1)) block style
      (by simpa using stands) (by simp)
    simpa using readsLine_quoted (by simp [singleQuoted_eq]) reads begins (by simpa using stands)
  · rw [scalarLine_literal style] at stands ⊢
    simpa using readsLine_literal block inside outside begins style (by simpa using stands)
  · rw [scalarLine_doubleQuoted style] at stands ⊢
    have reads := readsScalar_doubleQuoted block style
      (by simpa using stands)
    simpa using readsLine_quoted (by simp [doubleQuoted]) reads begins (by simpa using stands)

end TokenState

end ClientStub.Yaml
