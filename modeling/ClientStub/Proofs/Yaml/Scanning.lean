import ClientStub.Proofs.Yaml.Scalars

/-!
# Tokens of block mappings

Reading goes from line to line: `Reaches` says which tokens were read, some of them perhaps still held back,
before a place where the next line of a block stands; `Follows` says so of a place behind an indicator. Each
part of an entry leads from one to the other, and so does a whole entry.
-/

namespace ClientStub.Yaml

/-- An entry behind its margin. -/
def entryBody (margin : Nat) (key value : String) : List Char :=
  (if isSimpleKey key then scalarText (margin + 2) key ++ [':', ' ']
    else ['?', ' '] ++ scalarLine (margin + 2) key ++ spaces margin ++ [':', ' ']) ++ scalarLine (margin + 2) value

theorem entryText_eq (margin : Nat) (key value : String) :
    entryText margin key value = spaces margin ++ entryBody margin key value := by
  simp only [entryText, entryBody, List.append_assoc]

theorem stands_entryBody (margin : Nat) (key value : String) (rest : List Char) :
    Stands (entryBody margin key value ++ rest) := by
  unfold entryBody
  split
  · simp only [List.append_assoc]
    exact stands_scalarText _ key _
  · exact stands_cons rfl

/-- The tokens of an entry. -/
def entryTokens (entry : String × String) : List Token :=
  [.key, .scalar entry.1 (styleOf entry.1), .value, .scalar entry.2 (styleOf entry.2)]

namespace TokenState

variable {s s' : TokenState}

/-- Reading goes on from one state to another and lets tokens pass. Every token takes a character. -/
def Runs (s : TokenState) (out : List Token) (s' : TokenState) : Prop :=
  ∃ count, count + s'.at_.rest.length ≤ s.at_.rest.length ∧ ∀ fuel, run (fuel + count) s = out ++ run fuel s'

theorem Runs.refl (s : TokenState) : s.Runs [] s := ⟨0, by omega, fun _ => rfl⟩

theorem Runs.trans {last : TokenState} {out more : List Token} (first : s.Runs out s') (second : s'.Runs more last) :
    s.Runs (out ++ more) last := by
  obtain ⟨m, fits, first⟩ := first
  obtain ⟨n, fits', second⟩ := second
  refine ⟨n + m, by omega, fun fuel => ?_⟩
  rw [← Nat.add_assoc, first, second, List.append_assoc]

/-- One token is read, and those that no possible key holds back pass. -/
theorem runs_step {found fresh : TokenState} (next : s.next? = some found) (dropped : found.dropStaleKeys? = some fresh)
    (open_ : .streamEnd ∉ fresh.release.1) (shorter : fresh.at_.rest.length < s.at_.rest.length) :
    s.Runs fresh.release.1 fresh.release.2 := by
  have same : fresh.release.2.at_ = fresh.at_ := rfl
  refine ⟨1, by rw [same]; omega, fun fuel => ?_⟩
  rw [run, next]
  simp only [dropped]
  rw [if_neg]
  intro last
  exact open_ (List.mem_of_getLast? last)

/-- No key is possible. -/
def NoKey (s : TokenState) : Prop := ∀ key ∈ s.keys, key = none

theorem dropStaleKeys?_of_noKey (free : s.NoKey) : s.dropStaleKeys? = some s := by
  have kept : (s.keys.map fun key => if key.any (fun k => KeyPlace.isStale k s.at_) then none else key) = s.keys :=
    (List.map_congr_left fun key listed => by rw [free key listed]; rfl).trans (List.map_id s.keys)
  simp only [dropStaleKeys?, kept]
  rw [if_neg]
  rw [List.any_eq_true]
  rintro ⟨key, listed, stale⟩
  rw [free key listed] at stale
  cases stale

theorem release_of_noKey (free : s.NoKey) :
    s.release = (s.held, { s with held := [], passed := s.passed + s.held.length }) := by
  have bound (keys : List (Option KeyPlace)) (none_ : ∀ key ∈ keys, key = none) (n : Nat) :
      keys.foldl (fun n key => (key.map fun k => min n (k.number - s.passed)).getD n) n = n := by
    induction keys with
    | nil => rfl
    | cons key keys ih =>
      rw [List.forall_mem_cons] at none_
      rw [List.foldl_cons, none_.1]
      exact ih none_.2
  simp [release, bound s.keys free]

theorem dropStaleKeys?_fresh {key : KeyPlace} (block : s.keys = [some key])
    (fresh : KeyPlace.isStale key s.at_ = false) : s.dropStaleKeys? = some s := by
  simp [dropStaleKeys?, block, fresh]
  rw [← block]

theorem dropStaleKeys?_stale {key : KeyPlace} (block : s.keys = [some key])
    (stale : KeyPlace.isStale key s.at_ = true) (free : key.required = false) :
    s.dropStaleKeys? = some { s with keys := [none] } := by
  simp [dropStaleKeys?, block, stale, free]

/-- A possible key holds its own token back. -/
theorem release_of_key {key : KeyPlace} {front : List Token} {token : Token} (block : s.keys = [some key])
    (held : s.held = front ++ [token]) (number : key.number = s.passed + front.length) :
    s.release = (front, { s with held := [token], passed := s.passed + front.length }) := by
  simp [release, block, held, number]

/-- Where no key is possible, everything that is held back passes. -/
theorem runs_passing {found : TokenState} (next : s.next? = some found) (free : found.NoKey)
    (open_ : .streamEnd ∉ found.held) (shorter : found.at_.rest.length < s.at_.rest.length) :
    s.Runs found.held { found with held := [], passed := found.passed + found.held.length } := by
  have step := runs_step next (dropStaleKeys?_of_noKey free) (by rw [release_of_noKey free]; exact open_) shorter
  rwa [release_of_noKey free] at step

/-- What is held back before a possible key passes. -/
theorem runs_holding {found : TokenState} {key : KeyPlace} {front : List Token} {token : Token}
    (next : s.next? = some found) (block : found.keys = [some key]) (fresh : KeyPlace.isStale key found.at_ = false)
    (held : found.held = front ++ [token]) (number : key.number = found.passed + front.length)
    (open_ : .streamEnd ∉ front) (shorter : found.at_.rest.length < s.at_.rest.length) :
    s.Runs front { found with held := [token], passed := found.passed + front.length } := by
  have release := release_of_key block held number
  have step := runs_step next (dropStaleKeys?_fresh block fresh) (by rw [release]; exact open_) shorter
  rwa [release] at step

theorem closeBlocks_of_le {column : Int} (inside : s.indent ≤ column) : s.closeBlocks column = s := by
  unfold closeBlocks
  split
  · rfl
  · obtain ⟨place, indent, outer, keys, allowed, held, passed⟩ := s
    have stays : ¬ column < indent := by
      simp only at inside
      omega
    cases outer with
    | nil => simp [closedBlocks]
    | cons around outer => simp [closedBlocks, stays]

theorem next?_of_skip {place : Cursor} {allowed inFlow : Bool} (flow : s.inFlow = inFlow)
    (skip : skipToToken inFlow (s.at_.rest.length + 1) s.keyAllowed s.at_ = (allowed, place))
    (dropped : dropStaleKeys? { s with at_ := place, keyAllowed := allowed } = some s') :
    s.next? = (s'.closeBlocks s'.at_.column).readToken? := by
  rw [next?, flow, skip]
  simp only [dropped]
  rfl

variable {start : TokenState} {produced : List Token} {place : Cursor} {indent : Int} {outer : List Int}
  {allowed : Bool} {rest : List Char} {columns : Nat}

/-- The state where a line of a block stands. -/
def atLine (place : Cursor) (indent : Int) (outer : List Int) (held : List Token) (passed : Nat) : TokenState :=
  ⟨place, indent, outer, [none], true, held, passed⟩

/-- Tokens were read up to a place behind one of them, and all of them have passed. -/
def Follows (start : TokenState) (produced : List Token) (place : Cursor) (indent : Int) (outer : List Int)
    (allowed : Bool) : Prop :=
  ∃ passed, start.Runs produced ⟨place, indent, outer, [none], allowed, [], passed⟩

/-- Tokens were read, some of them still held back, before a place where a line stands. -/
def Reaches (start : TokenState) (produced : List Token) (place : Cursor) (indent : Int) (outer : List Int) : Prop :=
  ∃ out s held passed, start.Runs out s ∧ out ++ held = produced ∧ .streamEnd ∉ held ∧
    place.rest.length ≤ s.at_.rest.length ∧
    s.next? = ((atLine place indent outer held passed).closeBlocks place.column).readToken?

/-- Behind the end of a line the next line is reached. -/
theorem Follows.line (follows : Follows start produced place indent outer allowed)
    (stands : place.rest = '\n' :: (spaces columns ++ rest)) (begins : Stands rest) :
    Reaches start produced (place.pass ('\n' :: spaces columns)) indent outer := by
  obtain ⟨passed, runs⟩ := follows
  have behind : (place.pass ('\n' :: spaces columns)).rest = rest := Cursor.rest_pass (by simpa using stands)
  refine ⟨produced, _, [], passed, runs, List.append_nil _, by simp, ?_, ?_⟩
  · rw [behind, stands, List.length_cons, List.length_append]
    omega
  · refine next?_of_skip (inFlow_eq_false rfl) ?_
      (dropStaleKeys?_of_noKey (by simp [NoKey]))
    rw [stands, List.length_cons, List.length_append]
    exact skipToToken_line stands begins _ allowed

/-- A possible key of an earlier line is given up; its token may still be held back. -/
theorem reaches_of_key {key : KeyPlace} (runs : start.Runs produced s) (block : s.keys = [some key])
    (free : key.required = false)
    (skip : skipToToken false (s.at_.rest.length + 1) s.keyAllowed s.at_ = (true, place))
    (later : key.line < place.line) (open_ : .streamEnd ∉ s.held) (fits : place.rest.length ≤ s.at_.rest.length) :
    Reaches start (produced ++ s.held) place s.indent s.outer := by
  refine ⟨produced, s, s.held, s.passed, runs, rfl, open_, fits, ?_⟩
  exact next?_of_skip (inFlow_eq_false block) skip
    (dropStaleKeys?_stale block (by simp [KeyPlace.isStale, later]) free)

theorem reaches_of_noKey (runs : start.Runs produced s) (block : s.keys = [none])
    (skip : skipToToken false (s.at_.rest.length + 1) s.keyAllowed s.at_ = (true, place))
    (open_ : .streamEnd ∉ s.held) (fits : place.rest.length ≤ s.at_.rest.length) :
    Reaches start (produced ++ s.held) place s.indent s.outer := by
  refine ⟨produced, s, s.held, s.passed, runs, rfl, open_, fits, ?_⟩
  refine next?_of_skip (inFlow_eq_false block) skip ?_
  rw [dropStaleKeys?_of_noKey (by simp [NoKey, block]), atLine, block]

/-- A token behind an indicator, read by `readsLine`, is passed or held back when the next line is reached. -/
theorem Follows.token {token : Token} {behind : Cursor} {key : Option KeyPlace} {allowed' : Bool} {passed : Nat}
    (runs : start.Runs produced s) (open_ : token ≠ .streamEnd)
    (next : s.next? = some ⟨behind, indent, outer, [key], allowed', [token], passed⟩)
    (possible : ∀ k ∈ key, k.required = false ∧ k.line < place.line ∧ k.number = passed)
    (shorter : behind.rest.length < s.at_.rest.length) (fits : place.rest.length ≤ behind.rest.length)
    (skip : skipToToken false (behind.rest.length + 1) allowed' behind = (true, place)) :
    Reaches start (produced ++ [token]) place indent outer := by
  have gone (dropped : dropStaleKeys? ⟨behind, indent, outer, [key], allowed', [token], passed⟩ =
      some ⟨behind, indent, outer, [none], allowed', [token], passed⟩) :
      Reaches start (produced ++ [token]) place indent outer := by
    have release := release_of_noKey (s := ⟨behind, indent, outer, [none], allowed', [token], passed⟩) (by simp [NoKey])
    have step := runs_step next dropped (by rw [release]; simpa using open_.symm) shorter
    rw [release] at step
    have reaches := reaches_of_noKey (runs.trans step) rfl skip (by simp) fits
    rwa [List.append_nil] at reaches
  -- A possible key behind a break within its text is given up at once, another one when the next line is reached;
  -- until then it holds its token back.
  cases key with
  | none => exact gone (dropStaleKeys?_of_noKey (by simp [NoKey]))
  | some key =>
    obtain ⟨free, later, number⟩ := possible key rfl
    cases stale : KeyPlace.isStale key behind with
    | true => exact gone (dropStaleKeys?_stale rfl stale free)
    | false =>
      have step := runs_holding next rfl stale (List.nil_append [token]).symm number (by simp) shorter
      have reaches := reaches_of_key (runs.trans step) rfl free skip later (by simpa using open_.symm) fits
      rwa [List.append_nil] at reaches

/-- Behind an indicator a scalar is read up to the next line. -/
theorem Follows.scalar {outer : Nat} {around : List Int} {text : String}
    (follows : Follows start produced place outer around allowed) (inside : outer ≤ place.column)
    (outside : columns ≤ outer) (begins : Stands rest)
    (stands : place.rest = ' ' :: (scalarLine (outer + 2) text ++ (spaces columns ++ rest))) :
    ∃ next, next.rest = rest ∧ next.column = columns ∧
      Reaches start (produced ++ [.scalar text (styleOf text)]) next outer around := by
  obtain ⟨passed, runs⟩ := follows
  obtain ⟨line, c, written, breaks⟩ := exists_scalarLine_eq_concat (outer + 2) text
  have stands' : (place.pass (spaces 1)).rest = scalarLine (outer + 2) text ++ (spaces columns ++ rest) :=
    Cursor.rest_pass stands
  have column : ((place.pass (spaces 1)).pass (scalarLine (outer + 2) text ++ spaces columns)).column = columns := by
    rw [written, List.append_assoc, List.singleton_append]
    exact Cursor.column_pass_spaces _ line breaks columns
  have space : (place.pass (spaces 1)).column = place.column + 1 := rfl
  have sameLine : (place.pass (spaces 1)).line = place.line := rfl
  obtain ⟨behind, allowed', key, keyCase, read, shorter, fits, skip⟩ := readsLine
    (s := ⟨place.pass (spaces 1), outer, around, [none], allowed, [], passed⟩) rfl rfl (by simp only [space]; omega)
    outside begins stands'
  have next : (⟨place, outer, around, [none], allowed, [], passed⟩ : TokenState).next? =
      some ⟨behind, outer, around, [key], allowed', [.scalar text (styleOf text)], passed⟩ := by
    have first : skipToToken false (place.rest.length + 1) allowed place = (allowed, place.pass (spaces 1)) :=
      skipToToken_spaces stands (stands_scalarLine _ text _) _ allowed
    have deeper : outer ≤ (place.pass (spaces 1)).column := by omega
    refine (next?_of_skip (s := ⟨place, outer, around, [none], allowed, [], passed⟩) (inFlow_eq_false rfl) first
      (dropStaleKeys?_of_noKey (by simp [NoKey]))).trans ?_
    rw [closeBlocks_of_le (Int.ofNat_le.2 deeper), read]
    rfl
  refine ⟨_, Cursor.rest_pass (by simpa using stands'), column, Follows.token runs (by simp) next ?_ ?_ fits skip⟩
  · rintro k possible
    rcases keyCase with none_ | here
    · rw [none_] at possible
      cases possible
    · rw [here] at possible
      obtain rfl := Option.some.inj possible
      refine ⟨?_, ?_, rfl⟩
      · simp only [keyHere, space, decide_eq_false_iff_not]
        omega
      · simp only [Cursor.line_pass, written, List.countP_append, List.countP_singleton, breaks, keyHere, if_true]
        omega
  · rw [stands'] at shorter
    rw [stands, List.length_cons]
    omega

/-- The token that opens a block at a column that is deeper than the current block. -/
def opening (indent : Int) (column : Nat) : List Token := if indent < column then [.blockMappingStart] else []

/-- The blocks around one at a column, which is perhaps opened there. -/
def enclosing (indent : Int) (column : Nat) (outer : List Int) : List Int :=
  if indent < column then indent :: outer else outer

@[simp] theorem opening_self (column : Nat) : opening column column = [] := by simp [opening]

@[simp] theorem enclosing_self (column : Nat) (outer : List Int) : enclosing column column outer = outer := by
  simp [enclosing]

theorem openBlock_of_le {column : Nat} (block : s.inFlow = false) (inside : s.indent ≤ column) :
    s.openBlock column none .blockMappingStart = { s with
      indent := column, outer := enclosing s.indent column s.outer, held := s.held ++ opening s.indent column } := by
  unfold openBlock opening enclosing
  rw [block]
  by_cases less : s.indent < column
  · simp [less, put]
  · have same : s.indent = column := by omega
    simp [← same]

/-- A token that is read where a line stands, and lets everything pass. -/
theorem Reaches.token {new : List Token} {place' : Cursor} {indent' : Int} {outer' : List Int}
    (reaches : Reaches start produced place indent outer) (inside : indent ≤ place.column)
    (read : ∀ held passed, (atLine place indent outer held passed).readToken? =
      some ⟨place', indent', outer', [none], allowed, held ++ new, passed⟩)
    (open_ : .streamEnd ∉ new) (shorter : place'.rest.length < place.rest.length) :
    Follows start (produced ++ new) place' indent' outer' allowed := by
  obtain ⟨out, s, held, passed, runs, rfl, openHeld, fits, next⟩ := reaches
  rw [closeBlocks_of_le inside, read] at next
  have step := runs_passing next (by simp [NoKey]) (by simpa using ⟨openHeld, open_⟩)
    (Nat.lt_of_lt_of_le shorter fits)
  rw [List.append_assoc]
  exact ⟨_, runs.trans step⟩

/-- The mark of a key on lines of its own opens a block where it is deeper. -/
theorem Reaches.keyMark (reaches : Reaches start produced place indent outer) (inside : indent ≤ place.column)
    (stands : place.rest = '?' :: rest) (ends : endsHere rest = true) :
    Follows start (produced ++ (opening indent place.column ++ [.key])) (place.pass ['?']) place.column
      (enclosing indent place.column outer) true := by
  refine reaches.token inside (fun held passed => ?_) ?_ ?_
  · have block : (atLine place indent outer held passed).inFlow = false := inFlow_eq_false rfl
    have dispatch : (atLine place indent outer held passed).readToken? =
        (atLine place indent outer held passed).addKey? := by
      have stands : (atLine place indent outer held passed).at_.rest = '?' :: rest := stands
      simp [readToken?, stands, Cursor.atDocumentMarker, ends]
    have opened := openBlock_of_le (s := atLine place indent outer held passed) block inside
    rw [dispatch, addKey?, block]
    simp only [atLine] at opened ⊢
    simp [opened, dropKey?, step, put, inFlow]
    rfl
  · unfold opening
    split <;> simp
  · rw [Cursor.rest_pass stands, stands]
    simp

/-- The mark of a value on lines of its own. -/
theorem Reaches.valueMark (reaches : Reaches start produced place indent outer) (column : indent = place.column)
    (stands : place.rest = ':' :: rest) (ends : endsHere rest = true) :
    Follows start (produced ++ [.value]) (place.pass [':']) indent outer true := by
  refine reaches.token (Int.le_of_eq column) (fun held passed => ?_) (by simp) ?_
  · have dispatch : (atLine place indent outer held passed).readToken? =
        (atLine place indent outer held passed).addValue? := by
      have stands : (atLine place indent outer held passed).at_.rest = ':' :: rest := stands
      simp [readToken?, stands, Cursor.atDocumentMarker, ends]
    rw [dispatch]
    simp [addValue?, atLine, inFlow, openBlock, column, step, put]
    rfl
  · rw [Cursor.rest_pass stands, stands]
    simp

/-- The colon behind a possible key makes it a key, and opens a block where the key is deeper. -/
theorem readToken?_colon {key : KeyPlace} {token : Token} {passed : Nat} (number : key.number = passed)
    (inside : indent ≤ key.column) (stands : place.rest = ':' :: rest) (ends : endsHere rest = true) :
    (⟨place, indent, outer, [some key], allowed, [token], passed⟩ : TokenState).readToken? =
      some ⟨place.pass [':'], key.column, enclosing indent key.column outer, [none], false,
        opening indent key.column ++ [.key, token, .value], passed⟩ := by
  have dispatch : (⟨place, indent, outer, [some key], allowed, [token], passed⟩ : TokenState).readToken? =
      (⟨place, indent, outer, [some key], allowed, [token], passed⟩ : TokenState).addValue? := by
    simp [readToken?, stands, Cursor.atDocumentMarker, ends]
  have colon : place.pass [':'] = place.advance 1 := rfl
  rw [dispatch, colon]
  by_cases less : indent < key.column
  · simp [addValue?, putAt, number, openBlock, inFlow, less, step, put, opening, enclosing]
  · have same : indent = key.column := by omega
    simp [addValue?, putAt, number, openBlock, inFlow, same, step, put]

theorem next?_colon (outer : List Int) (token : Token) {key : KeyPlace} {passed : Nat} (number : key.number = passed)
    (inside : indent ≤ key.column) (later : key.column ≤ place.column) (fresh : KeyPlace.isStale key place = false)
    (stands : place.rest = ':' :: rest) (ends : endsHere rest = true) :
    (⟨place, indent, outer, [some key], false, [token], passed⟩ : TokenState).next? =
      some ⟨place.pass [':'], key.column, enclosing indent key.column outer, [none], false,
        opening indent key.column ++ [.key, token, .value], passed⟩ := by
  have here : skipToToken false (place.rest.length + 1) false place = (false, place) := by
    exact skipToToken_here stands (stands_cons rfl) place.rest.length false
  have deep : indent ≤ place.column := by omega
  rw [next?_of_skip (s := ⟨place, indent, outer, [some key], false, [token], passed⟩) (inFlow_eq_false rfl) here
      (dropStaleKeys?_fresh rfl fresh),
    closeBlocks_of_le deep, readToken?_colon number inside stands ends]

/-- A key that fits before its colon is still possible there. -/
theorem isStale_keyHere (margin : Nat) {key : String} (simple : isSimpleKey key = true) :
    KeyPlace.isStale s.keyHere (s.at_.pass (scalarText margin key)) = false := by
  have length := length_scalarText_le margin simple
  have noBreak : (scalarText margin key).countP isBreak = 0 := by
    rw [isSimpleKey, Bool.and_eq_true, Bool.not_eq_true'] at simple
    rw [List.countP_eq_zero]
    simpa using isBreak_scalarText margin simple.1
  simp only [KeyPlace.isStale, keyHere, Cursor.line_pass, Cursor.index_pass, noBreak]
  simp only [Nat.add_zero, Nat.lt_irrefl, decide_false, Bool.false_or, decide_eq_false_iff_not]
  omega

/-- A key of one line is read with its colon, and opens a block where it is deeper. -/
theorem Reaches.key {margin : Nat} {key : String} (reaches : Reaches start produced place indent outer)
    (inside : indent ≤ place.column) (indented : 0 < margin) (simple : isSimpleKey key = true)
    (stands : place.rest = scalarText margin key ++ ':' :: rest) (ends : endsHere rest = true) :
    Follows start (produced ++ (opening indent place.column ++ [.key, .scalar key (styleOf key), .value]))
      (place.pass (scalarText margin key ++ [':'])) place.column (enclosing indent place.column outer) false := by
  obtain ⟨out, s, held, passed, runs, rfl, openHeld, fits, next⟩ := reaches
  have line : isMultiline key.toList = false := by
    simp only [isSimpleKey, Bool.and_eq_true, Bool.not_eq_true'] at simple
    exact simple.1
  have behind : (place.pass (scalarText margin key)).rest = ':' :: rest := Cursor.rest_pass stands
  have reads := readsScalar_key (s := atLine place indent outer held passed) indented rfl line inside ends stands
  rw [ReadsScalar] at reads
  rw [closeBlocks_of_le inside, reads] at next
  have fresh : KeyPlace.isStale (atLine place indent outer held passed).keyHere (place.pass (scalarText margin key)) =
      false := isStale_keyHere margin simple
  have written : 0 < (scalarText margin key).length := by
    obtain ⟨c, more, same, -⟩ := exists_scalarText_eq_cons margin key
    rw [same]
    exact Nat.succ_pos _
  have shorter : (place.pass (scalarText margin key)).rest.length < s.at_.rest.length := by
    rw [behind]
    rw [stands, List.length_append] at fits
    omega
  -- The key's own token is held back until its colon is read.
  have first := runs_holding next rfl fresh rfl rfl openHeld shorter
  have column : (place.pass (scalarText margin key)).column = place.column + (scalarText margin key).length := by
    rw [Cursor.pass_eq_advance (isBreak_scalarText margin line)]
    rfl
  have colon := next?_colon outer (.scalar key (styleOf key)) rfl inside
    (show place.column ≤ (place.pass (scalarText margin key)).column by omega) fresh behind ends
  have second := runs_passing colon (by simp [NoKey]) (by unfold opening; split <;> simp)
    (by rw [Cursor.rest_pass behind, behind]; exact Nat.lt_succ_self _)
  rw [Cursor.pass_append, List.append_assoc]
  exact ⟨_, runs.trans (first.trans second)⟩

/-- An entry is read, up to the next line, and opens a block where it is deeper. -/
theorem Reaches.entry {key value : String} (reaches : Reaches start produced place indent outer)
    (inside : indent ≤ place.column) (outside : columns ≤ place.column) (begins : Stands rest)
    (stands : place.rest = entryBody place.column key value ++ (spaces columns ++ rest)) :
    ∃ next, next.rest = rest ∧ next.column = columns ∧
      Reaches start (produced ++ opening indent place.column ++ entryTokens (key, value)) next place.column
        (enclosing indent place.column outer) := by
  cases simple : isSimpleKey key with
  | true =>
    have stands : place.rest = scalarText (place.column + 2) key ++
        ':' :: ' ' :: (scalarLine (place.column + 2) value ++ (spaces columns ++ rest)) := by
      simpa [entryBody, simple] using stands
    have follows := reaches.key inside (Nat.succ_pos _) simple stands rfl
    have behind : (place.pass (scalarText (place.column + 2) key ++ [':'])).rest =
        ' ' :: (scalarLine (place.column + 2) value ++ (spaces columns ++ rest)) :=
      Cursor.rest_pass (by simpa using stands)
    have line : ∀ c ∈ scalarText (place.column + 2) key ++ [':'], isBreak c = false := by
      rw [List.forall_mem_append]
      refine ⟨isBreak_scalarText _ ?_, by simp [isBreak]⟩
      rw [isSimpleKey, Bool.and_eq_true, Bool.not_eq_true'] at simple
      exact simple.1
    have deep : place.column ≤ (place.pass (scalarText (place.column + 2) key ++ [':'])).column := by
      rw [Cursor.pass_eq_advance line]
      exact Nat.le_add_right _ _
    obtain ⟨next, nextRest, column, reaches⟩ := follows.scalar deep outside begins behind
    exact ⟨next, nextRest, column, by simpa [entryTokens] using reaches⟩
  | false =>
    have stands : place.rest = '?' :: ' ' :: (scalarLine (place.column + 2) key ++ (spaces place.column ++
        ':' :: ' ' :: (scalarLine (place.column + 2) value ++ (spaces columns ++ rest)))) := by
      simpa [entryBody, simple] using stands
    obtain ⟨colon, rest', column', reaches⟩ := (reaches.keyMark inside stands rfl).scalar (Nat.le_succ _) le_rfl
      (stands_cons (by rfl)) (Cursor.rest_pass stands)
    obtain ⟨next, nextRest, column, reaches⟩ := (reaches.valueMark (by rw [column']) rest' rfl).scalar
      (column' ▸ Nat.le_succ colon.column) outside begins (Cursor.rest_pass rest')
    exact ⟨next, nextRest, column, by simpa [entryTokens] using reaches⟩

/-- The entries of a block are read one after the other, behind the margin of the first. -/
theorem Reaches.entries {first : String × String} {entries : List (String × String)}
    (reaches : Reaches start produced place indent outer) (inside : indent ≤ place.column)
    (outside : columns ≤ place.column) (begins : Stands rest)
    (stands : place.rest = entryBody place.column first.1 first.2 ++
      (entries.flatMap (fun entry => entryText place.column entry.1 entry.2) ++ (spaces columns ++ rest))) :
    ∃ next, next.rest = rest ∧ next.column = columns ∧
      Reaches start (produced ++ opening indent place.column ++ (first :: entries).flatMap entryTokens) next
        place.column (enclosing indent place.column outer) := by
  -- Only the first entry can open the block: behind it the block's column is the margin of the others.
  induction entries generalizing first place produced indent outer with
  | nil => simpa using reaches.entry inside outside begins stands
  | cons second entries ih =>
    rw [List.flatMap_cons, entryText_eq, List.append_assoc, List.append_assoc] at stands
    obtain ⟨line, lineRest, column, reaches⟩ := reaches.entry inside le_rfl (stands_entryBody _ _ _ _) stands
    rw [← column] at reaches lineRest outside ⊢
    obtain ⟨next, nextRest, nextColumn, reaches⟩ := ih reaches (Int.le_refl _) outside lineRest
    rw [opening_self, enclosing_self, List.append_nil] at reaches
    exact ⟨next, nextRest, nextColumn, by simpa [List.append_assoc] using reaches⟩

/-- An empty flow mapping behind a key. -/
theorem Follows.emptyMapping (follows : Follows start produced place indent outer false)
    (inside : indent ≤ place.column) (stands : place.rest = ' ' :: '\x7b' :: '\x7d' :: rest) :
    Follows start (produced ++ [.flowMappingStart, .flowMappingEnd]) (place.pass [' ', '\x7b', '\x7d']) indent outer
      false := by
  obtain ⟨passed, runs⟩ := follows
  have afterSpace : (place.pass (spaces 1)).rest = '\x7b' :: '\x7d' :: rest := Cursor.rest_pass stands
  have afterOpening : (place.pass [' ', '\x7b']).rest = '\x7d' :: rest := Cursor.rest_pass stands
  have afterClosing : (place.pass [' ', '\x7b', '\x7d']).rest = rest := Cursor.rest_pass stands
  have deep : indent ≤ (place.pass (spaces 1)).column := by
    have column : (place.pass (spaces 1)).column = place.column + 1 := rfl
    omega
  have opens : (⟨place, indent, outer, [none], false, [], passed⟩ : TokenState).next? =
      some ⟨place.pass [' ', '\x7b'], indent, outer, [none, none], true, [.flowMappingStart], passed⟩ := by
    rw [next?_of_skip (s := ⟨place, indent, outer, [none], false, [], passed⟩) (inFlow_eq_false rfl)
        (skipToToken_spaces (show place.rest = spaces 1 ++ '\x7b' :: '\x7d' :: rest from stands) (stands_cons rfl) _
          false) (dropStaleKeys?_of_noKey (by simp [NoKey])),
      closeBlocks_of_le deep]
    simp only [readToken?, afterSpace]
    simp [Cursor.atDocumentMarker, afterSpace, openFlow?, noteKey?, step, put]
    rfl
  have closes : (⟨place.pass [' ', '\x7b'], indent, outer, [none, none], true, [], passed + 1⟩ : TokenState).next? =
      some ⟨place.pass [' ', '\x7b', '\x7d'], indent, outer, [none], false, [.flowMappingEnd], passed + 1⟩ := by
    rw [next?_of_skip (s := ⟨place.pass [' ', '\x7b'], indent, outer, [none, none], true, [], passed + 1⟩) rfl
        (skipToToken_here afterOpening (stands_cons rfl) _ true)
        (dropStaleKeys?_of_noKey (by simp [NoKey]))]
    simp only [readToken?, closeBlocks]
    simp [inFlow, afterOpening, Cursor.atDocumentMarker, closeFlow?, dropKey?, step, put]
    rfl
  have first := runs_passing opens (by simp [NoKey]) (by simp) (by rw [afterOpening, stands]; simp)
  have second := runs_passing closes (by simp [NoKey]) (by simp) (by rw [afterClosing, afterOpening]; simp)
  exact ⟨_, runs.trans (first.trans second)⟩

theorem reaches_ofText {text : List Char} (begins : Stands text) :
    Reaches (ofText text) [] (.ofText text) (-1) [] := by
  refine ⟨[], ofText text, [], 0, Runs.refl _, rfl, by simp, le_rfl, ?_⟩
  exact next?_of_skip (s := ofText text) rfl
    (skipToToken_here rfl begins text.length true) (dropStaleKeys?_of_noKey (by simp [NoKey, ofText]))

/-- Blocks that are closed in two steps are closed at once. -/
theorem closedBlocks_closedBlocks {column column' : Int} (deeper : column' ≤ column) (indent : Int)
    (outer : List Int) :
    closedBlocks column' indent outer =
      ((closedBlocks column indent outer).1 ++
        (closedBlocks column' (closedBlocks column indent outer).2.1 (closedBlocks column indent outer).2.2).1,
      (closedBlocks column' (closedBlocks column indent outer).2.1 (closedBlocks column indent outer).2.2).2) := by
  induction outer generalizing indent with
  | nil => rfl
  | cons around outer ih =>
    by_cases less : column < indent
    · have less' : column' < indent := by omega
      simp only [closedBlocks, if_pos less, if_pos less', ih, List.cons_append]
    · simp only [closedBlocks, if_neg less, List.nil_append]

/-- At the end of the text the blocks end, and so do the tokens. -/
theorem Reaches.finish (reaches : Reaches start produced place indent outer) (ended : place.rest = [])
    (column : place.column = 0) :
    run (start.at_.rest.length + 1) start = produced ++ (closedBlocks (-1) indent outer).1 ++ [.streamEnd] := by
  obtain ⟨out, s, held, passed, ⟨count, fits, runs⟩, rfl, -, -, next⟩ := reaches
  have found : ∃ fresh : TokenState, s.next? = some fresh ∧ fresh.NoKey ∧
      fresh.held = held ++ (closedBlocks (-1) indent outer).1 ++ [.streamEnd] := by
    rw [next, closedBlocks_closedBlocks (show (-1 : Int) ≤ 0 by decide)]
    simp [readToken?, closeBlocks, atLine, inFlow, ended, column, endStream?, dropKey?, put, NoKey]
  obtain ⟨fresh, found, free, heldEnd⟩ := found
  obtain ⟨fuel, length⟩ : ∃ fuel, start.at_.rest.length + 1 = fuel + 1 + count :=
    ⟨start.at_.rest.length - count, by omega⟩
  rw [length, runs, run, found]
  simp only [dropStaleKeys?_of_noKey free, release_of_noKey free, heldEnd]
  simp

end TokenState

end ClientStub.Yaml
