import ClientStub.Proofs.DocBlock.Parts
import ClientStub.Proofs.DocComment.Frame

/-!
# The layout of a block

Two blocks that differ only by white space at the ends of their lines have the same lines once these are
trimmed, and what is read of a block depends on its trimmed lines alone. This holds of each step of reading:
the trim of the whole block, the two tests for delimiters, and the stars of the lines.
-/

namespace ClientStub.DocBlock

open ClientStub.Text ClientStub.DocComment

theorem reverse_joinLines (ls : List (List Char)) :
    (joinLines ls).reverse = joinLines (ls.map List.reverse).reverse := by
  induction ls with
  | nil => rfl
  | cons line others ih =>
    by_cases last : others = []
    · subst last
      simp [joinLines]
    · rw [joinLines_cons last, List.reverse_append, List.reverse_cons, ih, List.map_cons, List.reverse_cons,
        joinLines_append (by simpa using last) (by simp)]
      simp [joinLines]

theorem splitOn_reverse (text : List Char) :
    text.reverse.splitOn '\n' = ((text.splitOn '\n').map List.reverse).reverse := by
  have source : text.reverse = joinLines ((text.splitOn '\n').map List.reverse).reverse := by
    rw [← reverse_joinLines, joinLines_splitOn]
  rw [source]
  refine splitOn_joinLines ?_ (by simp)
  intro line listed
  obtain ⟨other, inText, rfl⟩ := List.mem_map.1 (List.mem_reverse.1 listed)
  simpa using lineFeed_not_mem_of_mem_splitOn inText

theorem isBlankText_reverse (text : List Char) : isBlankText text.reverse = isBlankText text := by
  rw [isBlankText, List.all_reverse, isBlankText]

theorem bare_reverse_iff {text : List Char} : Bare text.reverse ↔ Bare text := by
  rw [Bare, Bare, List.head?_reverse, List.getLast?_reverse, and_comm]

theorem trim_reverse (text : List Char) : trim text.reverse = (trim text).reverse := by
  obtain ⟨front, behind, blankFront, blankBehind, source⟩ := trim_source text
  conv => lhs; rw [source, List.reverse_append, List.reverse_append, ← List.append_assoc]
  rw [← isBlankText_reverse] at blankFront blankBehind
  exact trim_eq_of_bare blankBehind (bare_reverse_iff.2 (bare_trim text)) blankFront

theorem cleared_reverse (text : List Char) : cleared text.reverse = (cleared text).reverse := by
  unfold cleared
  rw [reverse_joinLines, splitOn_reverse, List.map_reverse, List.map_map, List.map_map]
  congr 2
  exact List.map_congr_left fun line _ => trim_reverse line

section Around

variable {f : List Char → List Char}

/-- A white space character before a text goes with the white space of its first line. -/
theorem map_splitOn_cons_of_blank (trims : ∀ line, f (trim line) = f line) {c : Char}
    (blank : isBlank c = true) (ne : c ≠ '\n') (text : List Char) :
    ((c :: text).splitOn '\n').map f = (text.splitOn '\n').map f := by
  obtain ⟨line, others, split⟩ := List.exists_cons_of_ne_nil (List.splitOn_ne_nil '\n' text)
  rw [List.splitOn_cons_eq_if_modifyHead, if_neg (by simpa using ne), split, List.modifyHead_cons,
    List.map_cons, List.map_cons, ← trims (c :: line), trim_cons_of_blank blank, trims]

theorem trim_joinLines_blank_append (trims : ∀ line, f (trim line) = f line) (empty : f [] = [])
    {front : List Char} (blank : isBlankText front = true) (text : List Char) :
    trim (joinLines (((front ++ text).splitOn '\n').map f)) = trim (joinLines ((text.splitOn '\n').map f)) := by
  induction front with
  | nil => rfl
  | cons c front ih =>
    rw [isBlankText, List.all_cons, Bool.and_eq_true] at blank
    rw [← ih blank.2, List.cons_append]
    by_cases feed : c = '\n'
    · subst feed
      rw [List.splitOn_cons_eq_if_modifyHead, if_pos (by rfl), List.map_cons, empty, joinLines_cons (by simp),
        List.nil_append, trim_cons_of_blank isBlank_lineFeed]
    · rw [map_splitOn_cons_of_blank trims blank.1 feed]

theorem map_splitOn_concat_of_blank (trims : ∀ line, f (trim line) = f line) {c : Char}
    (blank : isBlank c = true) (ne : c ≠ '\n') (text : List Char) :
    ((text ++ [c]).splitOn '\n').map f = (text.splitOn '\n').map f := by
  have ends : f ∘ trimEnd = f := by
    funext line
    obtain ⟨behind, blankBehind, source⟩ := trimEnd_source line
    have same : trim line = trim (trimEnd line) := by
      conv => lhs; rw [source]
      exact trim_append_of_blank blankBehind _
    rw [Function.comp_apply, ← trims, ← same, trims]
  rw [← ends, ← List.map_map, map_trimEnd_splitOn_concat blank ne, List.map_map]

theorem trim_joinLines_append_blank (trims : ∀ line, f (trim line) = f line) (empty : f [] = [])
    {behind : List Char} (blank : isBlankText behind = true) (text : List Char) :
    trim (joinLines (((text ++ behind).splitOn '\n').map f)) = trim (joinLines ((text.splitOn '\n').map f)) := by
  induction behind generalizing text with
  | nil => rw [List.append_nil]
  | cons c behind ih =>
    rw [isBlankText, List.all_cons, Bool.and_eq_true] at blank
    rw [List.append_cons, ih blank.2]
    by_cases feed : c = '\n'
    · subst feed
      rw [List.splitOn_append_cons_self, List.splitOn_nil, List.map_append, List.map_singleton, empty,
        trim_joinLines_concat]
    · rw [map_splitOn_concat_of_blank trims blank.1 feed]

/-- Where every line is trimmed, the trim of the whole text may come before or after. -/
theorem trim_joinLines_map_trim (trims : ∀ line, f (trim line) = f line) (empty : f [] = [])
    (text : List Char) :
    trim (joinLines (((trim text).splitOn '\n').map f)) = trim (joinLines ((text.splitOn '\n').map f)) := by
  obtain ⟨front, behind, blankFront, blankBehind, source⟩ := trim_source text
  conv => rhs; rw [source]
  rw [trim_joinLines_append_blank trims empty blankBehind, trim_joinLines_blank_append trims empty blankFront]

end Around

theorem trim_trim (text : List Char) : trim (trim text) = trim text := (bare_trim text).trim_eq

theorem splitOn_cleared (text : List Char) : (cleared text).splitOn '\n' = (text.splitOn '\n').map trim := by
  refine splitOn_joinLines ?_ (by simp)
  intro line listed
  obtain ⟨source, inText, rfl⟩ := List.mem_map.1 listed
  exact fun feed => lineFeed_not_mem_of_mem_splitOn inText ((isInfix_trim source).subset feed)

theorem cleared_eq_iff {text other : List Char} :
    cleared text = cleared other ↔ (text.splitOn '\n').map trim = (other.splitOn '\n').map trim := by
  constructor
  · intro same
    rw [← splitOn_cleared, same, splitOn_cleared]
  · intro same
    rw [cleared, same, cleared]

theorem cleared_cleared (text : List Char) : cleared (cleared text) = cleared text := by
  rw [cleared_eq_iff, splitOn_cleared, List.map_map]
  exact List.map_congr_left fun line _ => trim_trim line

/-- Lines, each behind a line feed. -/
def feedLines (ls : List (List Char)) : List Char := ls.flatMap ('\n' :: ·)

theorem joinLines_cons_eq_feedLines (line : List Char) (others : List (List Char)) :
    joinLines (line :: others) = line ++ feedLines others := by
  induction others generalizing line with
  | nil => simp [joinLines, feedLines]
  | cons next others ih =>
    rw [joinLines_cons (by simp), ih, feedLines, feedLines, List.flatMap_cons, List.cons_append]

theorem splitOn_feedLines {line : List Char} {others : List (List Char)} (first : '\n' ∉ line)
    (single : ∀ line ∈ others, '\n' ∉ line) : (line ++ feedLines others).splitOn '\n' = line :: others := by
  rw [← joinLines_cons_eq_feedLines]
  exact splitOn_joinLines (List.forall_mem_cons.2 ⟨first, single⟩) (by simp)

theorem isBlank_of_mem_head?_feedLines {behind : List Char} (blank : isBlankText behind = true)
    (ls : List (List Char)) : ∀ c ∈ (behind ++ feedLines ls).head?, isBlank c = true := by
  intro c first
  cases behind with
  | nil =>
    cases ls with
    | nil => simp [feedLines] at first
    | cons line ls =>
      obtain rfl : '\n' = c := by simpa [feedLines] using first
      exact isBlank_lineFeed
  | cons d behind =>
    obtain rfl : d = c := by simpa using first
    exact List.all_eq_true.1 blank d List.mem_cons_self

/-- A text and its trimmed lines begin alike, up to the first white space of a line, and what is put in the
place of this beginning is trimmed with the lines that follow in both of them. -/
theorem exists_common_start {text : List Char} (start : ∀ c ∈ text.head?, isBlank c = false) :
    ∃ common behind after, text = common ++ behind ∧ cleared text = common ++ after ∧
      '\n' ∉ common ∧ (∀ c ∈ behind.head?, isBlank c = true) ∧ (∀ c ∈ after.head?, isBlank c = true) ∧
      ∀ rest, '\n' ∉ rest → cleared (rest ++ behind) = cleared (rest ++ after) := by
  obtain ⟨line, others, split⟩ := List.exists_cons_of_ne_nil (List.splitOn_ne_nil '\n' text)
  have single : ∀ l ∈ line :: others, '\n' ∉ l := fun l listed =>
    lineFeed_not_mem_of_mem_splitOn (split ▸ listed)
  rw [List.forall_mem_cons] at single
  have source : text = line ++ feedLines others := by
    rw [← joinLines_cons_eq_feedLines, ← split, joinLines_splitOn]
  have begun : trimStart line = line := trimStart_eq_self fun c first => start c (by
    rw [source, List.head?_append, Option.mem_def.1 first]
    rfl)
  obtain ⟨gap, blank, ends⟩ := trimEnd_source line
  have same : trim line = trimEnd line := by rw [trim, begun]
  rw [← same] at ends
  have trimmedSingle : ∀ l ∈ others.map trim, '\n' ∉ l := by
    intro l listed
    obtain ⟨other, inOthers, rfl⟩ := List.mem_map.1 listed
    exact fun feed => single.2 other inOthers ((isInfix_trim other).subset feed)
  have gapSingle : '\n' ∉ gap := fun feed => single.1 (by rw [ends]; exact List.mem_append_right _ feed)
  refine ⟨trim line, gap ++ feedLines others, feedLines (others.map trim), ?_, ?_, ?_, ?_, ?_, ?_⟩
  · rw [← List.append_assoc, ← ends, source]
  · rw [cleared, split, List.map_cons, joinLines_cons_eq_feedLines]
  · exact fun feed => single.1 ((isInfix_trim line).subset feed)
  · exact isBlank_of_mem_head?_feedLines blank others
  · exact isBlank_of_mem_head?_feedLines (show isBlankText [] = true from rfl) (others.map trim)
  · intro rest inRest
    have longer : '\n' ∉ rest ++ gap := by simp [inRest, gapSingle]
    rw [cleared_eq_iff, ← List.append_assoc, splitOn_feedLines longer single.2,
      splitOn_feedLines inRest trimmedSingle, List.map_cons, List.map_cons, trim_append_of_blank blank,
      List.map_map]
    congr 1
    exact List.map_congr_left fun l _ => (trim_trim l).symm

/-- Whether a text begins with given characters is decided before a character that is none of them. -/
theorem dropStart?_append_of_stop {start behind : List Char} (stop : ∀ c ∈ behind.head?, c ∉ start)
    (text : List Char) : dropStart? start (text ++ behind) = (dropStart? start text).map (· ++ behind) := by
  induction start generalizing text with
  | nil => simp [dropStart?]
  | cons c start ih =>
    have stops : ∀ d ∈ behind.head?, d ∉ start := fun d first inStart =>
      stop d first (List.mem_cons_of_mem _ inStart)
    cases text with
    | nil =>
      cases behind with
      | nil => simp [dropStart?]
      | cons d behind =>
        have other : c ≠ d := fun same => stop d rfl (same ▸ List.mem_cons_self)
        simp [dropStart?, other]
    | cons d text =>
      have ih := ih stops text
      unfold dropStart? at ih ⊢
      by_cases same : c = d
      · simpa [same] using ih
      · simp [same]

/-- A start without white space is dropped from the first line of a text. -/
theorem map_cleared_dropStart? {start text : List Char} (solid : start.any isBlank = false)
    (begun : ∀ c ∈ text.head?, isBlank c = false) :
    (dropStart? start text).map cleared = (dropStart? start (cleared text)).map cleared := by
  obtain ⟨common, behind, after, source, lines, single, blankBehind, blankAfter, same⟩ :=
    exists_common_start begun
  have stop {rest : List Char} (blank : ∀ c ∈ rest.head?, isBlank c = true) : ∀ c ∈ rest.head?, c ∉ start :=
    fun c first inStart => List.any_eq_false.1 solid c inStart (blank c first)
  rw [lines, source, dropStart?_append_of_stop (stop blankBehind), dropStart?_append_of_stop (stop blankAfter),
    Option.map_map, Option.map_map]
  cases found : dropStart? start common with
  | none => rfl
  | some rest =>
    have inRest : '\n' ∉ rest := fun feed => single (by
      rw [dropStart?_source found]
      exact List.mem_append_right _ feed)
    exact congrArg some (same rest inRest)

/-- An ending without white space is dropped from the last line of a text. -/
theorem map_cleared_dropEnd? {ending text : List Char} (solid : ending.any isBlank = false)
    (ended : ∀ c ∈ text.getLast?, isBlank c = false) :
    (dropEnd? ending text).map cleared = (dropEnd? ending (cleared text)).map cleared := by
  have turned : (dropStart? ending.reverse text.reverse).map cleared =
      (dropStart? ending.reverse (cleared text.reverse)).map cleared :=
    map_cleared_dropStart? (by rwa [List.any_reverse]) (by rwa [List.head?_reverse])
  have outer : cleared ∘ List.reverse = List.reverse ∘ cleared := funext cleared_reverse
  rw [cleared_reverse] at turned
  rw [dropEnd?, dropEnd?, Option.map_map, Option.map_map, outer, ← Option.map_map, turned, Option.map_map]

theorem bare_cleared {text : List Char} (bare : Bare text) : Bare (cleared text) := by
  have start {text : List Char} (begun : ∀ c ∈ text.head?, isBlank c = false) :
      ∀ c ∈ (cleared text).head?, isBlank c = false := by
    obtain ⟨common, behind, after, source, lines, -, blankBehind, blankAfter, same⟩ :=
      exists_common_start begun
    cases common with
    | nil =>
      have empty : text = [] := by
        cases text with
        | nil => rfl
        | cons c rest =>
          rw [List.nil_append] at source
          have blank := blankBehind c (by rw [← source]; rfl)
          exact absurd (begun c rfl) (by simp [blank])
      have nothing : cleared [] = [] := rfl
      rw [empty, nothing]
      rintro c ⟨⟩
    | cons c common =>
      rw [lines]
      rw [source] at begun
      exact begun
  refine ⟨start bare.1, fun c last => ?_⟩
  rw [← List.head?_reverse, ← cleared_reverse] at last
  exact start (by rw [List.head?_reverse]; exact bare.2) c last

theorem cleared_trim (text : List Char) : cleared (trim text) = trim (cleared text) := by
  have same := trim_joinLines_map_trim trim_trim rfl text
  exact (bare_cleared (bare_trim text)).trim_eq.symm.trans same

/-- A trimmed block without its opening delimiter. -/
def withoutOpening (text : List Char) : List Char :=
  ((dropStart? "/**".toList text).orElse fun _ => dropStart? "/*".toList text).getD text

/-- A block without its closing delimiter. -/
def withoutClosing (text : List Char) : List Char := (dropEnd? "*/".toList text).getD text

theorem withoutDelimiters_eq (block : List Char) :
    withoutDelimiters block = withoutClosing (withoutOpening (trim block)) := rfl

theorem cleared_getD (found : Option (List Char)) (text : List Char) :
    cleared (found.getD text) = (found.map cleared).getD (cleared text) := by
  cases found <;> rfl

theorem cleared_withoutOpening {text : List Char} (begun : ∀ c ∈ text.head?, isBlank c = false) :
    cleared (withoutOpening text) = cleared (withoutOpening (cleared text)) := by
  have map_orElse (first second : Option (List Char)) :
      (first.orElse fun _ => second).map cleared = (first.map cleared).orElse fun _ => second.map cleared := by
    cases first <;> rfl
  rw [withoutOpening, withoutOpening, cleared_getD, cleared_getD, map_orElse, map_orElse, cleared_cleared,
    map_cleared_dropStart? (by decide) begun, map_cleared_dropStart? (by decide) begun]

theorem cleared_withoutClosing {text : List Char} (ended : ∀ c ∈ text.getLast?, isBlank c = false) :
    cleared (withoutClosing text) = cleared (withoutClosing (cleared text)) := by
  rw [withoutClosing, withoutClosing, cleared_getD, cleared_getD, cleared_cleared,
    map_cleared_dropEnd? (by decide) ended]

theorem withoutOpening_suffix (text : List Char) : withoutOpening text <:+ text := by
  unfold withoutOpening
  cases long : dropStart? "/**".toList text with
  | some rest => exact ⟨_, (dropStart?_source long).symm⟩
  | none =>
    cases short : dropStart? "/*".toList text with
    | some rest => exact ⟨_, (dropStart?_source short).symm⟩
    | none => exact List.suffix_rfl

theorem getLast?_withoutOpening {text : List Char} (bare : Bare text) :
    ∀ c ∈ (withoutOpening text).getLast?, isBlank c = false := by
  obtain ⟨opening, source⟩ := withoutOpening_suffix text
  intro c last
  refine bare.2 c ?_
  rw [← source, List.getLast?_append, Option.mem_def.1 last]
  rfl

/-- Without their delimiters, blocks with the same trimmed lines still have the same trimmed lines. -/
theorem cleared_withoutDelimiters {block other : List Char} (same : cleared block = cleared other) :
    cleared (withoutDelimiters block) = cleared (withoutDelimiters other) := by
  have trimmed : cleared (trim block) = cleared (trim other) := by
    rw [cleared_trim, cleared_trim, same]
  have opened : cleared (withoutOpening (trim block)) = cleared (withoutOpening (trim other)) := by
    rw [cleared_withoutOpening (bare_trim block).1, cleared_withoutOpening (bare_trim other).1, trimmed]
  rw [withoutDelimiters_eq, withoutDelimiters_eq, cleared_withoutClosing (getLast?_withoutOpening (bare_trim block)),
    cleared_withoutClosing (getLast?_withoutOpening (bare_trim other)), opened]

theorem plainLine_trim (line : List Char) : plainLine (trim line) = plainLine line := by
  rw [plainLine_eq, plainLine_eq, trim_trim]

/-- What is read of a block depends on its trimmed lines alone. -/
theorem plainText_eq_of_cleared {block other : String}
    (same : cleared block.toList = cleared other.toList) : plainText block = plainText other := by
  have plain : plainLine ∘ trim = plainLine := funext plainLine_trim
  have ls := cleared_eq_iff.1 (cleared_withoutDelimiters same)
  rw [plainText_eq_splitOn, plainText_eq_splitOn, ← plain, ← List.map_map, ← List.map_map, ls]

/-- A line with white space put before and behind it. -/
def Padded (line padded : List Char) : Prop :=
  ∃ front behind, isBlankText front = true ∧ isBlankText behind = true ∧ padded = front ++ line ++ behind

/-- A block each of whose lines, as line feeds divide them, has white space put before and behind it. -/
def Relaid (block relaid : String) : Prop :=
  List.Forall₂ Padded (block.toList.splitOn '\n') (relaid.toList.splitOn '\n')

theorem Padded.trim_eq {line padded : List Char} (related : Padded line padded) : trim padded = trim line := by
  obtain ⟨front, behind, blankFront, blankBehind, rfl⟩ := related
  rw [trim_append_of_blank blankBehind, trim_blank_append blankFront]

theorem Relaid.cleared_eq {block relaid : String} (related : Relaid block relaid) :
    cleared relaid.toList = cleared block.toList := by
  have trimmed {ls others : List (List Char)} (pairs : List.Forall₂ Padded ls others) :
      others.map trim = ls.map trim := by
    induction pairs with
    | nil => rfl
    | cons padded _ ih => rw [List.map_cons, List.map_cons, padded.trim_eq, ih]
  exact cleared_eq_iff.2 (trimmed related)

/-- White space at the ends of its lines changes neither the tag map of a block nor the tag that is looked for
without making the map. -/
theorem tags_of_relaid {block relaid : String} (related : Relaid block relaid) :
    tags (some relaid) = tags (some block) ∧ ∀ name, tag? name (some relaid) = tag? name (some block) := by
  have same : plainText relaid = plainText block := plainText_eq_of_cleared related.cleared_eq
  refine ⟨?_, fun name => ?_⟩
  · rw [tags_eq_readText, tags_eq_readText, blockText, blockText, same]
  · rw [tag?, tag?, same]

/-- A block that is indented anew and has carriage returns before its line feeds. -/
theorem tags_of_relaid_of_carriage_returns :
    let block := "/**\n * Text\n* @param int $id\n@api*/"
    let relaid := "\t/**\r\n   * Text \u2003\r\n   * @param int $id\r\n\u3000@api*/ "
    Relaid block relaid ∧ tags (some relaid) = tags (some block) ∧
      tag? "param" (some relaid) = tag? "param" (some block) := by
  intro block relaid
  have parts : block.toList.splitOn '\n' =
      ["/**".toList, " * Text".toList, "* @param int $id".toList, "@api*/".toList] := by decide
  have relaidParts : relaid.toList.splitOn '\n' =
      ["\t/**\r".toList, "   * Text \u2003\r".toList, "   * @param int $id\r".toList, "\u3000@api*/ ".toList] := by
    decide
  have related : Relaid block relaid := by
    rw [Relaid, parts, relaidParts]
    refine .cons ⟨['\t'], ['\r'], ?_, ?_, ?_⟩ (.cons ⟨[' ', ' '], [' ', '\u2003', '\r'], ?_, ?_, ?_⟩
      (.cons ⟨[' ', ' ', ' '], ['\r'], ?_, ?_, ?_⟩ (.cons ⟨['\u3000'], [' '], ?_, ?_, ?_⟩ .nil)))
    all_goals decide
  obtain ⟨same, each⟩ := tags_of_relaid related
  exact ⟨related, same, each "param"⟩

end ClientStub.DocBlock
