import Mathlib.Data.List.Basic
import ClientStub.Proofs.Text.Gaps
import ClientStub.Proofs.Yaml.Cursor
import ClientStub.Yaml.Scalar

/-!
# Literals, read back

A literal is read line by line. The breaks behind its last line are those that its header keeps, and the line
that follows it is indented less.
-/

namespace ClientStub.Yaml

variable {margin columns : Nat} {at_ : Cursor} {behind : List Char}

theorem length_takeWhile_spaces (n : Nat) (rest : List Char) :
    ((spaces n ++ rest).takeWhile (· = ' ')).length = n + (rest.takeWhile (· = ' ')).length := by
  rw [List.takeWhile_append_of_pos (by simp [spaces]), List.length_append]
  simp [spaces]

/-- Empty lines and the margin of the line behind them, which has something else behind the margin. -/
theorem readBlockBreaks?_breaks {breaks : List Char} (kept : ∀ c ∈ breaks, isKeptBreak c = true)
    (start : at_.column = 0) (stands : at_.rest = breaks ++ (spaces columns ++ behind)) (within : columns ≤ margin)
    (ends : columns < margin → ∀ c ∈ behind.head?, isBlankChar c = false)
    (inLine : ∀ c ∈ behind.head?, isBreak c = false) {fuel : Nat} (enough : breaks.length < fuel) (widest : Nat)
    (before : List Char) :
    ∃ wide, readBlockBreaks? (some margin) fuel widest before at_ =
      some (wide, before ++ breaks, at_.pass (breaks ++ spaces columns)) := by
  obtain ⟨fuel, rfl⟩ : ∃ less, fuel = less + 1 := ⟨fuel - 1, by omega⟩
  induction breaks generalizing at_ fuel widest before with
  | nil =>
    rw [List.nil_append] at stands
    have count : min (at_.rest.takeWhile (· = ' ')).length (margin - at_.column) = columns := by
      rw [stands, length_takeWhile_spaces, start]
      rcases Nat.lt_or_ge columns margin with less | most
      · have none_ : behind.takeWhile (· = ' ') = [] := by
          cases behind with
          | nil => rfl
          | cons c behind =>
            have stops := ends less c rfl
            refine List.takeWhile_cons_of_neg ?_
            simp only [isBlankChar, Bool.or_eq_false_iff, decide_eq_false_iff_not] at stops
            simpa using stops.1
        rw [none_]
        simp only [List.length_nil]
        omega
      · omega
    have place := (Cursor.pass_spaces at_ columns).symm
    have rest := Cursor.rest_pass stands
    have column : (at_.pass (spaces columns)).column = columns := by
      rw [← place]
      simp [Cursor.advance, start]
    have noTab : ((some margin).all (fun wanted => decide ((at_.pass (spaces columns)).column < wanted)) &&
        decide ((at_.pass (spaces columns)).next? = some '\t')) = false := by
      rw [Bool.and_eq_false_iff]
      rcases Nat.lt_or_ge columns margin with less | most
      · refine .inr (decide_eq_false fun tab => ?_)
        rw [Cursor.next?, rest] at tab
        exact absurd (ends less _ tab) (by decide)
      · refine .inl ?_
        simp only [Option.all_some, decide_eq_false_iff_not, column]
        omega
    rw [readBlockBreaks?]
    simp only [count, place]
    rw [if_neg (by rw [noTab]; decide), Cursor.takeBreak?_eq_none (by rwa [rest])]
    simp
  | cons c breaks ih =>
    rw [List.forall_mem_cons] at kept
    have breaks' := isBreak_of_isKeptBreak kept.1
    have count : min (at_.rest.takeWhile (· = ' ')).length (margin - at_.column) = 0 := by
      have notSpace : ¬ c = ' ' := by
        rintro rfl
        exact absurd breaks' (by decide)
      rw [stands, List.cons_append, List.takeWhile_cons_of_neg (by simpa using notSpace)]
      exact Nat.zero_min _
    have place : at_.advance 0 = at_ := by simp [Cursor.advance]
    have next : at_.next? ≠ some '\t' := by
      rw [Cursor.next?, stands]
      rintro ⟨⟩
      exact absurd breaks' (by decide)
    have column : (at_.passChar c).column = 0 := by
      rw [Cursor.passChar, if_pos breaks']
    have rest : (at_.passChar c).rest = breaks ++ (spaces columns ++ behind) := by
      rw [Cursor.rest_passChar, stands]
      rfl
    rw [List.length_cons] at enough
    obtain ⟨fuel, rfl⟩ : ∃ less, fuel = less + 1 := ⟨fuel - 1, by omega⟩
    obtain ⟨wide, read⟩ := ih kept.2 column rest (max widest at_.column) (before ++ [c]) fuel (by omega)
    refine ⟨wide, ?_⟩
    rw [readBlockBreaks?]
    simp only [count, place]
    rw [if_neg (by simp [next]), Cursor.takeBreak?_of_isKeptBreak kept.1 stands]
    simp only [read, Cursor.pass_cons, List.cons_append, List.append_assoc, List.nil_append]

/-- What stands for the lines of a literal from the start of one on: the text to the end of the last line, the
break that ends it, and the empty lines behind it. -/
inductive BlockText (margin : Nat) : List Char → List Char → Char → List Char → Prop where
  | last {line : List Char} {ending : Char} {trailing : List Char} (inLine : ∀ c ∈ line, isBreak c = false)
      (kept : ∀ c ∈ ending :: trailing, isKeptBreak c = true) :
      BlockText margin line (line ++ ending :: trailing) ending trailing
  | more {line : List Char} {c : Char} {breaks text written : List Char} {ending : Char} {trailing : List Char}
      (inLine : ∀ c ∈ line, isBreak c = false) (kept : ∀ d ∈ c :: breaks, isKeptBreak d = true)
      (starts : ∀ d ∈ written.head?, isBreak d = false) (rest : BlockText margin text written ending trailing) :
      BlockText margin (line ++ c :: (breaks ++ text)) (line ++ c :: (breaks ++ (spaces margin ++ written)))
        ending trailing

/-- A line, the break that ends it and the empty lines behind it are read before the lines that follow. -/
theorem readBlockLines?_line {line breaks : List Char} {c : Char} (inLine : ∀ c ∈ line, isBreak c = false)
    (kept : ∀ d ∈ c :: breaks, isKeptBreak d = true) (start : at_.column = margin)
    (stands : at_.rest = line ++ c :: (breaks ++ (spaces columns ++ behind))) (within : columns ≤ margin)
    (ends : columns < margin → ∀ c ∈ behind.head?, isBlankChar c = false)
    (goesOn : ∀ c ∈ behind.head?, isBreak c = false) (fuel : Nat) (before : Option BlockLine) (empty : List Char) :
    ∃ line', line'.ending = [c] ∧ readBlockLines? true margin (fuel + 1) before empty at_ =
      (readBlockLines? true margin fuel (some line') breaks
        (at_.pass (line ++ c :: (breaks ++ spaces columns)))).map
          fun (text, last) => ((before.map BlockLine.ending).getD [] ++ empty ++ line ++ text, last) := by
  rw [List.forall_mem_cons] at kept
  have some_ : at_.rest.isEmpty = false := by simp [stands]
  have cut : at_.rest.takeWhile (fun c => !isBreak c) = line := by
    rw [stands, List.takeWhile_append_of_pos (by simpa using inLine),
      List.takeWhile_cons_of_neg (by simp [isBreak_of_isKeptBreak kept.1]), List.append_nil]
  have place : at_.advance line.length = at_.pass line := (Cursor.pass_eq_advance inLine).symm
  have rest := Cursor.rest_pass stands
  have column : ((at_.pass line).passChar c).column = 0 := by
    rw [Cursor.passChar, if_pos (isBreak_of_isKeptBreak kept.1)]
  have rest' : ((at_.pass line).passChar c).rest = breaks ++ (spaces columns ++ behind) := by
    rw [Cursor.rest_passChar, rest]
    rfl
  obtain ⟨wide, read⟩ := readBlockBreaks?_breaks kept.2 column rest' within ends goesOn
    (show breaks.length < ((at_.pass line).passChar c).rest.length + 1 by
      rw [rest', List.length_append]
      omega) 0 []
  refine ⟨⟨at_.next?.any isBlankChar, [c]⟩, rfl, ?_⟩
  rw [readBlockLines?, if_neg (by simp [start, some_])]
  simp only [cut, place, Cursor.takeBreak?_of_isKeptBreak kept.1 rest]
  rw [read]
  simp only [Option.bind_eq_bind, Option.bind_some, Bool.not_true, Bool.false_and, Bool.false_eq_true, if_false,
    List.nil_append, Cursor.pass_append, Cursor.pass_cons]
  cases readBlockLines? true margin fuel (some ⟨at_.next?.any isBlankChar, [c]⟩) breaks
    ((((at_.pass line).passChar c).pass breaks).pass (spaces columns)) <;> rfl

theorem BlockText.some_ {text written trailing : List Char} {ending : Char}
    (shown : BlockText margin text written ending trailing) : written ≠ [] := by
  cases shown <;> simp

theorem column_pass_line (at_ : Cursor) (line : List Char) (columns : Nat) {breaks : List Char} {c : Char}
    (kept : ∀ d ∈ c :: breaks, isKeptBreak d = true) :
    (at_.pass (line ++ c :: (breaks ++ spaces columns))).column = columns := by
  rw [Cursor.pass_append, ← List.cons_append, Cursor.column_pass_breaks (List.cons_ne_nil c breaks) fun d listed =>
    isBreak_of_isKeptBreak (kept d listed)]

theorem readBlockLines?_outside (at_ : Cursor) (outside : at_.column ≠ margin) (fuel : Nat) (before : Option BlockLine)
    (empty : List Char) :
    readBlockLines? true margin (fuel + 1) before empty at_ =
      some ([], (before.map BlockLine.ending).getD [], empty, at_) := by
  rw [readBlockLines?, if_pos (by rw [Bool.or_eq_true, decide_eq_true_eq]; exact .inl outside)]

/-- All lines of a literal are read, up to a line that is indented less. -/
theorem readBlockLines?_text {text written trailing : List Char} {ending : Char}
    (shown : BlockText margin text written ending trailing) (start : at_.column = margin)
    (stands : at_.rest = written ++ (spaces columns ++ behind)) (outside : columns < margin)
    (goesOn : ∀ c ∈ behind.head?, isGapChar c = false) {fuel : Nat} (enough : written.length < fuel)
    (before : Option BlockLine) (empty : List Char) :
    readBlockLines? true margin fuel before empty at_ =
      some ((before.map BlockLine.ending).getD [] ++ empty ++ text, [ending], trailing,
        at_.pass (written ++ spaces columns)) := by
  obtain ⟨fuel, rfl⟩ : ∃ less, fuel = less + 1 := ⟨fuel - 1, by omega⟩
  induction shown generalizing at_ fuel before empty with
  | @last line ending trailing inLine kept =>
    obtain ⟨line', closed, read⟩ := readBlockLines?_line inLine kept start
      (by simpa using stands) (Nat.le_of_lt outside)
      (fun _ c first => isBlankChar_of_isGapChar (goesOn c first))
      (fun c first => isBreak_of_isGapChar (goesOn c first)) fuel before empty
    have column := column_pass_line at_ line columns kept
    rw [List.length_append, List.length_cons] at enough
    obtain ⟨fuel, rfl⟩ : ∃ less, fuel = less + 1 := ⟨fuel - 1, by omega⟩
    rw [read, readBlockLines?_outside _ (by rw [column]; omega)]
    simp [closed]
  | @more line c breaks text written ending trailing inLine kept starts rest ih =>
    have goesOn' : ∀ d ∈ (written ++ (spaces columns ++ behind)).head?, isBreak d = false := by
      rwa [List.head?_append_of_ne_nil _ rest.some_]
    obtain ⟨line', closed, read⟩ := readBlockLines?_line inLine kept start
      (by simpa using stands) (Nat.le_refl margin) (fun less => absurd less (Nat.lt_irrefl margin)) goesOn'
      fuel before empty
    have column := column_pass_line at_ line margin kept
    have behind' := Cursor.rest_pass (show at_.rest = (line ++ c :: (breaks ++ spaces margin)) ++
      (written ++ (spaces columns ++ behind)) by simpa using stands)
    simp only [List.length_append, List.length_cons] at enough
    obtain ⟨fuel, rfl⟩ : ∃ less, fuel = less + 1 := ⟨fuel - 1, by omega⟩
    rw [read, ih column behind' _ _ fuel (by omega)]
    simp [closed, Cursor.pass_append, Cursor.pass_cons]

/-- The indicator of a chomping. -/
def Chomping.mark : Chomping → List Char
  | strip => ['-']
  | clip => []
  | keep => ['+']

/-- What is kept of the break behind the last line and of the empty lines behind that. -/
def Chomping.kept (chomping : Chomping) (ending trailing : List Char) : List Char :=
  (if chomping = .strip then [] else ending) ++ (if chomping = .keep then trailing else [])

/-- Only the end of a text decides what its literal keeps. -/
theorem chompingMark_append {front text : List Char} (some_ : text ≠ [])
    (starts : ∀ c ∈ text.head?, isBreak c = false) : chompingMark (front ++ text) = chompingMark text := by
  unfold chompingMark
  rw [List.reverse_append]
  cases same : text.reverse with
  | nil => exact absurd (List.reverse_eq_nil_iff.1 same) some_
  | cons last before =>
    rw [List.cons_append]
    dsimp only
    split
    · rfl
    · rename_i breaks
      cases before with
      | nil =>
        obtain rfl : text = [last] := by simpa using congrArg List.reverse same
        simp [starts last rfl] at breaks
      | cons d before => rfl

theorem chompingMark_word {word : List Char} (inLine : ∀ c ∈ word, isBreak c = false) :
    chompingMark word = Chomping.mark .strip := by
  unfold chompingMark
  split
  · rfl
  · rename_i last before same
    have listed : last ∈ word := by
      rw [← List.mem_reverse, same]
      exact List.mem_cons_self
    rw [if_pos (by simp [inLine last listed])]
    rfl

theorem chompingMark_breaks {word more : List Char} {c : Char} (some_ : word ≠ [])
    (inLine : ∀ c ∈ word, isBreak c = false) (breaks : ∀ d ∈ c :: more, isBreak d = true) :
    chompingMark (word ++ c :: more) = Chomping.mark (if more = [] then .clip else .keep) := by
  unfold chompingMark
  rcases List.eq_nil_or_concat more with rfl | ⟨more, last, rfl⟩
  · have before : word.getLast?.all isBreak = false := by
      rw [List.getLast?_eq_some_getLast some_]
      exact inLine _ (List.getLast_mem some_)
    have closes := breaks c List.mem_cons_self
    simp [closes, before, Chomping.mark]
  · have closes : isBreak last = true := breaks last (by simp)
    have before : (more.reverse ++ c :: word.reverse).head?.all isBreak = true := by
      rw [Option.all_eq_true]
      intro d first
      refine breaks d ?_
      cases same : more.reverse with
      | nil =>
        rw [same] at first
        obtain rfl : c = d := Option.some.inj first
        exact List.mem_cons_self
      | cons e front =>
        rw [same] at first
        obtain rfl : e = d := Option.some.inj first
        have listed : e ∈ more.reverse := by simp [same]
        simp [List.mem_reverse.1 listed]
    simp only [List.concat_eq_append, List.reverse_append, List.reverse_cons, List.reverse_nil, List.nil_append,
      List.cons_append, List.append_assoc]
    rw [if_neg (by simp [closes]), if_pos before, if_neg (by simp)]
    rfl

theorem chompingMark_of_breaks {text : List Char} (some_ : text ≠ []) (breaks : ∀ d ∈ text, isBreak d = true) :
    chompingMark text = Chomping.mark .keep := by
  unfold chompingMark
  split
  · rename_i same
    exact absurd (List.reverse_eq_nil_iff.1 same) some_
  · rename_i last before same
    have listed {d : Char} (inside : d ∈ last :: before) : isBreak d = true := by
      rw [← same, List.mem_reverse] at inside
      exact breaks d inside
    have all : before.head?.all isBreak = true := by
      rw [Option.all_eq_true]
      exact fun d first => listed (List.mem_cons_of_mem _ (List.mem_of_head? first))
    rw [if_neg (by simp [listed List.mem_cons_self]), if_pos all]
    rfl

/-- The line break that closes a literal whose text has none at its end. -/
def literalEnd (text : List Char) : List Char := if text.getLast?.any isBreak then [] else ['\n']

theorem literalEnd_append (front : List Char) {text : List Char} (some_ : text ≠ []) :
    literalEnd (front ++ text) = literalEnd text := by
  rw [literalEnd, List.getLast?_append_of_ne_nil _ some_]
  rfl

theorem literalEnd_breaks {breaks : List Char} (some_ : breaks ≠ []) (all : ∀ c ∈ breaks, isBreak c = true) :
    literalEnd breaks = [] := by
  rw [literalEnd, if_pos]
  rw [List.getLast?_eq_some_getLast some_]
  exact all _ (List.getLast_mem some_)

/-- Written with a margin and closed, a text is lines of a literal that keeps just what belongs to the text. -/
theorem exists_blockText (margin : Nat) {text : List Char} (some_ : text ≠ [])
    (starts : ∀ c ∈ text.head?, isBreak c = false) (kept : ∀ c ∈ text, isBreak c = true → isKeptBreak c = true) :
    ∃ chomping front ending trailing, chompingMark text = Chomping.mark chomping ∧
      BlockText margin front (withMargin margin (fun c => [c]) false text ++ literalEnd text) ending trailing ∧
        front ++ chomping.kept [ending] trailing = text := by
  induction text using Text.words_induction isBreak with
  | word word inLine =>
    have written : withMargin margin (fun c => [c]) false word = word := by
      have written := withMargin_word margin (fun c => [c]) inLine []
      rwa [List.append_nil, List.flatMap_singleton', withMargin, List.append_nil] at written
    have ending : literalEnd word = ['\n'] := by
      rw [literalEnd, if_neg]
      rw [List.getLast?_eq_some_getLast some_]
      simp [inLine _ (List.getLast_mem some_)]
    refine ⟨.strip, word, '\n', [], chompingMark_word inLine, ?_, by simp [Chomping.kept]⟩
    rw [written, ending]
    exact .last inLine (by simp [isKeptBreak])
  | gap word c more rest inLine breaks goesOn ih =>
    have keeps : ∀ d ∈ c :: more, isKeptBreak d = true := fun d listed => kept d (by grind) (breaks d listed)
    have first : word ≠ [] := by
      rintro rfl
      have line := starts c rfl
      rw [breaks c List.mem_cons_self] at line
      exact absurd line (by decide)
    rw [withMargin_word margin _ inLine, withMargin_breaks breaks, List.flatMap_singleton']
    cases rest with
    | nil =>
      have ending : literalEnd (word ++ c :: more) = [] := by
        rw [literalEnd_append _ (List.cons_ne_nil c more), literalEnd_breaks (List.cons_ne_nil c more) breaks]
      rw [List.append_nil]
      refine ⟨_, word, c, more, chompingMark_breaks first inLine breaks, ?_, ?_⟩
      · rw [ending]
        simpa [withMargin] using BlockText.last inLine keeps
      · cases more <;> simp [Chomping.kept]
    | cons d rest =>
      have line : isBreak d = false := goesOn d rfl
      obtain ⟨chomping, front, ending, trailing, mark, shown, whole⟩ := ih (List.cons_ne_nil d rest) goesOn
        fun e listed => kept e (by simp [List.mem_cons.1 listed])
      have last : literalEnd (word ++ c :: (more ++ d :: rest)) = literalEnd (d :: rest) := by
        rw [← List.cons_append, ← List.append_assoc, literalEnd_append _ (List.cons_ne_nil d rest)]
      refine ⟨chomping, word ++ c :: (more ++ front), ending, trailing, ?_, ?_, ?_⟩
      · rw [← mark, ← List.cons_append, ← List.append_assoc, chompingMark_append (List.cons_ne_nil d rest) goesOn]
      · rw [last, withMargin_line line]
        have starts : ∀ e ∈ (withMargin margin (fun c => [c]) false (d :: rest) ++ literalEnd (d :: rest)).head?,
            isBreak e = false := by
          simp [withMargin, line]
        simpa using BlockText.more inLine keeps starts shown
      · rw [← whole]
        simp

/-- What a literal's header tells of the margin: whether the text itself begins with white space. -/
def marginMark (text : List Char) : List Char := if text.head?.any (fun c => isSpace c || isBreak c) then ['2'] else []

theorem literal_eq (margin : Nat) (text : List Char) :
    literal margin text =
      '|' :: (marginMark text ++ (chompingMark text ++ '\n' :: withMargin margin (fun c => [c]) true text)) := by
  simp [literal, marginMark]

theorem readBlockHeader?_marks {text : List Char} {chomping : Chomping}
    (stands : at_.rest = marginMark text ++ (chomping.mark ++ '\n' :: behind)) :
    readBlockHeader? at_ = some (chomping, if text.head?.any (fun c => isSpace c || isBreak c) then some 2 else none,
      at_.pass (marginMark text ++ chomping.mark)) := by
  unfold marginMark at stands ⊢
  generalize text.head?.any (fun c => isSpace c || isBreak c) = indented at stands ⊢
  have place : at_.pass ((if indented then ['2'] else []) ++ chomping.mark) =
      at_.advance ((if indented then ['2'] else []) ++ chomping.mark).length :=
    Cursor.pass_eq_advance (by cases indented <;> cases chomping <;> simp [Chomping.mark, isBreak])
  unfold readBlockHeader?
  rw [place, stands]
  cases indented <;> cases chomping <;> rfl

theorem finishLine?_lineFeed (stands : at_.rest = '\n' :: behind) : at_.finishLine? = some (at_.pass ['\n']) := by
  have noBlanks : at_.skipWhile isBlankChar = at_ := by
    have nothing : at_.rest.takeWhile isBlankChar = [] := by simp [stands, isBlankChar]
    rw [Cursor.skipWhile, nothing]
    rfl
  have next : at_.next? = some '\n' := by rw [Cursor.next?, stands]; rfl
  have noComment : at_.skipComment = at_ := by
    rw [Cursor.skipComment, next]
    rfl
  simp only [Cursor.finishLine?, noBlanks, noComment, next]
  rw [if_pos (by decide), Cursor.skipBreak, Cursor.takeBreak?_of_isKeptBreak (by decide) stands]
  rfl

/-- Without a mark of its own the margin is counted on the first line. -/
theorem readBlockBreaks?_count {c : Char} (stands : at_.rest = spaces margin ++ c :: behind)
    (start : at_.column = 0) (apart : isGapChar c = false) (fuel : Nat) :
    readBlockBreaks? none (fuel + 1) 0 [] at_ = some (margin, [], at_.pass (spaces margin)) := by
  have none_ : (c :: behind).takeWhile (· = ' ') = [] := by
    refine List.takeWhile_cons_of_neg ?_
    rw [decide_eq_true_eq]
    rintro rfl
    exact absurd apart (by decide)
  have count : (at_.rest.takeWhile (· = ' ')).length = margin := by
    rw [stands, length_takeWhile_spaces, none_]
    rfl
  have place := (Cursor.pass_spaces at_ margin).symm
  have column : (at_.pass (spaces margin)).column = margin := by
    rw [← place]
    simp [Cursor.advance, start]
  have rest := Cursor.rest_pass stands
  have next : (at_.pass (spaces margin)).next? ≠ some '\t' := by
    rw [Cursor.next?, rest]
    rintro ⟨⟩
    exact absurd apart (by decide)
  rw [readBlockBreaks?]
  simp only [count, place]
  rw [if_neg (by simp [next]), Cursor.takeBreak?_eq_none]
  · simp [column]
  · rw [rest]
    rintro d ⟨⟩
    exact isBreak_of_isGapChar apart

/-- The place behind a line feed begins a line. -/
theorem column_pass_lineFeed : (at_.pass ['\n']).column = 0 := rfl

/-- The parts of a literal: its header, the empty lines before its first one, and its lines. -/
theorem readBlock?_of_parts {outer widest : Nat} {chomping : Chomping} {digit : Option Nat}
    {marks body empty text ending trailing : List Char} {first last : Cursor}
    (header : readBlockHeader? at_ = some (chomping, digit, at_.pass marks))
    (stands : at_.rest = marks ++ '\n' :: body)
    (before : readBlockBreaks? (digit.map (outer + ·)) (body.length + 1) 0 [] ((at_.pass marks).pass ['\n']) =
      some (widest, empty, first))
    (indent : (digit.map (outer + ·)).getD (max widest (outer + 1)) = margin)
    (lines : readBlockLines? true margin (first.rest.length + 2) none empty first =
      some (text, ending, trailing, last)) :
    readBlock? true outer at_ = some (text ++ chomping.kept ending trailing, last) := by
  have rest : ((at_.pass marks).pass ['\n']).rest = body := Cursor.rest_pass (Cursor.rest_pass stands)
  have outside : (max (outer : Int) 0).toNat = outer := by omega
  have least : (max ((outer : Int) + 1) 1).toNat = outer + 1 := by omega
  rw [readBlock?, header]
  simp only [Option.bind_eq_bind, Option.bind_some, finishLine?_lineFeed (Cursor.rest_pass stands), outside, least,
    rest, before, indent, lines]
  rw [List.append_assoc]
  rfl

theorem withMargin_empty {breaks : List Char} (all : ∀ d ∈ breaks, isBreak d = true) (rest : List Char) :
    withMargin margin (fun c => [c]) true (breaks ++ rest) =
      breaks ++ withMargin margin (fun c => [c]) true rest := by
  cases breaks with
  | nil => rfl
  | cons c breaks => exact withMargin_breaks all true rest

section

variable {outer : Nat} (outside : columns < outer + 2) (goesOn : ∀ c ∈ behind.head?, isGapChar c = false)

include outside goesOn

/-- A literal of nothing but line breaks. -/
theorem readBlock?_breaks {empty : List Char} (some_ : empty ≠ []) (breaks : ∀ c ∈ empty, isKeptBreak c = true)
    (stands : at_.rest = marginMark empty ++ (chompingMark empty ++ '\n' :: (empty ++ (spaces columns ++ behind)))) :
    readBlock? true outer at_ =
      some (empty, at_.pass (marginMark empty ++ (chompingMark empty ++ '\n' :: (empty ++ spaces columns)))) := by
  have all : ∀ c ∈ empty, isBreak c = true := fun c listed => isBreak_of_isKeptBreak (breaks c listed)
  have indented : empty.head?.any (fun c => isSpace c || isBreak c) = true := by
    obtain ⟨c, more, rfl⟩ := List.exists_cons_of_ne_nil some_
    simp [all c List.mem_cons_self]
  rw [chompingMark_of_breaks some_ all] at stands ⊢
  have header := readBlockHeader?_marks stands
  rw [indented, if_pos rfl] at header
  rw [← List.append_assoc] at stands
  have rest : ((at_.pass (marginMark empty ++ Chomping.keep.mark)).pass ['\n']).rest = _ :=
    Cursor.rest_pass (Cursor.rest_pass stands)
  obtain ⟨widest, before⟩ := readBlockBreaks?_breaks breaks column_pass_lineFeed
    (Cursor.rest_pass (Cursor.rest_pass stands)) (Nat.le_of_lt outside)
    (fun _ c first => isBlankChar_of_isGapChar (goesOn c first))
    (fun c first => isBreak_of_isGapChar (goesOn c first))
    (show empty.length < (empty ++ (spaces columns ++ behind)).length + 1 by rw [List.length_append]; omega) 0 []
  have lines := readBlockLines?_outside
    (((at_.pass (marginMark empty ++ Chomping.keep.mark)).pass ['\n']).pass (empty ++ spaces columns))
    (show _ ≠ outer + 2 by rw [Cursor.column_pass_breaks some_ all]; omega)
  rw [readBlock?_of_parts header stands before rfl (lines _ none empty)]
  simp [Chomping.kept, Cursor.pass_append, Cursor.pass_cons]

/-- A literal with lines that are not empty. Its header tells the margin unless the first line does. -/
theorem readBlock?_lines {marks empty front written trailing : List Char} {chomping : Chomping}
    {digit : Option Nat} {ending c : Char}
    (header : readBlockHeader? at_ = some (chomping, digit, at_.pass marks))
    (breaks : ∀ d ∈ empty, isKeptBreak d = true) (inLine : isBreak c = false)
    (given : digit = some 2 ∨ digit = none ∧ empty = [] ∧ isGapChar c = false)
    (shown : BlockText (outer + 2) front (c :: written) ending trailing)
    (stands : at_.rest = marks ++ '\n' :: (empty ++ (spaces (outer + 2) ++
      (c :: written ++ (spaces columns ++ behind))))) :
    readBlock? true outer at_ =
      some (empty ++ front ++ chomping.kept [ending] trailing,
        at_.pass (marks ++ '\n' :: (empty ++ (spaces (outer + 2) ++ (c :: written ++ spaces columns))))) := by
  have start : ((at_.pass marks).pass ['\n']).rest =
      empty ++ (spaces (outer + 2) ++ (c :: written ++ (spaces columns ++ behind))) :=
    Cursor.rest_pass (Cursor.rest_pass stands)
  have before : ∃ widest, readBlockBreaks? (digit.map (outer + ·))
      ((empty ++ (spaces (outer + 2) ++ (c :: written ++ (spaces columns ++ behind)))).length + 1) 0 []
      ((at_.pass marks).pass ['\n']) =
        some (widest, empty, ((at_.pass marks).pass ['\n']).pass (empty ++ spaces (outer + 2))) ∧
      (digit.map (outer + ·)).getD (max widest (outer + 1)) = outer + 2 := by
    rcases given with rfl | ⟨rfl, rfl, apart⟩
    · have enough : empty.length <
          (empty ++ (spaces (outer + 2) ++ (c :: written ++ (spaces columns ++ behind)))).length + 1 := by
        rw [List.length_append]
        omega
      obtain ⟨widest, before⟩ := readBlockBreaks?_breaks breaks column_pass_lineFeed start
        (Nat.le_refl _) (fun less => absurd less (Nat.lt_irrefl _)) (by rintro d ⟨⟩; exact inLine) enough 0 []
      exact ⟨widest, before, rfl⟩
    · exact ⟨outer + 2, readBlockBreaks?_count start column_pass_lineFeed apart _, by simp⟩
  obtain ⟨widest, before, indent⟩ := before
  have start' : (((at_.pass marks).pass ['\n']).pass (empty ++ spaces (outer + 2))).rest =
      c :: written ++ (spaces columns ++ behind) := Cursor.rest_pass (by rw [start, List.append_assoc])
  have column : (((at_.pass marks).pass ['\n']).pass (empty ++ spaces (outer + 2))).column = outer + 2 := by
    rw [← Cursor.pass_append, List.singleton_append]
    refine Cursor.column_pass_breaks (List.cons_ne_nil _ _) ?_ (outer + 2)
    rw [List.forall_mem_cons]
    exact ⟨rfl, fun d listed => isBreak_of_isKeptBreak (breaks d listed)⟩
  have enough : (c :: written).length <
      (((at_.pass marks).pass ['\n']).pass (empty ++ spaces (outer + 2))).rest.length + 2 := by
    rw [start', List.length_append]
    omega
  rw [readBlock?_of_parts header stands before indent
    (readBlockLines?_text shown column start' outside goesOn enough none empty)]
  simp [Cursor.pass_append, Cursor.pass_cons]

end

/-- A literal inside a block that is indented by two columns less than its text is read up to the next line that
is indented less than the text. -/
theorem readBlock?_literal {outer : Nat} {text : List Char} (some_ : text ≠ [])
    (printed : ∀ c ∈ text, isPrintable c = true) (outside : columns < outer + 2)
    (goesOn : ∀ c ∈ behind.head?, isGapChar c = false)
    (stands : at_.rest = marginMark text ++ (chompingMark text ++ '\n' ::
      (withMargin (outer + 2) (fun c => [c]) true text ++ (literalEnd text ++ (spaces columns ++ behind))))) :
    readBlock? true outer at_ =
      some (text, at_.pass (marginMark text ++ (chompingMark text ++ '\n' ::
        (withMargin (outer + 2) (fun c => [c]) true text ++ (literalEnd text ++ spaces columns))))) := by
  -- The line breaks that the text begins with are empty lines before its first one.
  obtain ⟨empty, lines, rfl, breaks, starts⟩ : ∃ empty lines, text = empty ++ lines ∧
      (∀ c ∈ empty, isBreak c = true) ∧ ∀ c ∈ lines.head?, isBreak c = false := by
    refine ⟨text.takeWhile isBreak, text.dropWhile isBreak, List.takeWhile_append_dropWhile.symm,
      fun c listed => List.mem_takeWhile_imp listed, fun c first => ?_⟩
    have stops := List.head?_dropWhile_not isBreak text
    rw [Option.mem_def] at first
    rw [first] at stops
    simpa using stops
  have kept : ∀ c ∈ empty ++ lines, isBreak c = true → isKeptBreak c = true := fun c listed =>
    isKeptBreak_of_isPrintable (printed c listed)
  have keptEmpty : ∀ c ∈ empty, isKeptBreak c = true := fun c listed => kept c (by simp [listed]) (breaks c listed)
  rw [withMargin_empty breaks] at stands ⊢
  cases lines with
  | nil =>
    rw [List.append_nil] at some_
    simp only [List.append_nil, literalEnd_breaks some_ breaks, withMargin, List.nil_append] at stands ⊢
    exact readBlock?_breaks outside goesOn some_ keptEmpty stands
  | cons c lines =>
    obtain ⟨chomping, front, ending, trailing, mark, shown, whole⟩ := exists_blockText (outer + 2)
      (List.cons_ne_nil c lines) starts fun d listed => kept d (List.mem_append_right _ listed)
    have mark : chompingMark (empty ++ c :: lines) = chomping.mark := by
      rw [chompingMark_append (List.cons_ne_nil c lines) starts, mark]
    have ends := literalEnd_append empty (List.cons_ne_nil c lines)
    have line : isBreak c = false := starts c rfl
    have written : withMargin (outer + 2) (fun c => [c]) false (c :: lines) =
        c :: withMargin (outer + 2) (fun c => [c]) false lines := by
      rw [withMargin, if_neg (by simp [line])]
      rfl
    rw [mark, ends, withMargin_line line, written] at stands ⊢
    rw [written] at shown
    have header := readBlockHeader?_marks stands
    -- Without a mark the text begins with a character that is no white space, so that no line comes before it.
    have given : (if (empty ++ c :: lines).head?.any (fun c => isSpace c || isBreak c) then some 2 else none) = some 2 ∨
        (if (empty ++ c :: lines).head?.any (fun c => isSpace c || isBreak c) then some 2 else none) = none ∧
          empty = [] ∧ isGapChar c = false := by
      split
      · exact .inl rfl
      · rename_i apart
        refine .inr ⟨rfl, ?_⟩
        cases empty with
        | nil =>
          refine ⟨rfl, ?_⟩
          cases gap : isGapChar c with
          | false => rfl
          | true =>
            have space := isSpace_of_isPrintable (printed c (by simp)) gap line
            simp [isSpace, space] at apart
        | cons d empty => simp [breaks d List.mem_cons_self] at apart
    have read := readBlock?_lines outside goesOn header keptEmpty line given shown (by simpa using stands)
    rw [read, ← whole]
    simp

end ClientStub.Yaml
