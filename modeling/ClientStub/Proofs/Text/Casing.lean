import ClientStub.Proofs.Text.Gaps
import ClientStub.Proofs.Text.Pattern
import ClientStub.Proofs.Text.Trim
import ClientStub.Text.Casing
import Mathlib.Data.List.SplitBy

/-!
# Case as a split into words

The words of a name stand between separators, and within what stands between them an upper-case letter behind
a lower-case one or a digit begins a word. The pass that writes snake case keeps two flags instead of the
words; what it writes is the words in lower case, with underscores between them and nowhere else.
-/

namespace ClientStub.Text

/-- The characters that casing keeps: letters and numbers. -/
def isKept (c : Char) : Bool := isUppercase c || isAlphanumeric c

/-- A lower-case letter or an ASCII digit. An upper-case letter behind it begins a word. -/
def closesWord (c : Char) : Bool := isLowercase c || c.isDigit

/-- Whether two letters or numbers that stand side by side belong to one word. -/
def goesOn (before c : Char) : Bool := !(isUppercase c && closesWord before)

/-- The words of a name. Characters that are neither kept nor separate words are as if they were not there. -/
def nameWords (name : List Char) : List (List Char) :=
  ((name.filter fun c => isKept c || isSeparator c).splitOnP isSeparator).flatMap (List.splitBy goesOn)

/-- A word with lower-case forms in the place of its upper-case letters. -/
def lowerWord (word : List Char) : List Char :=
  word.flatMap fun c => if isUppercase c then toLowercase c else [c]

/-- The words in lower case, with a mark between each two. -/
def joinWords (mark : Char) (words : List (List Char)) : List Char := [mark].intercalate (words.map lowerWord)

theorem separator_cases {c : Char} (separates : isSeparator c = true) : c = '-' ∨ c = '_' ∨ c = ' ' := by
  simpa [isSeparator, or_assoc] using separates

theorem isKept_of_isSeparator {c : Char} (separates : isSeparator c = true) : isKept c = false := by
  rcases separator_cases separates with rfl | rfl | rfl
  · decide
  · decide
  · decide

theorem isSeparator_of_isKept {c : Char} (kept : isKept c = true) : isSeparator c = false := by
  refine Bool.eq_false_iff.2 fun separates => ?_
  rw [isKept_of_isSeparator separates] at kept
  cases kept

/-- Separators come before the capital letters, the underscore apart. -/
theorem isSeparator_of_mem_toLowercase {c d : Char} (kept : isKept c = true) (listed : d ∈ toLowercase c) :
    isSeparator d = false := by
  by_cases same : d = c
  · rw [same]
    exact isSeparator_of_isKept kept
  · have high : 'A' ≤ d := (mem_toLowercase listed).resolve_left same
    refine Bool.eq_false_iff.2 fun separates => ?_
    rcases separator_cases separates with rfl | rfl | rfl
    · exact absurd high (by decide)
    · exact same (eq_underscore_of_mem_toLowercase listed).symm
    · exact absurd high (by decide)

theorem isSeparator_of_mem_lowerWord {word : List Char} (kept : ∀ c ∈ word, isKept c = true) :
    ∀ d ∈ lowerWord word, isSeparator d = false := by
  intro d listed
  obtain ⟨c, inWord, form⟩ := List.mem_flatMap.1 listed
  split at form
  · exact isSeparator_of_mem_toLowercase (kept c inWord) form
  · rw [List.mem_singleton.1 form]
    exact isSeparator_of_isKept (kept c inWord)

theorem lowerWord_cons (c : Char) (word : List Char) : lowerWord (c :: word) = lowerWord [c] ++ lowerWord word := by
  simp [lowerWord]

theorem lowerWord_ne_nil {word : List Char} (filled : word ≠ []) : lowerWord word ≠ [] := by
  obtain ⟨c, word, rfl⟩ := List.exists_cons_of_ne_nil filled
  rw [lowerWord_cons]
  refine List.append_ne_nil_of_left_ne_nil ?_ _
  rw [lowerWord, List.flatMap_singleton]
  split
  · exact toLowercase_ne_nil c
  · exact List.cons_ne_nil _ _

theorem nameWords_filter (name : List Char) :
    nameWords (name.filter fun c => isKept c || isSeparator c) = nameWords name := by
  simp only [nameWords, List.filter_filter, Bool.and_self]

/-- What stands between separators is cut into words by itself. -/
theorem nameWords_of_kept {piece : List Char} (kept : ∀ c ∈ piece, isKept c = true) :
    nameWords piece = piece.splitBy goesOn := by
  have all : piece.filter (fun c => isKept c || isSeparator c) = piece :=
    List.filter_eq_self.2 fun c listed => by rw [kept c listed, Bool.true_or]
  rw [nameWords, all, List.splitOnP_eq_singleton fun c listed => isSeparator_of_isKept (kept c listed)]
  simp

theorem nameWords_append_separator {piece : List Char} (kept : ∀ c ∈ piece, isKept c = true) {c : Char}
    (separates : isSeparator c = true) (rest : List Char) :
    nameWords (piece ++ c :: rest) = nameWords piece ++ nameWords rest := by
  have all : piece.filter (fun c => isKept c || isSeparator c) = piece :=
    List.filter_eq_self.2 fun c listed => by rw [kept c listed, Bool.true_or]
  have clear : ∀ c ∈ piece, isSeparator c = false := fun c listed => isSeparator_of_isKept (kept c listed)
  rw [nameWords_of_kept kept, nameWords, List.filter_append, all,
    List.filter_cons_of_pos (by rw [separates, Bool.or_true]),
    List.splitOnP_append_cons_of_forall_mem clear c separates, List.flatMap_cons]
  rfl

theorem nameWords_separator {c : Char} (separates : isSeparator c = true) (rest : List Char) :
    nameWords (c :: rest) = nameWords rest := by
  have vacuous : ∀ d ∈ ([] : List Char), isKept d = true := List.forall_mem_nil _
  exact nameWords_append_separator vacuous separates rest

/-- No character that is kept is lost, and none is kept twice. -/
theorem flatten_nameWords (name : List Char) : (nameWords name).flatten = name.filter isKept := by
  have pieces (text : List Char) : (text.splitOnP isSeparator).flatten = text.filter fun c => !isSeparator c := by
    induction text with
    | nil => rfl
    | cons c rest ih =>
      rw [List.splitOnP_cons_eq_if_modifyHead]
      split
      · rename_i separates
        rw [List.flatten_cons, List.nil_append, ih, List.filter_cons_of_neg (by simp [separates])]
      · rename_i inPiece
        obtain ⟨first, others, split⟩ := List.exists_cons_of_ne_nil (List.splitOnP_ne_nil isSeparator rest)
        rw [split, List.flatten_cons] at ih
        rw [split, List.modifyHead_cons, List.flatten_cons, List.cons_append, ih,
          List.filter_cons_of_pos (by simp [inPiece])]
  have parts (texts : List (List Char)) : (texts.flatMap (List.splitBy goesOn)).flatten = texts.flatten := by
    induction texts with
    | nil => rfl
    | cons text texts ih => rw [List.flatMap_cons, List.flatten_append, List.flatten_splitBy, ih, List.flatten_cons]
  have only (c : Char) : ((!isSeparator c) && (isKept c || isSeparator c)) = isKept c := by
    cases kept : isKept c with
    | true => simp [isSeparator_of_isKept kept]
    | false => simp
  rw [nameWords, parts, pieces, List.filter_filter]
  simp only [only]

theorem isKept_of_mem_nameWords {name word : List Char} (listed : word ∈ nameWords name) :
    ∀ c ∈ word, isKept c = true := by
  intro c inWord
  have inName : c ∈ (nameWords name).flatten := List.mem_flatten_of_mem listed inWord
  rw [flatten_nameWords] at inName
  exact (List.mem_filter.1 inName).2

theorem ne_nil_of_mem_nameWords {name word : List Char} (listed : word ∈ nameWords name) : word ≠ [] := by
  obtain ⟨piece, -, inPiece⟩ := List.mem_flatMap.1 listed
  exact List.ne_nil_of_mem_splitBy inPiece

theorem snakeFrom_filter (closed afterLower : Bool) (name : List Char) :
    snakeFrom closed afterLower (name.filter fun c => isKept c || isSeparator c) =
      snakeFrom closed afterLower name := by
  induction name generalizing closed afterLower with
  | nil => rfl
  | cons c rest ih =>
    by_cases upper : isUppercase c = true
    · rw [List.filter_cons_of_pos (by simp [isKept, upper]), snakeFrom, snakeFrom, if_pos upper, if_pos upper, ih]
    by_cases letter : isAlphanumeric c = true
    · rw [List.filter_cons_of_pos (by simp [isKept, letter]), snakeFrom, snakeFrom, if_neg upper, if_neg upper,
        if_pos letter, if_pos letter, ih]
    by_cases separates : isSeparator c = true
    · rw [List.filter_cons_of_pos (by simp [separates]), snakeFrom, snakeFrom, if_neg upper, if_neg upper,
        if_neg letter, if_neg letter, if_pos separates, if_pos separates, ih]
    · rw [List.filter_cons_of_neg (by simp [isKept, upper, letter, separates]), ih, snakeFrom, if_neg upper,
        if_neg letter, if_neg separates]

/-- A letter or a number is written in lower case, behind an underscore if it begins a word. -/
theorem snakeFrom_of_isKept {c : Char} (kept : isKept c = true) (closed afterLower : Bool) (rest : List Char) :
    snakeFrom closed afterLower (c :: rest) =
      (if isUppercase c && afterLower then ['_'] else []) ++ lowerWord [c] ++
        snakeFrom false (closesWord c) rest := by
  rw [snakeFrom, lowerWord, List.flatMap_singleton, closesWord]
  by_cases upper : isUppercase c = true
  · rw [if_pos upper, if_pos upper, isLowercase_of_isUppercase upper, isDigit_of_isUppercase upper]
    simp [upper]
  · have letter : isAlphanumeric c = true := by simpa [isKept, upper] using kept
    rw [if_neg upper, if_pos letter, if_neg upper]
    simp [upper]

theorem snakeFrom_of_isSeparator {c : Char} (separates : isSeparator c = true) (closed afterLower : Bool)
    (rest : List Char) :
    snakeFrom closed afterLower (c :: rest) = (if closed then [] else ['_']) ++ snakeFrom true false rest := by
  have kept := isKept_of_isSeparator separates
  rw [isKept, Bool.or_eq_false_iff] at kept
  rw [snakeFrom, if_neg (by simp [kept.1]), if_neg (by simp [kept.2]), if_pos separates]

section

variable {mark : Char} {parts : List (List Char)}

/-- The ends of joined parts are ends of parts. -/
theorem ends_intercalate (nonempty : parts ≠ []) (clear : ∀ part ∈ parts, part ≠ [] ∧ mark ∉ part) :
    (∃ c ∈ ([mark].intercalate parts).head?, c ≠ mark) ∧ ∃ c ∈ ([mark].intercalate parts).getLast?, c ≠ mark := by
  have differs {part : List Char} (absent : mark ∉ part) : ∀ c ∈ part, c ≠ mark :=
    fun c listed same => absent (same ▸ listed)
  induction parts, nonempty using List.recNeNil with
  | singleton part =>
    obtain ⟨filled, absent⟩ := clear part List.mem_cons_self
    rw [List.intercalate_singleton]
    exact ⟨⟨_, List.head?_eq_some_head filled, differs absent _ (List.head_mem filled)⟩,
      ⟨_, List.getLast?_eq_some_getLast filled, differs absent _ (List.getLast_mem filled)⟩⟩
  | cons part others nonempty ih =>
    obtain ⟨⟨filled, absent⟩, clear⟩ := List.forall_mem_cons.1 clear
    obtain ⟨-, c, last, other⟩ := ih clear
    rw [List.intercalate_cons_of_ne_nil nonempty, List.append_assoc, List.head?_append, List.getLast?_append,
      List.getLast?_append, last, List.head?_eq_some_head filled]
    exact ⟨⟨_, rfl, differs absent _ (List.head_mem filled)⟩, ⟨c, rfl, other⟩⟩

theorem isChain_intercalate (clear : ∀ part ∈ parts, part ≠ [] ∧ mark ∉ part) :
    ([mark].intercalate parts).IsChain fun a b => a ≠ mark ∨ b ≠ mark := by
  have inPart {part : List Char} (absent : mark ∉ part) : part.IsChain fun a b => a ≠ mark ∨ b ≠ mark := by
    have each : ∀ a ∈ part, ∀ b ∈ part, a ≠ mark ∨ b ≠ mark :=
      fun a listed _ _ => .inl fun same => absent (same ▸ listed)
    exact (List.pairwise_of_forall_mem_list each).isChain
  induction parts with
  | nil => exact List.isChain_nil
  | cons part others ih =>
    obtain ⟨⟨filled, absent⟩, clear⟩ := List.forall_mem_cons.1 clear
    by_cases last : others = []
    · rw [last, List.intercalate_singleton]
      exact inPart absent
    · obtain ⟨⟨c, first, other⟩, -⟩ := ends_intercalate last clear
      rw [List.intercalate_cons_of_ne_nil last, List.append_assoc, List.isChain_append, List.singleton_append,
        List.isChain_cons]
      refine ⟨inPart absent, ⟨fun d begins => .inr ?_, ih clear⟩, fun d ends _ _ => .inl fun same => ?_⟩
      · rw [Option.mem_def] at first begins
        rw [first] at begins
        exact Option.some.inj begins ▸ other
      · exact absent (same ▸ List.mem_of_getLast? ends)

theorem lacks_intercalate (clear : ∀ part ∈ parts, part ≠ [] ∧ mark ∉ part) :
    Lacks [mark, mark] ([mark].intercalate parts) := by
  rintro ⟨front, behind, source⟩
  have chain := isChain_intercalate clear
  rw [← source] at chain
  have pair := chain.left_of_append.right_of_append
  rw [List.isChain_pair] at pair
  exact pair.elim (absurd rfl) (absurd rfl)

theorem filter_ne_intercalate (absent : ∀ part ∈ parts, mark ∉ part) :
    ([mark].intercalate parts).filter (· ≠ mark) = parts.flatten := by
  have all {part : List Char} (absent : mark ∉ part) : part.filter (· ≠ mark) = part :=
    List.filter_eq_self.2 fun c listed => decide_eq_true fun same => absent (same ▸ listed)
  induction parts with
  | nil => rfl
  | cons part others ih =>
    rw [List.forall_mem_cons] at absent
    by_cases last : others = []
    · rw [last, List.intercalate_singleton, all absent.1]
      simp
    · rw [List.intercalate_cons_of_ne_nil last, List.filter_append, List.filter_append, all absent.1, ih absent.2,
        List.filter_cons_of_neg (by simp), List.filter_nil, List.append_nil, List.flatten_cons]

/-- Another mark in the place of every mark. -/
theorem map_intercalate (other : Char) (absent : ∀ part ∈ parts, mark ∉ part) :
    ([mark].intercalate parts).map (fun c => if c = mark then other else c) = [other].intercalate parts := by
  have kept {part : List Char} (absent : mark ∉ part) :
      part.map (fun c => if c = mark then other else c) = part := by
    have each : ∀ c ∈ part, (if c = mark then other else c) = id c :=
      fun c listed => if_neg fun same : c = mark => absent (same ▸ listed)
    exact (List.map_congr_left each).trans (List.map_id part)
  induction parts with
  | nil => rfl
  | cons part others ih =>
    rw [List.forall_mem_cons] at absent
    by_cases last : others = []
    · rw [last, List.intercalate_singleton, List.intercalate_singleton, kept absent.1]
    · rw [List.intercalate_cons_of_ne_nil last, List.intercalate_cons_of_ne_nil last, List.map_append,
        List.map_append, kept absent.1, ih absent.2, List.map_singleton, if_pos rfl]

end

theorem joinWords_cons {mark : Char} {others : List (List Char)} (filled : others ≠ []) (word : List Char) :
    joinWords mark (word :: others) = lowerWord word ++ mark :: joinWords mark others := by
  rw [joinWords, List.map_cons, List.intercalate_cons_of_ne_nil (by simpa using filled), List.append_assoc,
    List.singleton_append]
  rfl

theorem joinWords_append {mark : Char} {front behind : List (List Char)} (someFront : front ≠ [])
    (filled : behind ≠ []) :
    joinWords mark (front ++ behind) = joinWords mark front ++ mark :: joinWords mark behind := by
  induction front, someFront using List.recNeNil with
  | singleton word =>
    have single : joinWords mark [word] = lowerWord word := List.intercalate_singleton
    rw [List.singleton_append, joinWords_cons filled, single]
  | cons word front someFront ih =>
    rw [List.cons_append, joinWords_cons (by simp [filled]), ih, joinWords_cons someFront]
    simp

/-- A letter before the first word. -/
theorem joinWords_modifyHead {mark : Char} {words : List (List Char)} (filled : words ≠ []) (c : Char) :
    joinWords mark (words.modifyHead (c :: ·)) = lowerWord [c] ++ joinWords mark words := by
  obtain ⟨word, others, rfl⟩ := List.exists_cons_of_ne_nil filled
  rw [List.modifyHead_cons]
  by_cases last : others = []
  · rw [last, joinWords, joinWords, List.map_singleton, List.map_singleton, List.intercalate_singleton,
      List.intercalate_singleton, lowerWord_cons]
  · rw [joinWords_cons last, joinWords_cons last, lowerWord_cons, List.append_assoc]

/-- Words in lower case are joined by marks that are no part of them. -/
theorem clear_map_lowerWord {mark : Char} (separates : isSeparator mark = true) (name : List Char) :
    ∀ part ∈ (nameWords name).map lowerWord, part ≠ [] ∧ mark ∉ part := by
  rw [List.forall_mem_map]
  intro word listed
  refine ⟨lowerWord_ne_nil (ne_nil_of_mem_nameWords listed), fun inWord => ?_⟩
  have apart := isSeparator_of_mem_lowerWord (isKept_of_mem_nameWords listed) mark inWord
  rw [separates] at apart
  cases apart

/-- Two letters of one word stay together. -/
theorem splitBy_cons_of_goesOn {c d : Char} (same : goesOn c d = true) (text : List Char) :
    (c :: d :: text).splitBy goesOn = ((d :: text).splitBy goesOn).modifyHead (c :: ·) := by
  obtain ⟨word, others, split⟩ := List.exists_cons_of_ne_nil
    (List.splitBy_ne_nil (r := goesOn).2 (List.cons_ne_nil d text))
  obtain ⟨source, filled, whole, apart⟩ := List.splitBy_eq_iff.1 split
  rw [List.mem_cons, not_or] at filled
  rw [List.forall_mem_cons] at whole
  -- The first word begins with the second letter.
  obtain ⟨e, more, rfl⟩ := List.exists_cons_of_ne_nil (Ne.symm filled.1)
  obtain rfl : d = e := (List.cons.inj source).1
  rw [split, List.modifyHead_cons, List.splitBy_eq_iff]
  refine ⟨by rw [source]; rfl, by simp [filled.2], ?_, ?_⟩
  · rw [List.forall_mem_cons]
    exact ⟨List.isChain_cons_cons.2 ⟨same, whole.1⟩, whole.2⟩
  · cases others with
    | nil => exact List.isChain_singleton _
    | cons next others =>
      obtain ⟨⟨_, nonempty, differs⟩, rest⟩ := List.isChain_cons_cons.1 apart
      exact List.isChain_cons_cons.2 ⟨⟨List.cons_ne_nil _ _, nonempty, by rwa [List.getLast_cons]⟩, rest⟩

theorem snakeFrom_behind_piece {rest : List Char} (stands : ∀ d ∈ rest.head?, isSeparator d = true)
    (afterLower : Bool) : snakeFrom false afterLower rest = snakeFrom false false rest := by
  cases rest with
  | nil => rfl
  | cons d rest =>
    have separates := stands d rfl
    rw [snakeFrom_of_isSeparator separates, snakeFrom_of_isSeparator separates]

/-- A letter or a number and those behind it, up to a separator or the end. -/
theorem snakeFrom_piece {c : Char} {piece rest : List Char} (kept : ∀ d ∈ c :: piece, isKept d = true)
    (stands : ∀ d ∈ rest.head?, isSeparator d = true) :
    lowerWord [c] ++ snakeFrom false (closesWord c) (piece ++ rest) =
      joinWords '_' ((c :: piece).splitBy goesOn) ++ snakeFrom false false rest := by
  induction piece generalizing c with
  | nil =>
    have single : [c].splitBy goesOn = [[c]] := rfl
    rw [List.nil_append, snakeFrom_behind_piece stands, single, joinWords, List.map_singleton,
      List.intercalate_singleton]
  | cons d piece ih =>
    obtain ⟨keptFirst, kept⟩ := List.forall_mem_cons.1 kept
    have filled : (d :: piece).splitBy goesOn ≠ [] := List.splitBy_ne_nil.2 (List.cons_ne_nil d piece)
    rw [List.cons_append, snakeFrom_of_isKept (kept d List.mem_cons_self), List.append_assoc, ih kept]
    by_cases same : goesOn c d = true
    · have inWord : (isUppercase d && closesWord c) = false := by rwa [goesOn, Bool.not_eq_true'] at same
      rw [splitBy_cons_of_goesOn same, joinWords_modifyHead filled, inWord, List.append_assoc]
      rfl
    · have begins : (isUppercase d && closesWord c) = true := by
        rwa [goesOn, Bool.not_eq_true', Bool.not_eq_false] at same
      have cut : (c :: d :: piece).splitBy goesOn = [c] :: (d :: piece).splitBy goesOn :=
        List.splitBy_append_cons (l := [c]) piece (by simpa using same)
      rw [cut, joinWords_cons filled, begins, List.append_assoc]
      rfl

/-- The words of a name up to its first separator. -/
theorem snakeFrom_start {c : Char} {piece rest : List Char} (kept : ∀ d ∈ c :: piece, isKept d = true)
    (stands : ∀ d ∈ rest.head?, isSeparator d = true) :
    snakeFrom true false (c :: piece ++ rest) =
      joinWords '_' (nameWords (c :: piece)) ++ snakeFrom false false rest := by
  rw [List.cons_append, snakeFrom_of_isKept (kept c List.mem_cons_self), Bool.and_false, if_neg Bool.false_ne_true,
    List.nil_append, snakeFrom_piece kept stands, nameWords_of_kept kept]

/-- Separators before the first word write nothing, and neither do those behind another one. -/
theorem snakeFrom_gap {gap : List Char} (separates : ∀ c ∈ gap, isSeparator c = true) (rest : List Char) :
    snakeFrom true false (gap ++ rest) = snakeFrom true false rest := by
  induction gap with
  | nil => rfl
  | cons c gap ih =>
    rw [List.forall_mem_cons] at separates
    rw [List.cons_append, snakeFrom_of_isSeparator separates.1, if_pos rfl, List.nil_append, ih separates.2]

theorem nameWords_gap {gap : List Char} (separates : ∀ c ∈ gap, isSeparator c = true) (rest : List Char) :
    nameWords (gap ++ rest) = nameWords rest := by
  induction gap with
  | nil => rfl
  | cons c gap ih =>
    rw [List.forall_mem_cons] at separates
    rw [List.cons_append, nameWords_separator separates.1, ih separates.2]

theorem joinWords_ne_nil {name : List Char} (filled : nameWords name ≠ []) : joinWords '_' (nameWords name) ≠ [] := by
  have underscore : isSeparator '_' = true := rfl
  obtain ⟨⟨c, first, -⟩, -⟩ := ends_intercalate (by simpa using filled) (clear_map_lowerWord underscore name)
  exact List.ne_nil_of_mem (List.mem_of_head? first)

theorem dropEndWhile_joinWords (name : List Char) :
    dropEndWhile (· = '_') (joinWords '_' (nameWords name)) = joinWords '_' (nameWords name) := by
  have underscore : isSeparator '_' = true := rfl
  refine dropEndWhile_eq_self fun c last => decide_eq_false ?_
  by_cases empty : nameWords name = []
  · rw [empty] at last
    cases last
  · obtain ⟨-, d, ends, other⟩ := ends_intercalate (by simpa using empty) (clear_map_lowerWord underscore name)
    rw [joinWords, Option.mem_def, Option.mem_def.1 ends] at last
    exact Option.some.inj last ▸ other

/-- What the pass writes are the words, and an underscore for separators at the end of the name. -/
theorem dropEndWhile_snakeFrom {name : List Char} (known : ∀ c ∈ name, (isKept c || isSeparator c) = true) :
    dropEndWhile (· = '_') (snakeFrom true false name) = joinWords '_' (nameWords name) := by
  have keeps {word : List Char} (known : ∀ c ∈ word, (isKept c || isSeparator c) = true)
      (clear : ∀ c ∈ word, isSeparator c = false) : ∀ c ∈ word, isKept c = true := by
    intro c listed
    have either := known c listed
    rwa [clear c listed, Bool.or_false] at either
  induction name using words_induction isSeparator with
  | word word clear =>
    cases word with
    | nil => rfl
    | cons c piece =>
      have ends : ∀ d ∈ ([] : List Char).head?, isSeparator d = true := by simp
      have start := snakeFrom_start (keeps known clear) ends
      rw [List.append_nil] at start
      rw [start, snakeFrom, List.append_nil, dropEndWhile_joinWords]
  | gap word c more rest clear separates stands ih =>
    rw [List.forall_mem_append, ← List.cons_append, List.forall_mem_append] at known
    have ih := ih known.2.2
    cases word with
    | nil => rw [List.nil_append, ← List.cons_append, snakeFrom_gap separates, nameWords_gap separates, ih]
    | cons d piece =>
      obtain ⟨separatesFirst, separatesMore⟩ := List.forall_mem_cons.1 separates
      have kept := keeps known.1 clear
      have ending : dropEndWhile (· = '_') (joinWords '_' (nameWords (d :: piece)) ++ ['_']) =
          joinWords '_' (nameWords (d :: piece)) := by
        rw [dropEndWhile_append, if_pos (by decide), dropEndWhile_joinWords]
      rw [snakeFrom_start kept (by simpa using separatesFirst), snakeFrom_of_isSeparator separatesFirst,
        if_neg Bool.false_ne_true, snakeFrom_gap separatesMore, nameWords_append_separator kept separatesFirst,
        nameWords_gap separatesMore, ← List.append_assoc, dropEndWhile_append, ih, ending]
      have someFirst : nameWords (d :: piece) ≠ [] := by
        rw [nameWords_of_kept kept]
        exact List.splitBy_ne_nil.2 (List.cons_ne_nil d piece)
      by_cases empty : nameWords rest = []
      · rw [empty, List.append_nil]
        rfl
      · rw [if_neg (joinWords_ne_nil empty), joinWords_append someFirst empty, List.append_assoc,
          List.singleton_append]

theorem snakeChars_eq (name : List Char) : snakeChars name = joinWords '_' (nameWords name) := by
  have trimmed : snakeChars name = dropEndWhile (· = '_') (snakeFrom true false name) := rfl
  have known : ∀ c ∈ name.filter fun c => isKept c || isSeparator c, (isKept c || isSeparator c) = true :=
    fun c listed => (List.mem_filter.1 listed).2
  rw [trimmed, ← snakeFrom_filter, dropEndWhile_snakeFrom known, nameWords_filter]

theorem kebabChars_eq (name : List Char) : kebabChars name = joinWords '-' (nameWords name) := by
  rw [kebabChars, snakeChars_eq]
  exact map_intercalate '-' fun part listed => (clear_map_lowerWord rfl name part listed).2

/-- A text that is a name's words in lower case. Its marks stand between words, one between each two, and without
them it is the letters and numbers of the name in their order. -/
structure InCase (mark : Char) (name text : List Char) : Prop where
  words : text = joinWords mark (nameWords name)
  begins : text.head? ≠ some mark
  ends : text.getLast? ≠ some mark
  single : Lacks [mark, mark] text
  letters : text.filter (· ≠ mark) = lowerWord (name.filter isKept)

theorem flatten_map_lowerWord (words : List (List Char)) :
    (words.map lowerWord).flatten = lowerWord words.flatten := by
  induction words with
  | nil => rfl
  | cons word words ih =>
    rw [List.map_cons, List.flatten_cons, List.flatten_cons, ih, lowerWord, lowerWord, lowerWord, List.flatMap_append]

theorem inCase_joinWords {mark : Char} (separates : isSeparator mark = true) (name : List Char) :
    InCase mark name (joinWords mark (nameWords name)) := by
  have clear := clear_map_lowerWord separates name
  have outer : ∀ c, (joinWords mark (nameWords name)).head? = some c ∨
      (joinWords mark (nameWords name)).getLast? = some c → c ≠ mark := by
    intro c atEnd
    by_cases empty : nameWords name = []
    · rw [empty] at atEnd
      rcases atEnd with first | last
      · cases first
      · cases last
    · obtain ⟨⟨d, begins, other⟩, e, ends, another⟩ := ends_intercalate (by simpa using empty) clear
      rcases atEnd with first | last
      · exact Option.some.inj (begins.symm.trans first) ▸ other
      · exact Option.some.inj (ends.symm.trans last) ▸ another
  exact {
    words := rfl
    begins := fun first => outer mark (.inl first) rfl
    ends := fun last => outer mark (.inr last) rfl
    single := lacks_intercalate clear
    letters := by
      rw [joinWords, filter_ne_intercalate fun part listed => (clear part listed).2, flatten_map_lowerWord,
        flatten_nameWords] }

/-- Words that casing leaves as they are. -/
def Lower (word : List Char) : Prop := word ≠ [] ∧ ∀ c ∈ word, isKept c = true ∧ isUppercase c = false

theorem Lower.nameWords_eq {word : List Char} (lower : Lower word) : nameWords word = [word] := by
  have one : word.IsChain fun c d => goesOn c d = true := by
    have each : ∀ c ∈ word, ∀ d ∈ word, goesOn c d = true := by
      intro c _ d listed
      rw [goesOn, (lower.2 d listed).2]
      rfl
    exact (List.pairwise_of_forall_mem_list each).isChain
  rw [nameWords_of_kept fun c listed => (lower.2 c listed).1, List.splitBy_of_isChain lower.1 one]

theorem Lower.lowerWord_eq {word : List Char} (lower : Lower word) : lowerWord word = word := by
  have each : ∀ c ∈ word, (if isUppercase c then toLowercase c else [c]) = [c] :=
    fun c listed => if_neg (by rw [(lower.2 c listed).2]; exact Bool.false_ne_true)
  rw [lowerWord, List.flatMap_congr each, List.flatMap_singleton']

theorem nameWords_intercalate {mark : Char} (separates : isSeparator mark = true) {words : List (List Char)}
    (lower : ∀ word ∈ words, Lower word) : nameWords ([mark].intercalate words) = words := by
  induction words with
  | nil => rfl
  | cons word others ih =>
    rw [List.forall_mem_cons] at lower
    by_cases last : others = []
    · rw [last, List.intercalate_singleton, lower.1.nameWords_eq]
    · rw [List.intercalate_cons_of_ne_nil last, List.append_assoc, List.singleton_append,
        nameWords_append_separator (fun c listed => (lower.1.2 c listed).1) separates, lower.1.nameWords_eq,
        ih lower.2, List.singleton_append]

theorem lower_of_isAscii {name : List Char} (ascii : ∀ c ∈ name, isAscii c = true) :
    ∀ word ∈ (nameWords name).map lowerWord, Lower word := by
  rw [List.forall_mem_map]
  intro word listed
  refine ⟨lowerWord_ne_nil (ne_nil_of_mem_nameWords listed), fun d inLower => ?_⟩
  obtain ⟨c, inWord, form⟩ := List.mem_flatMap.1 inLower
  have inName : c ∈ name.filter isKept := by
    rw [← flatten_nameWords]
    exact List.mem_flatten_of_mem listed inWord
  obtain ⟨among, kept⟩ := List.mem_filter.1 inName
  split at form
  · rename_i upper
    obtain ⟨letter, lower⟩ := mem_toLowercase_of_isAscii (ascii c among) upper form
    exact ⟨by rw [isKept, letter, Bool.or_true], lower⟩
  · rename_i lower
    rw [List.mem_singleton.1 form]
    exact ⟨kept, Bool.eq_false_iff.2 lower⟩

/-- In lower case the words of an ASCII name are found again. -/
theorem joinWords_joinWords {mark : Char} (separates : isSeparator mark = true) {name : List Char}
    (ascii : ∀ c ∈ name, isAscii c = true) :
    joinWords mark (nameWords (joinWords mark (nameWords name))) = joinWords mark (nameWords name) := by
  have lower := lower_of_isAscii ascii
  have again : ((nameWords name).map lowerWord).map lowerWord = (nameWords name).map lowerWord :=
    (List.map_congr_left fun word listed => (lower word listed).lowerWord_eq).trans (List.map_id _)
  have found : nameWords (joinWords mark (nameWords name)) = (nameWords name).map lowerWord :=
    nameWords_intercalate separates lower
  rw [found, joinWords, again]
  rfl

/-- Snake case and kebab case are the words of a name in lower case, with underscores or dashes between them and
nowhere else. No letter and no number is lost, and an ASCII name that is in a case already stays as it is. -/
theorem case_is_word_split (name : String) :
    [] ∉ nameWords name.toList ∧
    InCase '_' name.toList (snakeCase name).toList ∧
    InCase '-' name.toList (kebabCase name).toList ∧
    ((∀ c ∈ name.toList, isAscii c = true) →
      snakeCase (snakeCase name) = snakeCase name ∧ kebabCase (kebabCase name) = kebabCase name) := by
  have snake : (snakeCase name).toList = joinWords '_' (nameWords name.toList) := by
    rw [snakeCase, String.toList_ofList, snakeChars_eq]
  have kebab : (kebabCase name).toList = joinWords '-' (nameWords name.toList) := by
    rw [kebabCase, String.toList_ofList, kebabChars_eq]
  refine ⟨fun empty => ne_nil_of_mem_nameWords empty rfl, ?_, ?_, fun ascii => ⟨?_, ?_⟩⟩
  · rw [snake]
    exact inCase_joinWords rfl name.toList
  · rw [kebab]
    exact inCase_joinWords rfl name.toList
  · rw [snakeCase, snakeChars_eq, snake, joinWords_joinWords rfl ascii, ← snake, String.ofList_toList]
  · rw [kebabCase, kebabChars_eq, kebab, joinWords_joinWords rfl ascii, ← kebab, String.ofList_toList]

/-- Runs of separators, an abbreviation in capitals, a digit, and a mark that is left out within a word. -/
theorem case_is_word_split_of_mixed_name :
    let name := "__getHTTP2Items -x!Y_"
    (∀ c ∈ name.toList, isAscii c = true) ∧
    nameWords name.toList = ["get".toList, "HTTP2".toList, "Items".toList, "x".toList, "Y".toList] ∧
    snakeCase name = "get_http2_items_x_y" ∧ kebabCase name = "get-http2-items-x-y" ∧
    snakeCase "get_http2_items_x_y" = "get_http2_items_x_y" ∧
    kebabCase "get-http2-items-x-y" = "get-http2-items-x-y" := by
  intro name
  have ascii : ∀ c ∈ name.toList, isAscii c = true := List.all_eq_true.1 (by decide)
  have snake : snakeCase name = "get_http2_items_x_y" := by decide
  have kebab : kebabCase name = "get-http2-items-x-y" := by decide
  obtain ⟨-, -, -, again⟩ := case_is_word_split name
  have same := again ascii
  rw [snake, kebab] at same
  exact ⟨ascii, by decide, snake, kebab, same.1, same.2⟩

/-- Letters of other scripts have a case, too. A lower-case form may be longer, and a ligature is one letter. -/
example : snakeCase "straßeÜber9Ǆİ" = "straße_über9_ǆi̇" := by decide

end ClientStub.Text
