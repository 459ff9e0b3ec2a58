import ClientStub.Text.Blank

/-!
# What the trims keep

A text is bare when no white space stands at its ends. A trim gives the one bare text that differs from its
argument by white space at the ends alone, so white space put there before is not seen by it.
-/

namespace ClientStub.Text

/-- A text without white space at its ends. The empty text is one. -/
def Bare (text : List Char) : Prop :=
  (∀ c ∈ text.head?, isBlank c = false) ∧ ∀ c ∈ text.getLast?, isBlank c = false

instance (text : List Char) : Decidable (Bare text) :=
  decidable_of_iff
    (text.head?.all (fun c => !isBlank c) = true ∧ text.getLast?.all (fun c => !isBlank c) = true)
    (by simp [Bare, Option.all_eq_true])

theorem bare_nil : Bare [] := by simp [Bare]

theorem trimStart_source (text : List Char) :
    ∃ front, isBlankText front = true ∧ text = front ++ trimStart text := by
  refine ⟨text.takeWhile isBlank, ?_, List.takeWhile_append_dropWhile.symm⟩
  rw [isBlankText, List.all_takeWhile]

theorem trimEnd_source (text : List Char) :
    ∃ behind, isBlankText behind = true ∧ text = trimEnd text ++ behind := by
  refine ⟨(text.reverse.takeWhile isBlank).reverse, ?_, ?_⟩
  · rw [isBlankText, List.all_reverse, List.all_takeWhile]
  · rw [trimEnd, dropEndWhile, ← List.reverse_append, List.takeWhile_append_dropWhile, List.reverse_reverse]

theorem trim_source (text : List Char) :
    ∃ front behind, isBlankText front = true ∧ isBlankText behind = true ∧
      text = front ++ trim text ++ behind := by
  obtain ⟨front, blankFront, start⟩ := trimStart_source text
  obtain ⟨behind, blankBehind, ending⟩ := trimEnd_source (trimStart text)
  refine ⟨front, behind, blankFront, blankBehind, ?_⟩
  rw [trim, List.append_assoc, ← ending]
  exact start

theorem head?_trimStart (text : List Char) : ∀ c ∈ (trimStart text).head?, isBlank c = false := by
  intro c first
  have kept := List.head?_dropWhile_not isBlank text
  rw [trimStart] at first
  rw [Option.mem_def.1 first] at kept
  simpa using kept

theorem getLast?_trimEnd (text : List Char) : ∀ c ∈ (trimEnd text).getLast?, isBlank c = false := by
  intro c last
  rw [trimEnd, dropEndWhile, List.getLast?_reverse] at last
  exact head?_trimStart text.reverse c last

theorem trimStart_eq_self {text : List Char} (first : ∀ c ∈ text.head?, isBlank c = false) :
    trimStart text = text := by
  cases text with
  | nil => rfl
  | cons c rest => simp [trimStart, first c rfl]

theorem dropEndWhile_append (drop : Char → Bool) (front behind : List Char) :
    dropEndWhile drop (front ++ behind) =
      if dropEndWhile drop behind = [] then dropEndWhile drop front else front ++ dropEndWhile drop behind := by
  simp only [dropEndWhile, List.reverse_append, List.dropWhile_append, List.isEmpty_iff, List.reverse_eq_nil_iff]
  split
  · rfl
  · rw [List.reverse_append, List.reverse_reverse]

theorem dropEndWhile_eq_self {drop : Char → Bool} {text : List Char}
    (last : ∀ c ∈ text.getLast?, drop c = false) : dropEndWhile drop text = text := by
  rw [dropEndWhile, List.reverse_eq_iff]
  rw [← List.head?_reverse] at last
  cases back : text.reverse with
  | nil => rfl
  | cons c rest =>
    rw [back] at last
    exact List.dropWhile_cons_of_neg (by simp [last c rfl])

theorem trimEnd_eq_self {text : List Char} (last : ∀ c ∈ text.getLast?, isBlank c = false) :
    trimEnd text = text :=
  dropEndWhile_eq_self last

/-- The first character of a text stays the first when the text is cut from its end. -/
theorem head?_trimEnd {text : List Char} {c : Char} (first : c ∈ (trimEnd text).head?) :
    c ∈ text.head? := by
  obtain ⟨behind, -, source⟩ := trimEnd_source text
  rw [source, List.head?_append]
  exact Option.mem_def.2 (by rw [Option.mem_def.1 first]; rfl)

theorem bare_trim (text : List Char) : Bare (trim text) :=
  ⟨fun c first => head?_trimStart text c (head?_trimEnd first), getLast?_trimEnd (trimStart text)⟩

theorem Bare.trim_eq {text : List Char} (bare : Bare text) : trim text = text := by
  rw [trim, trimStart_eq_self bare.1, trimEnd_eq_self bare.2]

theorem trimStart_append_of_blank {front : List Char} (blank : isBlankText front = true)
    (text : List Char) : trimStart (front ++ text) = trimStart text :=
  List.dropWhile_append_of_pos (List.all_eq_true.1 blank)

theorem trimEnd_append_of_blank {behind : List Char} (blank : isBlankText behind = true)
    (text : List Char) : trimEnd (text ++ behind) = trimEnd text := by
  have dropped : trimStart (behind.reverse ++ text.reverse) = trimStart text.reverse := by
    apply trimStart_append_of_blank
    rwa [isBlankText, List.all_reverse]
  rw [trimStart, trimStart] at dropped
  rw [trimEnd, dropEndWhile, List.reverse_append, dropped, trimEnd, dropEndWhile]

theorem trimEnd_of_blank {text : List Char} (blank : isBlankText text = true) : trimEnd text = [] :=
  trimEnd_append_of_blank blank []

/-- White space is dropped as far as to the last character that is none. -/
theorem trimEnd_append_cons {c : Char} (solid : isBlank c = false) (front text : List Char) :
    trimEnd (front ++ c :: text) = front ++ c :: trimEnd text := by
  have kept : dropEndWhile isBlank (front ++ [c]) = front ++ [c] := by
    refine dropEndWhile_eq_self fun d last => ?_
    rw [List.getLast?_concat, Option.mem_some_iff] at last
    exact last ▸ solid
  have source : front ++ c :: text = front ++ [c] ++ text := by simp
  rw [trimEnd, source, dropEndWhile_append, kept, trimEnd]
  split
  · rename_i empty
    rw [empty]
  · simp

/-- The one bare text between white space. -/
theorem trim_eq_of_bare {front text behind : List Char} (blankFront : isBlankText front = true)
    (bare : Bare text) (blankBehind : isBlankText behind = true) :
    trim (front ++ text ++ behind) = text := by
  rw [trim, List.append_assoc, trimStart_append_of_blank blankFront]
  cases text with
  | nil =>
    have dropped := trimStart_append_of_blank blankBehind []
    rw [List.append_nil] at dropped
    rw [List.nil_append, dropped]
    rfl
  | cons c rest =>
    have kept : trimStart (c :: rest ++ behind) = c :: rest ++ behind := trimStart_eq_self bare.1
    rw [kept, trimEnd_append_of_blank blankBehind, trimEnd_eq_self bare.2]

theorem trim_append_of_blank {behind : List Char} (blank : isBlankText behind = true)
    (text : List Char) : trim (text ++ behind) = trim text := by
  obtain ⟨front, after, blankFront, blankAfter, source⟩ := trim_source text
  have blankEnd : isBlankText (after ++ behind) = true := by
    rw [isBlankText, List.all_append]
    exact Bool.and_eq_true_iff.2 ⟨blankAfter, blank⟩
  calc
    trim (text ++ behind) = trim (front ++ trim text ++ (after ++ behind)) := by
      rw [← List.append_assoc, ← source]
    _ = trim text := trim_eq_of_bare blankFront (bare_trim text) blankEnd

theorem trim_blank_append {front : List Char} (blank : isBlankText front = true) (text : List Char) :
    trim (front ++ text) = trim text := by
  rw [trim, trimStart_append_of_blank blank, ← trim]

theorem trim_cons_of_blank {c : Char} (blank : isBlank c = true) (text : List Char) :
    trim (c :: text) = trim text := by
  have single : isBlankText [c] = true := by simp [isBlankText, blank]
  exact trim_blank_append single text

theorem dropStart?_append (start rest : List Char) : dropStart? start (start ++ rest) = some rest := by
  simp [dropStart?]

theorem dropEnd?_append (rest ending : List Char) : dropEnd? ending (rest ++ ending) = some rest := by
  rw [dropEnd?, List.reverse_append, dropStart?_append, Option.map_some, List.reverse_reverse]

theorem dropStart?_source {start text rest : List Char} (found : dropStart? start text = some rest) :
    text = start ++ rest := by
  unfold dropStart? at found
  split at found
  · rename_i begins
    obtain ⟨after, rfl⟩ := List.isPrefixOf_iff_prefix.1 begins
    rw [List.drop_left, Option.some_inj] at found
    rw [found]
  · cases found

theorem dropEnd?_source {ending text rest : List Char} (found : dropEnd? ending text = some rest) :
    text = rest ++ ending := by
  obtain ⟨after, dropped, rfl⟩ := Option.map_eq_some_iff.1 found
  have source := congrArg List.reverse (dropStart?_source dropped)
  simpa using source

end ClientStub.Text
