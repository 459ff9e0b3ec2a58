import ClientStub.DocBlock

/-!
# Where tags begin

The introducers of a text are the places of its at signs that begin a tag. They cut the text: what stands
before the first of them is the leading part, and each opens a stretch that reaches to the next. `cut` makes
the same parts in one pass over the text.

A text is quiet when it has no introducer. Quiet texts may be put one behind the other, because an at sign
is kept from beginning a tag by a character of its own text.
-/

namespace ClientStub.DocBlock

open ClientStub.Text

/-- Whether the character at `place` begins a tag; `before` is the character in front of the text. It is an at
sign, and neither a letter, a number, an underscore, an opening brace or a backslash before it nor an opening brace
behind it binds it. -/
def isIntroducer (before : Option Char) (text : List Char) (place : Nat) : Bool :=
  text[place]? == some '@'
    && !((if place = 0 then before else text[place - 1]?).any fun c =>
      isAlphanumeric c || c = '_' || c = '\x7b' || c = '\\')
    && text[place + 1]? != some '\x7b'

def introducersAfter (before : Option Char) (text : List Char) : List Nat :=
  (List.range text.length).filter (isIntroducer before text)

/-- The places of a text at which tags begin, in increasing order. -/
def introducers (text : List Char) : List Nat := introducersAfter none text

/-- What stands behind each of the places, up to the next one. -/
def stretches (text : List Char) : List Nat → List (List Char)
  | [] => []
  | place :: places => (text.take (places.headD text.length)).drop (place + 1) :: stretches text places

/-- The text before the first of the places. -/
def lead (text : List Char) (places : List Nat) : List Char := text.take (places.headD text.length)

theorem isIntroducer_zero (before : Option Char) (c : Char) (rest : List Char) :
    isIntroducer before (c :: rest) 0 = beginsTag before c rest := by
  have binds : (fun c => isAlphanumeric c || c = '_' || c = '\x7b' || c = '\\') = bindsIntroducer := rfl
  have sign : '@' = introducer := rfl
  rw [isIntroducer, binds, sign]
  simp [beginsTag, List.head?_eq_getElem?, Bool.beq_eq_decide_eq]

theorem isIntroducer_succ (before : Option Char) (c : Char) (rest : List Char) (place : Nat) :
    isIntroducer before (c :: rest) (place + 1) = isIntroducer (some c) rest place := by
  cases place <;> simp [isIntroducer]

theorem introducersAfter_cons (before : Option Char) (c : Char) (rest : List Char) :
    introducersAfter before (c :: rest) =
      (if beginsTag before c rest then [0] else []) ++ (introducersAfter (some c) rest).map (· + 1) := by
  have later : isIntroducer before (c :: rest) ∘ Nat.succ = isIntroducer (some c) rest :=
    funext fun place => isIntroducer_succ before c rest place
  rw [introducersAfter, List.length_cons, List.range_succ_eq_map, List.filter_cons, isIntroducer_zero,
    List.filter_map, later]
  split <;> rfl

theorem stretches_cons (c : Char) (rest : List Char) (places : List Nat) :
    stretches (c :: rest) (places.map (· + 1)) = stretches rest places := by
  induction places with
  | nil => rfl
  | cons place places ih =>
    rw [List.map_cons, stretches, stretches, ih]
    simp

/-- One pass over a text makes the parts between its introducers. -/
theorem cut_eq_stretches (before : Option Char) (text : List Char) :
    cut before text =
      (lead text (introducersAfter before text), stretches text (introducersAfter before text)) := by
  induction text generalizing before with
  | nil => rfl
  | cons c rest ih =>
    simp only [cut]
    rw [ih (some c), introducersAfter_cons]
    split
    · simp [lead, stretches, stretches_cons]
    · simp [lead, stretches_cons]

theorem stretches_eq_nil_iff {text : List Char} {places : List Nat} :
    stretches text places = [] ↔ places = [] := by
  cases places <;> simp [stretches]

theorem length_stretches (text : List Char) (places : List Nat) :
    (stretches text places).length = places.length := by
  induction places with
  | nil => rfl
  | cons place places ih => simp [stretches, ih]

/-- No at sign of the text begins a tag. -/
def Quiet (text : List Char) : Prop :=
  ∀ front behind, text = front ++ introducer :: behind →
    beginsTag front.getLast? introducer behind = false

/-- Whether the text in front of the first character ends so that a tag may begin matters only to that
character. -/
theorem cut_congr {before other : Option Char}
    (same : before.any bindsIntroducer = other.any bindsIntroducer) (text : List Char) :
    cut before text = cut other text := by
  cases text with
  | nil => rfl
  | cons c rest =>
    have begins : beginsTag before c rest = beginsTag other c rest := by rw [beginsTag, beginsTag, same]
    simp only [cut, begins]

theorem cut_cons_snd_eq_nil_iff (before : Option Char) (c : Char) (rest : List Char) :
    (cut before (c :: rest)).2 = [] ↔ beginsTag before c rest = false ∧ (cut (some c) rest).2 = [] := by
  simp only [cut]
  split <;> simp_all

theorem cut_snd_eq_nil_iff (before : Option Char) (text : List Char) :
    (cut before text).2 = [] ↔
      ∀ front behind, text = front ++ introducer :: behind →
        beginsTag (front.getLast?.or before) introducer behind = false := by
  induction text generalizing before with
  | nil => simp [cut]
  | cons c rest ih =>
    rw [cut_cons_snd_eq_nil_iff, ih]
    constructor
    · rintro ⟨first, later⟩ front behind source
      cases front with
      | nil =>
        obtain ⟨rfl, rfl⟩ := List.cons.inj source
        exact first
      | cons d front =>
        obtain ⟨rfl, rfl⟩ := List.cons.inj source
        rw [List.getLast?_cons]
        simpa using later front behind rfl
    · intro quiet
      refine ⟨?_, fun front behind source => ?_⟩
      · by_cases sign : c = introducer
        · simpa [sign] using quiet [] rest (by simp [sign])
        · simp [beginsTag, sign]
      · have inner := quiet (c :: front) behind (by simp [source])
        rw [List.getLast?_cons] at inner
        simpa using inner

theorem cut_eq_of_snd_eq_nil {before : Option Char} {text : List Char}
    (empty : (cut before text).2 = []) : cut before text = (text, []) := by
  have source := cut_source before text
  rw [empty, List.flatMap_nil, List.append_nil] at source
  exact Prod.ext source empty

theorem quiet_iff_cut {text : List Char} : Quiet text ↔ cut none text = (text, []) := by
  have whole := cut_snd_eq_nil_iff none text
  simp only [Option.or_none] at whole
  rw [Quiet, ← whole]
  exact ⟨cut_eq_of_snd_eq_nil, fun same => by rw [same]⟩

theorem introducers_eq_nil_iff {text : List Char} : introducers text = [] ↔ Quiet text := by
  have empty : introducers text = [] ↔ stretches text (introducers text) = [] := stretches_eq_nil_iff.symm
  rw [empty, introducers, quiet_iff_cut]
  have parts := cut_eq_stretches .none text
  constructor
  · intro empty
    exact cut_eq_of_snd_eq_nil (by rw [parts]; exact empty)
  · intro same
    rw [parts] at same
    exact (Prod.ext_iff.1 same).2

end ClientStub.DocBlock
