import ClientStub.Proofs.Json.Numbers

/-!
# Skipping values

Every text of a value is skipped whole, however deep it lies: no nesting is counted and no number is taken. The
steps are at most two for each character.
-/

namespace ClientStub.Json

def Enclosure.closing : Enclosure → Char
  | .array => ']'
  | .object => '\x7d'

/-- What is skipped next inside an enclosure: a value, behind the name of the member if it is an object. -/
def Enclosure.step (enclosure : Enclosure) (fuel : Nat) (outer : List Enclosure) (text : List Char) :
    Except Failure (List Char) :=
  match enclosure with
  | .array => skipFrom fuel (.array :: outer) .value text
  | .object => do skipFrom fuel (.object :: outer) .value (← skipMemberName text)

section

variable {fuel : Nat} {enclosure : Enclosure} {outer : List Enclosure} {text rest : List Char}

theorem skipFrom_opened {c : Char} (reached : skipSpace text = c :: rest) (notClosing : c ≠ enclosure.closing) :
    skipFrom (fuel + 1) (enclosure :: outer) .behindOpening text = enclosure.step fuel outer (c :: rest) := by
  rw [skipFrom.eq_def]
  dsimp only
  rw [reached]
  cases enclosure <;> split <;> simp_all [Enclosure.closing, Enclosure.step]

theorem skipFrom_comma (reached : skipSpace text = ',' :: rest) :
    skipFrom (fuel + 1) (enclosure :: outer) .behindValue text = enclosure.step fuel outer rest := by
  rw [skipFrom.eq_def]
  dsimp only
  rw [reached]
  cases enclosure <;> simp [Enclosure.step]

theorem skipFrom_closing (point : SkipPoint) (behindSome : point ≠ .value)
    (reached : skipSpace text = enclosure.closing :: rest) :
    skipFrom (fuel + 1) (enclosure :: outer) point text = skipFrom fuel outer .behindValue rest := by
  rw [skipFrom.eq_def]
  cases point with
  | value => contradiction
  | behindValue =>
    dsimp only
    rw [reached]
    cases enclosure <;> rfl
  | behindOpening =>
    dsimp only
    rw [reached]
    cases enclosure <;> rfl

theorem skipFrom_digit {c : Char} (digit : isDigit c = true) {enclosures : List Enclosure}
    (reached : skipSpace text = c :: rest) :
    skipFrom (fuel + 1) enclosures .value text =
      (skipNumber (c :: rest)).bind fun rest => skipFrom fuel enclosures .behindValue rest := by
  rw [skipFrom.eq_def]
  dsimp only
  rw [reached]
  split <;> simp_all [isDigit]
  rfl

end

/-- The text is skipped as a value wherever it stands, in at most two steps for each character. -/
structure Skips (text : List Char) : Prop where
  opens : Opens text
  skip : ∃ steps ≤ 2 * text.length, ∀ {fuel : Nat} {enclosures : List Enclosure} {front rest : List Char},
    Spaces front → Stops rest →
      skipFrom (fuel + steps) enclosures .value (front ++ (text ++ rest)) =
        skipFrom fuel enclosures .behindValue rest

/-- The point that a piece of an array or an object is skipped from. -/
def SkipPoint.before (first : Bool) : SkipPoint := if first then .behindOpening else .behindValue

/-- The text is skipped as a piece of an array or an object, up to the white space behind it. -/
def SkipsPiece (enclosure : Enclosure) (text : List Char) : Prop :=
  ∃ behind, Spaces behind ∧ ∃ steps ≤ 2 * text.length + 1,
    ∀ {first : Bool} {before : List Char}, Lead first before →
    ∀ {fuel : Nat} {outer : List Enclosure} {rest : List Char}, Stops rest →
      skipFrom (fuel + steps) (enclosure :: outer) (.before first) (before ++ (text ++ rest)) =
        skipFrom fuel (enclosure :: outer) .behindValue (behind ++ rest)

variable {enclosure : Enclosure} {first : Bool} {before behind front text : List Char}

/-- What stands before a piece is skipped in one step, white space apart. -/
theorem skipFrom_lead (enclosure : Enclosure) (lead : Lead first before) (spaces : Spaces front) {c : Char}
    (solid : isSpace c = false) (notClosing : c ≠ enclosure.closing) :
    ∃ left, Spaces left ∧ ∀ (fuel : Nat) (outer : List Enclosure) (rest : List Char),
      skipFrom (fuel + 1) (enclosure :: outer) (.before first) (before ++ (front ++ c :: rest)) =
        enclosure.step fuel outer (left ++ c :: rest) := by
  cases lead with
  | opening =>
    refine ⟨[], spaces_nil, fun fuel outer rest => ?_⟩
    exact skipFrom_opened (skipSpace_append spaces solid rest) notClosing
  | comma around =>
    refine ⟨front, spaces, fun fuel outer rest => ?_⟩
    rw [List.append_assoc]
    exact skipFrom_comma (skipSpace_append around (by decide) _)

theorem Skips.piece {inner : List Char} (skips : Skips inner) (around : Spaced inner text) :
    SkipsPiece .array text := by
  obtain ⟨front, behind, spacesFront, spaces, rfl⟩ := around
  obtain ⟨steps, bound, skip⟩ := skips.skip
  obtain ⟨c, more, opened, solid, notClosing⟩ := skips.opens
  refine ⟨behind, spaces, steps + 1, ?_, fun {first before} lead {fuel outer rest} stops => ?_⟩
  · simp only [List.length_append]
    omega
  · obtain ⟨left, spacesLeft, step⟩ := skipFrom_lead .array lead spacesFront solid notClosing
    have stepped := step (fuel + steps) outer (more ++ (behind ++ rest))
    rw [← List.cons_append, ← opened] at stepped
    rw [List.append_assoc, List.append_assoc, ← Nat.add_assoc, stepped]
    exact skip spacesLeft (stops.append spaces)

theorem skipMemberName_append {body gap : List Char} (named : ∀ rest, skipStringBody (body ++ rest) = .ok rest)
    (spaces : Spaces front) (spacesGap : Spaces gap) (rest : List Char) :
    skipMemberName (front ++ '"' :: (body ++ (gap ++ ':' :: rest))) = .ok rest := by
  rw [skipMemberName, skipSpace_append spaces (by decide)]
  change (skipStringBody _).bind readColon = _
  rw [named]
  exact readColon_append spacesGap rest

theorem Skips.member {member : String × List Char} (skips : Skips member.2) (around : MemberText member text) :
    SkipsPiece .object text := by
  obtain ⟨front, body, gap, spaced, behind, spacesFront, spacesGap, spacesBefore, spaces, rfl, named⟩ :=
    around.parts
  obtain ⟨steps, bound, skip⟩ := skips.skip
  refine ⟨behind, spaces, steps + 1, ?_, fun {first before} lead {fuel outer rest} stops => ?_⟩
  · simp only [List.length_append, List.length_cons]
    omega
  · obtain ⟨left, spacesLeft, step⟩ :=
      skipFrom_lead .object lead spacesFront (c := '"') (by decide) (by decide)
    simp only [List.append_assoc, List.cons_append]
    rw [← Nat.add_assoc, step, Enclosure.step,
      skipMemberName_append (fun rest => (named rest).2) spacesLeft spacesGap]
    exact skip spacesBefore (stops.append spaces)

section

variable {ι : Type} {piece : ι → List Char → Prop} {items : List ι}

theorem skipFrom_following (pieces : Following piece items text)
    (each : ∀ item ∈ items, ∀ {text : List Char}, piece item text → SkipsPiece enclosure text)
    (spaces : Spaces behind) :
    ∃ last, Spaces last ∧ ∃ steps ≤ 2 * text.length,
      ∀ {fuel : Nat} {outer : List Enclosure} {rest : List Char}, Stops rest →
        skipFrom (fuel + steps) (enclosure :: outer) .behindValue (behind ++ (text ++ rest)) =
          skipFrom fuel (enclosure :: outer) .behindValue (last ++ rest) := by
  induction pieces generalizing behind with
  | none => exact ⟨behind, spaces, 0, by simp, fun _ => rfl⟩
  | next around following ih =>
    rw [List.forall_mem_cons] at each
    obtain ⟨behindPiece, spacesPiece, steps, bound, skip⟩ := each.1 around
    obtain ⟨last, spacesLast, others, boundOthers, skipOthers⟩ := ih each.2 spacesPiece
    refine ⟨last, spacesLast, others + steps, ?_, fun {fuel outer rest} stops => ?_⟩
    · simp only [List.length_cons, List.length_append]
      omega
    · rw [← skipOthers stops, ← skip (.comma spaces) (following.stops stops)]
      simp [SkipPoint.before, Nat.add_assoc]

theorem skipFrom_separated (pieces : Separated piece items text)
    (each : ∀ item ∈ items, ∀ {text : List Char}, piece item text → SkipsPiece enclosure text) :
    ∃ steps ≤ 2 * text.length + 2, ∀ {fuel : Nat} {outer : List Enclosure} {rest : List Char},
      skipFrom (fuel + steps) (enclosure :: outer) .behindOpening (text ++ enclosure.closing :: rest) =
        skipFrom fuel outer .behindValue rest := by
  have solid : isSpace enclosure.closing = false := by cases enclosure <;> decide
  cases pieces with
  | none spaces =>
    refine ⟨1, by omega, fun {fuel outer rest} => ?_⟩
    exact skipFrom_closing .behindOpening (by simp) (skipSpace_append spaces solid rest)
  | some around following =>
    rw [List.forall_mem_cons] at each
    obtain ⟨behindPiece, spacesPiece, steps, bound, skip⟩ := each.1 around
    obtain ⟨last, spacesLast, others, boundOthers, skipOthers⟩ := skipFrom_following following each.2 spacesPiece
    refine ⟨1 + others + steps, ?_, fun {fuel outer rest} => ?_⟩
    · simp only [List.length_append]
      omega
    · have ends : Stops (enclosure.closing :: rest) := by
        apply stops_cons
        cases enclosure <;> decide
      rw [← skipFrom_closing .behindValue (by simp) (skipSpace_append spacesLast solid rest), ← skipOthers ends,
        ← skip .opening (following.stops ends)]
      simp [SkipPoint.before, Nat.add_assoc]

end

theorem skips_enclosed {c : Char} {inside : List Char} (solid : isSpace c = false) (notClosing : c ≠ ']')
    (opening : ∀ {fuel : Nat} {enclosures : List Enclosure} {text rest : List Char},
      skipSpace text = c :: rest →
        skipFrom (fuel + 1) enclosures .value text = skipFrom fuel (enclosure :: enclosures) .behindOpening rest)
    (body : ∃ steps ≤ 2 * inside.length + 2, ∀ {fuel : Nat} {outer : List Enclosure} {rest : List Char},
      skipFrom (fuel + steps) (enclosure :: outer) .behindOpening (inside ++ enclosure.closing :: rest) =
        skipFrom fuel outer .behindValue rest) :
    Skips (c :: (inside ++ [enclosure.closing])) := by
  obtain ⟨steps, bound, skip⟩ := body
  refine ⟨⟨c, _, rfl, solid, notClosing⟩, steps + 1, ?_, fun {fuel enclosures front rest} spaces _ => ?_⟩
  · simp only [List.length_cons, List.length_append]
    omega
  · rw [← Nat.add_assoc, List.cons_append, opening (skipSpace_append spaces solid _), List.append_assoc]
    exact skip

theorem skips_scalar {c : Char} {inner : List Char} (solid : isSpace c = false) (notClosing : c ≠ ']')
    (skip : ∀ {fuel : Nat} {enclosures : List Enclosure} {text rest : List Char}, Stops rest →
      skipSpace text = c :: (inner ++ rest) →
        skipFrom (fuel + 1) enclosures .value text = skipFrom fuel enclosures .behindValue rest) :
    Skips (c :: inner) := by
  refine ⟨⟨c, inner, rfl, solid, notClosing⟩, 1, ?_, fun spaces stops => skip stops ?_⟩
  · rw [List.length_cons]
    omega
  · exact skipSpace_append spaces solid _

theorem skips_word {c : Char} {word : List Char} (solid : isSpace c = false) (notClosing : c ≠ ']')
    (skip : ∀ {fuel : Nat} {enclosures : List Enclosure} {text rest : List Char},
      skipSpace text = c :: (word ++ rest) →
        skipFrom (fuel + 1) enclosures .value text =
          (readExactly word (word ++ rest)).bind fun rest => skipFrom fuel enclosures .behindValue rest) :
    Skips (c :: word) := by
  refine skips_scalar solid notClosing fun {fuel enclosures text rest} _ reached => ?_
  rw [skip reached, readExactly_append]
  rfl

theorem skips_integer (value : Int) : Skips (toString value).toList := by
  rw [toList_toString_int]
  split
  · obtain ⟨c, more, shown, digit, _⟩ := toDigits_eq_cons value.toNat
    obtain ⟨solid, notClosing⟩ := isSpace_of_isDigit digit
    rw [shown]
    refine skips_scalar solid notClosing fun {fuel enclosures text rest} stops reached => ?_
    have skipped := skipNumber_toDigits value.toNat stops
    rw [shown, List.cons_append] at skipped
    rw [skipFrom_digit digit reached, skipped]
    rfl
  · refine skips_scalar (by decide) (by decide) fun {fuel enclosures text rest} stops reached => ?_
    rw [skipFrom.eq_def]
    dsimp only
    rw [reached]
    change (skipNumber (Nat.toDigits 10 (-value).toNat ++ rest)).bind _ = _
    rw [skipNumber_toDigits _ stops]
    rfl

theorem skips_string {value : String} {text : List Char} (shown : StringText value text) : Skips text := by
  obtain ⟨body, rfl, named⟩ := shown.body
  refine skips_scalar (by decide) (by decide) fun {fuel enclosures text rest} _ reached => ?_
  rw [skipFrom.eq_def]
  dsimp only
  rw [reached]
  change (skipStringBody (body ++ rest)).bind _ = _
  rw [(named rest).2]
  rfl

/-- Every text of a value is skipped. -/
theorem skips_of_valueText {value : Json} {text : List Char} (shown : ValueText value text) : Skips text := by
  induction shown with
  | null =>
    refine skips_word (by decide) (by decide) fun {fuel enclosures text rest} reached => ?_
    rw [skipFrom.eq_def]
    dsimp only
    rw [reached]
    rfl
  | bool value =>
    cases value with
    | false =>
      refine skips_word (by decide) (by decide) fun {fuel enclosures text rest} reached => ?_
      rw [skipFrom.eq_def]
      dsimp only
      rw [reached]
      rfl
    | true =>
      refine skips_word (by decide) (by decide) fun {fuel enclosures text rest} reached => ?_
      rw [skipFrom.eq_def]
      dsimp only
      rw [reached]
      rfl
  | integer value => exact skips_integer value
  | string shown => exact skips_string shown
  | @array shown _ _ whole ih =>
    obtain ⟨inside, pieces, rfl⟩ := whole
    have each : ∀ item ∈ shown.map Prod.snd, ∀ {text : List Char}, Spaced item text → SkipsPiece .array text := by
      intro item listed text around
      obtain ⟨source, fromShown, rfl⟩ := List.mem_map.1 listed
      exact (ih source fromShown).piece around
    have body := skipFrom_separated pieces each
    refine skips_enclosed (by decide) (by decide) (fun {fuel enclosures text rest} reached => ?_) body
    rw [skipFrom.eq_def]
    dsimp only
    rw [reached]
    rfl
  | @object _ shown _ _ _ whole ih =>
    obtain ⟨inside, pieces, rfl⟩ := whole
    have each : ∀ member ∈ shown.map fun member => (member.1.1, member.2),
        ∀ {text : List Char}, MemberText member text → SkipsPiece .object text := by
      intro member listed text around
      obtain ⟨source, fromShown, rfl⟩ := List.mem_map.1 listed
      exact (ih source fromShown).member around
    have body := skipFrom_separated pieces each
    refine skips_enclosed (by decide) (by decide) (fun {fuel enclosures text rest} reached => ?_) body
    rw [skipFrom.eq_def]
    dsimp only
    rw [reached]
    rfl

theorem reads_skipValue {value : Json} {text : List Char} (shown : ValueText value text) :
    Reads skipValue () text := by
  have skips := skips_of_valueText shown
  refine ⟨skips.opens, fun {front rest} spaces stops => ?_⟩
  obtain ⟨steps, bound, skip⟩ := skips.skip
  have enough : 2 * (front ++ (text ++ rest)).length + 2 =
      2 * (front ++ (text ++ rest)).length + 1 - steps + 1 + steps := by
    simp only [List.length_append]
    omega
  rw [skipValue, enough, skip spaces stops]
  rfl

end ClientStub.Json
