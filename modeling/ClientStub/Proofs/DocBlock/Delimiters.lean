import ClientStub.Proofs.DocBlock.Layout

/-!
# Delimiters

A comment is read like the text between its delimiters. The opening `/**` and the closing `*/` are dropped one
after the other, so they do not share characters, but the opening `/*` right before `*/` is taken for the
longer one: the empty comment is the one comment that is read as more than its text.
-/

namespace ClientStub.DocBlock

open ClientStub.Text

/-- The lines of a text without their stars. -/
def plainLines (text : List Char) : List Char := trim (joinLines ((text.splitOn '\n').map plainLine))

theorem plainText_eq_of_withoutDelimiters {block : String} {inner : List Char}
    (stripped : withoutDelimiters block.toList = inner) : plainText block = plainLines inner := by
  rw [plainText_eq_splitOn, stripped, plainLines]

theorem withoutDelimiters_of_plain {text : List Char} (noOpening : ¬ "/*".toList <+: trim text)
    (noClosing : ¬ "*/".toList <:+ trim text) : withoutDelimiters text = trim text := by
  have short : dropStart? "/*".toList (trim text) = none := by
    refine Option.eq_none_iff_forall_ne_some.2 fun rest found => noOpening ?_
    exact ⟨rest, (dropStart?_source found).symm⟩
  have long : dropStart? "/**".toList (trim text) = none := by
    refine Option.eq_none_iff_forall_ne_some.2 fun rest found => noOpening ?_
    exact ⟨'*' :: rest, (dropStart?_source found).symm⟩
  have closing : dropEnd? "*/".toList (trim text) = none := by
    refine Option.eq_none_iff_forall_ne_some.2 fun rest found => noClosing ?_
    exact ⟨rest, (dropEnd?_source found).symm⟩
  simp only [withoutDelimiters, long, short, closing, Option.orElse_none, Option.getD_none]

/-- Behind a short opening must stand a character, and it must not be a star. -/
theorem withoutDelimiters_short {inner : List Char} (filled : inner ≠ []) (noStar : inner.head? ≠ some '*') :
    withoutDelimiters ("/*".toList ++ inner ++ "*/".toList) = inner := by
  obtain ⟨c, rest, rfl⟩ := List.exists_cons_of_ne_nil filled
  have other : '*' ≠ c := fun same => noStar (by rw [same]; rfl)
  have bare : Bare ("/*".toList ++ (c :: rest) ++ "*/".toList) := by
    have last : ("/*".toList ++ (c :: rest) ++ "*/".toList).getLast? = some '/' := by
      rw [List.getLast?_append]
      rfl
    refine ⟨fun d first => ?_, fun d ending => ?_⟩
    · obtain rfl : '/' = d := by simpa using first
      decide
    · obtain rfl : '/' = d := Option.some.inj (last.symm.trans ending)
      decide
  have long : dropStart? "/**".toList ("/*".toList ++ ((c :: rest) ++ "*/".toList)) = none := by
    simp [dropStart?, other]
  unfold withoutDelimiters
  dsimp only
  rw [bare.trim_eq, List.append_assoc, long, Option.orElse_none, dropStart?_append, Option.getD_some,
    dropEnd?_append, Option.getD_some]

theorem plainLines_trim (text : List Char) : plainLines (trim text) = plainLines text :=
  trim_joinLines_map_trim plainLine_trim rfl text

theorem tags_of_blank {text : String} (blank : isBlankText text.toList = true) :
    tags (some text) = .ofDescription "" := by
  have vacant : trim text.toList = [] := trim_append_of_blank blank []
  have stripped : withoutDelimiters text.toList = [] := by
    rw [withoutDelimiters_of_plain (by rw [vacant]; decide) (by rw [vacant]; decide), vacant]
  rw [tags_eq_readText, blockText, plainText_eq_of_withoutDelimiters stripped]
  decide

/-- A text that does not begin with a star and has no delimiters of its own is read between `/**` and `*/` as
it is read alone. Between `/*` and `*/` it is so exactly when there is anything between them. A blank text, and
so a blank comment, has an empty description and no tags. -/
theorem delimiters_say_nothing_iff {text : String} (noStar : text.toList.head? ≠ some '*')
    (noOpening : ¬ "/*".toList <+: trim text.toList) (noClosing : ¬ "*/".toList <:+ trim text.toList) :
    tags (some ("/**" ++ text ++ "*/")) = tags (some text) ∧
      (tags (some ("/*" ++ text ++ "*/")) = tags (some text) ↔ text ≠ "") ∧
      (isBlankText text.toList = true → tags (some text) = .ofDescription "") := by
  have alone : plainText text = plainLines text.toList := by
    rw [plainText_eq_of_withoutDelimiters (withoutDelimiters_of_plain noOpening noClosing), plainLines_trim]
  refine ⟨?_, ⟨?_, ?_⟩, tags_of_blank⟩
  · have stripped : withoutDelimiters ("/**" ++ text ++ "*/").toList = text.toList := by
      rw [String.toList_append, String.toList_append]
      exact DocComment.withoutDelimiters_comment text.toList
    rw [tags_eq_readText, tags_eq_readText, blockText, blockText, alone,
      plainText_eq_of_withoutDelimiters stripped]
  · rintro same rfl
    exact absurd same (by decide)
  · intro filled
    have stripped : withoutDelimiters ("/*" ++ text ++ "*/").toList = text.toList := by
      rw [String.toList_append, String.toList_append]
      exact withoutDelimiters_short (by simpa using filled) noStar
    rw [tags_eq_readText, tags_eq_readText, blockText, blockText, alone,
      plainText_eq_of_withoutDelimiters stripped]

/-- A text with a star, a slash and a tag near its ends. -/
theorem delimiters_say_nothing_around_marks :
    let text := " * / @api \n */*"
    text.toList.head? ≠ some '*' ∧ ¬ "/*".toList <+: trim text.toList ∧ ¬ "*/".toList <:+ trim text.toList ∧
      tags (some ("/**" ++ text ++ "*/")) = tags (some text) ∧
      tags (some ("/*" ++ text ++ "*/")) = tags (some text) := by
  intro text
  have noStar : text.toList.head? ≠ some '*' := by decide
  have noOpening : ¬ "/*".toList <+: trim text.toList := by decide
  have noClosing : ¬ "*/".toList <:+ trim text.toList := by decide
  obtain ⟨long, short, -⟩ := delimiters_say_nothing_iff noStar noOpening noClosing
  exact ⟨noStar, noOpening, noClosing, long, short.2 (by decide)⟩

/-- The empty comment is read as a slash: its one star goes with the opening, and the slash is left. -/
theorem empty_comment_says_slash :
    let text := ""
    text.toList.head? ≠ some '*' ∧ ¬ "/*".toList <+: trim text.toList ∧ ¬ "*/".toList <:+ trim text.toList ∧
      tags (some ("/*" ++ text ++ "*/")) = .ofDescription "/" ∧ tags (some text) = .ofDescription "" ∧
      tags (some ("/*" ++ text ++ "*/")) ≠ tags (some text) := by
  decide

end ClientStub.DocBlock
