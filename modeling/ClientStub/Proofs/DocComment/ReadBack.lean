import ClientStub.Proofs.DocComment.Frame
import Mathlib.Data.List.TakeWhile

/-!
# Comments are read back

A comment of a description and of tags, one to a logical line, gives the description and the tags back when
it is read as a documentation block, provided that each text is normalised and quiet. The lines are added to
what was read before them one at a time: whatever quiet text stands in front, a tag at the start of a line
begins there and ends before the next one.
-/

namespace ClientStub

open ClientStub.Text ClientStub.DocBlock ClientStub.DocComment

/-- A logical line of a comment behind its description: an empty one or a tag. -/
inductive CommentLine where
  | empty
  | tag (name body : String)
  deriving DecidableEq, Repr

namespace CommentLine

def text : CommentLine → String
  | empty => ""
  | tag name body => "@" ++ name ++ " " ++ body

/-- The tag that a line is read as. -/
def tag? : CommentLine → Option (String × String)
  | empty => none
  | tag name body => some (name, body)

/-- What a tag's name and body must be to be read back. -/
structure Readable (name body : String) : Prop where
  filled : name ≠ ""
  letters : ∀ c ∈ name.toList, isNameChar c = true
  other : name ≠ "return"
  settled : Settled body.toList

/-- What stands behind the introducer of a tag. -/
def behindIntroducer (name body : List Char) : List Char := name ++ if body = [] then [] else ' ' :: body

/-- What a line adds to the text of a comment. -/
def written : CommentLine → List Char
  | empty => ['\n']
  | tag name body => introducer :: behindIntroducer name.toList body.toList ++ ['\n']

theorem isBlank_of_isNameChar {c : Char} (letter : isNameChar c = true) : isBlank c = false := by
  cases blank : isBlank c with
  | false => rfl
  | true => simp [isNameChar_of_isBlank blank] at letter

theorem not_mem_of_letters {name : List Char} (letters : ∀ c ∈ name, isNameChar c = true) {c : Char}
    (other : isNameChar c = false) : c ∉ name := by
  intro listed
  exact absurd (letters c listed) (by simp [other])

variable {name body : String}

/-- The line of a tag, cleared: the space behind the name goes with an empty body. -/
theorem cleared_tag (readable : Readable name body) :
    cleared (tag name body).text.toList = introducer :: behindIntroducer name.toList body.toList := by
  have noFeed : '\n' ∉ introducer :: name.toList := by
    simp [introducer, not_mem_of_letters readable.letters (c := '\n') rfl]
  have bare : Bare (introducer :: name.toList) := by
    refine ⟨fun c first => ?_, fun c ending => ?_⟩
    · obtain rfl : introducer = c := by simpa using first
      decide
    · have listed : c ∈ introducer :: name.toList := List.mem_of_getLast? ending
      rcases List.mem_cons.1 listed with rfl | listed
      · decide
      · exact isBlank_of_isNameChar (readable.letters c listed)
  have source : (tag name body).text.toList = introducer :: name.toList ++ ' ' :: body.toList := by
    simp [text, introducer]
  rw [source, behindIntroducer]
  split
  · rename_i empty
    rw [empty, List.append_nil]
    have single : '\n' ∉ introducer :: name.toList ++ [' '] := by simpa using noFeed
    rw [cleared, List.splitOn_eq_singleton single, List.map_singleton, trim_append_of_blank rfl, bare.trim_eq]
    simp [joinLines]
  · rename_i filled
    exact cleared_of_normalised (readable.settled.normalised.after_space filled bare noFeed (by simp))

theorem getLast?_text (line : CommentLine)
    (readable : ∀ name body, line = tag name body → Readable name body) :
    line.text.toList.getLast? ≠ some '\n' := by
  cases line with
  | empty => decide
  | tag name body =>
    have normalised := (readable name body rfl).settled.normalised
    intro feed
    rw [text, String.toList_append, List.getLast?_append] at feed
    cases last : body.toList.getLast? with
    | none =>
      have space : ("@" ++ name ++ " ").toList.getLast? = some ' ' := by
        rw [String.toList_append, List.getLast?_append]
        rfl
      rw [last, Option.none_or, space] at feed
      simp at feed
    | some c =>
      have clear := normalised.ends.2 c last
      obtain rfl : c = '\n' := by simpa [last] using feed
      simp [isBlank_lineFeed] at clear

theorem cleared_line (line : CommentLine)
    (readable : ∀ name body, line = tag name body → Readable name body) :
    cleared line.text.toList ++ ['\n'] = line.written := by
  cases line with
  | empty => decide
  | tag name body => rw [cleared_tag (readable name body rfl), written]

theorem quiet_behindIntroducer (readable : Readable name body) :
    Quiet (behindIntroducer name.toList body.toList ++ ['\n']) := by
  have letters : Quiet name.toList := quiet_of_not_mem (not_mem_of_letters readable.letters rfl)
  have space : Quiet [' '] := quiet_of_not_mem (by decide)
  have feed : Quiet ['\n'] := quiet_of_not_mem (by decide)
  unfold behindIntroducer
  split
  · rw [List.append_nil]
    exact letters.append feed
  · exact (letters.append (space.append readable.settled.quiet)).append feed

theorem kept?_behindIntroducer (readable : Readable name body) :
    (Span.ofText (behindIntroducer name.toList body.toList)).kept? = some (name, body) := by
  have whole : Span.ofText name.toList = ⟨name.toList, []⟩ := by
    rw [Span.ofText, List.takeWhile_eq_self_iff.2 readable.letters,
      List.dropWhile_eq_nil_iff.2 readable.letters]
  have parts : Span.ofText (behindIntroducer name.toList body.toList) =
      ⟨name.toList, if body.toList = [] then [] else ' ' :: body.toList⟩ := by
    rw [behindIntroducer, ofText_append, whole, List.nil_append]
    split
    · simp
    · intro c first
      obtain rfl : ' ' = c := by simpa using first
      decide
  have named : (Span.ofText (behindIntroducer name.toList body.toList)).name? = some name := by
    have other : name.toList ≠ "return".toList := fun same => readable.other (String.toList_injective same)
    rw [parts, Span.name?, if_neg (by simpa using readable.filled), if_neg other, String.ofList_toList]
  have said : (Span.ofText (behindIntroducer name.toList body.toList)).text = body := by
    rw [parts, Span.text]
    have tidied : tidy (if body.toList = [] then [] else ' ' :: body.toList) = body.toList := by
      split
      · rename_i empty
        rw [empty]
        rfl
      · rw [tidy_cons_of_blank rfl, tidy_of_normalised readable.settled.normalised]
    rw [tidied, String.ofList_toList]
  rw [Span.kept?, named, Option.map_some, said]

/-- A tag is cut off at its introducer and at the next one, whatever quiet text stands in front. Empty lines
go with what is before them. -/
theorem cut_lines {lines : List CommentLine}
    (readable : ∀ name body, tag name body ∈ lines → Readable name body) {front : List Char}
    (quiet : Quiet front) (loose : front.getLast?.any bindsIntroducer = false) :
    ∃ feeds, isBlankText feeds = true ∧ (cut none (front ++ lines.flatMap written)).1 = front ++ feeds ∧
      ((cut none (front ++ lines.flatMap written)).2.map Span.ofText).filterMap Span.kept? =
        lines.filterMap tag? := by
  induction lines generalizing front with
  | nil =>
    refine ⟨[], rfl, ?_⟩
    rw [List.flatMap_nil, List.append_nil, quiet_iff_cut.1 quiet]
    exact ⟨rfl, rfl⟩
  | cons line lines ih =>
    have others : ∀ name body, tag name body ∈ lines → Readable name body :=
      fun name body listed => readable name body (List.mem_cons_of_mem _ listed)
    have feed : ∀ text : List Char, (text ++ ['\n']).getLast?.any bindsIntroducer = false := by
      intro text
      rw [List.getLast?_concat]
      rfl
    cases line with
    | empty =>
      have longer : Quiet (front ++ ['\n']) := quiet.append (quiet_of_not_mem (by decide))
      obtain ⟨feeds, blank, lead, parts⟩ := ih others longer (feed front)
      have source : front ++ (empty :: lines).flatMap written = front ++ ['\n'] ++ lines.flatMap written := by
        simp [written]
      refine ⟨'\n' :: feeds, ?_, ?_, ?_⟩
      · rw [isBlankText, List.all_cons, Bool.and_eq_true]
        exact ⟨isBlank_lineFeed, blank⟩
      · rw [source, lead, List.append_assoc]
        rfl
      · rw [source, parts]
        rfl
    | tag name body =>
      have mine := readable name body List.mem_cons_self
      obtain ⟨feeds, blank, lead, parts⟩ := ih others (quiet_behindIntroducer mine) (feed _)
      have source : front ++ (tag name body :: lines).flatMap written =
          front ++ introducer :: (behindIntroducer name.toList body.toList ++ ['\n'] ++
            lines.flatMap written) := by
        simp [written]
      have unbraced : (behindIntroducer name.toList body.toList ++ ['\n'] ++
          lines.flatMap written).head? ≠ some '\x7b' := by
        obtain ⟨c, rest, letters⟩ := List.exists_cons_of_ne_nil (l := name.toList) (by simpa using mine.filled)
        have letter := mine.letters c (by simp [letters])
        intro brace
        obtain rfl : c = '\x7b' := by simpa [behindIntroducer, letters] using brace
        exact absurd letter (by decide)
      have kept : (Span.ofText (behindIntroducer name.toList body.toList ++ ['\n'] ++ feeds)).kept? =
          some (name, body) := by
        rw [List.append_assoc, kept?_append_blank ?_, kept?_behindIntroducer mine]
        rw [isBlankText, List.all_append, Bool.and_eq_true]
        exact ⟨by decide, blank⟩
      refine ⟨[], rfl, ?_, ?_⟩
      · rw [source, cut_append_introducer quiet loose unbraced, List.append_nil]
      · rw [source, cut_append_introducer quiet loose unbraced, List.map_cons, List.filterMap_cons, lead,
          kept, parts]
        rfl

theorem getLast?_texts {lines : List CommentLine}
    (readable : ∀ name body, tag name body ∈ lines → Readable name body) :
    ∀ logical ∈ lines.map text, logical.toList.getLast? ≠ some '\n' := by
  intro logical listed
  obtain ⟨line, inLines, rfl⟩ := List.mem_map.1 listed
  exact getLast?_text line fun name body same => readable name body (same ▸ inLines)

/-- A normalised and quiet description and readable lines are read back from their comment. -/
theorem tags_block_lines {description : String} (settled : Settled description.toList)
    {lines : List CommentLine} (readable : ∀ name body, tag name body ∈ lines → Readable name body) :
    tags (some (block (description :: lines.map text))) =
      (TagMap.ofDescription description).insertAll (lines.filterMap tag?) := by
  have endings : ∀ logical ∈ description :: lines.map text, logical.toList.getLast? ≠ some '\n' := by
    rw [List.forall_mem_cons]
    refine ⟨fun feed => ?_, getLast?_texts readable⟩
    have clear := settled.normalised.ends.2 '\n' feed
    simp [isBlank_lineFeed] at clear
  have cleared : (lines.map text).flatMap (fun logical => cleared logical.toList ++ ['\n']) =
      lines.flatMap written := by
    rw [List.flatMap_map]
    exact List.flatMap_congr fun line listed =>
      cleared_line line fun name body same => readable name body (same ▸ listed)
  have feed : Quiet (description.toList ++ ['\n']) := settled.quiet.append (quiet_of_not_mem (by decide))
  obtain ⟨feeds, blank, lead, parts⟩ := cut_lines readable feed (by rw [List.getLast?_concat]; rfl)
  have tidied : tidy (description.toList ++ ['\n'] ++ feeds) = description.toList := by
    rw [tidy_append_of_blank blank, tidy_concat_of_blank isBlank_lineFeed,
      tidy_of_normalised settled.normalised]
  rw [tags_block endings, List.flatMap_cons, cleared_of_normalised settled.normalised, cleared, readText,
    leadingText, leading, spans, lead, parts, tidied, String.ofList_toList]

/-- The description may be left out where it is empty, and an empty line may follow it. -/
theorem tags_block_described {description : String} (settled : Settled description.toList)
    {lines : List CommentLine} (readable : ∀ name body, tag name body ∈ lines → Readable name body) :
    tags (some (block ((if description = "" then [] else [description, ""]) ++ lines.map text))) =
      (TagMap.ofDescription description).insertAll (lines.filterMap tag?) := by
  by_cases absent : description = ""
  · subst absent
    rw [if_pos rfl, List.nil_append, ← tags_block_empty_cons (getLast?_texts readable)]
    exact tags_block_lines settled readable
  · rw [if_neg absent]
    have more : ∀ name body, tag name body ∈ empty :: lines → Readable name body := by
      intro name body listed
      rcases List.mem_cons.1 listed with same | listed
      · cases same
      · exact readable name body listed
    have undone := tags_block_lines settled more
    rw [List.map_cons, List.filterMap_cons] at undone
    exact undone

end CommentLine

namespace DocComment

/-- Reading undoes writing. A description and tags whose texts are normalised and have no introducers of their
own are exactly what their comment is read as: each name has the bodies that were written under it, in their
order, `description` has the description before them, and no other name is a key. -/
theorem tags_undo_block (description : String) (written : List (String × String))
    (normalised : Normalised description.toList) (quiet : introducers description.toList = [])
    (names : ∀ tag ∈ written,
      tag.1 ≠ "" ∧ tag.1 ≠ "return" ∧ ∀ c ∈ tag.1.toList, isNameChar c = true)
    (bodies : ∀ tag ∈ written, Normalised tag.2.toList ∧ introducers tag.2.toList = []) :
    let read := tags (some (block (description :: written.map fun tag => "@" ++ tag.1 ++ " " ++ tag.2)))
    read = (TagMap.ofDescription description).insertAll written ∧
    read.description = description ∧
    (∀ name, read.all name =
      (if name = "description" then [description] else []) ++
        (written.filter fun tag => tag.1 = name).map Prod.snd) ∧
    ∀ name, name ∈ read.slots.names ↔ name = "description" ∨ ∃ tag ∈ written, tag.1 = name := by
  intro read
  let lines := written.map fun tag => CommentLine.tag tag.1 tag.2
  have readable : ∀ name body, CommentLine.tag name body ∈ lines → CommentLine.Readable name body := by
    intro name body listed
    obtain ⟨tag, inTags, same⟩ := List.mem_map.1 listed
    obtain ⟨rfl, rfl⟩ := CommentLine.tag.inj same
    obtain ⟨filled, other, letters⟩ := names tag inTags
    obtain ⟨clear, still⟩ := bodies tag inTags
    exact ⟨filled, letters, other, ⟨clear, introducers_eq_nil_iff.1 still⟩⟩
  have texts : lines.map CommentLine.text = written.map fun tag => "@" ++ tag.1 ++ " " ++ tag.2 := by
    rw [List.map_map]
    rfl
  have kept : lines.filterMap CommentLine.tag? = written := by
    rw [List.filterMap_map]
    exact List.filterMap_some
  have whole : read = (TagMap.ofDescription description).insertAll written := by
    have undone := CommentLine.tags_block_lines ⟨normalised, introducers_eq_nil_iff.1 quiet⟩ readable
    rwa [texts, kept] at undone
  have all : ∀ name, read.all name =
      (if name = "description" then [description] else []) ++
        (written.filter fun tag => tag.1 = name).map Prod.snd := by
    intro name
    rw [whole, TagMap.all_ofDescription_insertAll]
    rfl
  refine ⟨whole, ?_, all, ?_⟩
  · have first := all "description"
    rw [if_pos rfl, List.singleton_append] at first
    rw [TagMap.description, TagMap.descriptionName, TagMap.first?_eq_head?, first]
    rfl
  · intro name
    rw [TagMap.mem_names_iff, TagMap.contains_iff, all]
    by_cases same : name = "description"
    · simp [same]
    · simp [same]

/-- A body of several lines, with a star, a delimiter and at signs that begin no tag, and two bodies of one
name. -/
theorem tags_undo_block_of_marked_texts :
    let first := "\x7bstring\x7d to like a@b.c\n\n* a star and */ and \\@see\nor \x7b@inline\x7d"
    let read := tags (some (block ["Sends mail.", "@param " ++ first, "@api ", "@param second"]))
    read.description = "Sends mail." ∧ read.all "param" = [first, "second"] ∧ read.all "api" = [""] ∧
    ∀ name, name ∈ read.slots.names → name = "description" ∨ name = "param" ∨ name = "api" := by
  intro first
  let written := [("param", first), ("api", ""), ("param", "second")]
  have names : ∀ tag ∈ written, tag.1 ≠ "" ∧ tag.1 ≠ "return" ∧ ∀ c ∈ tag.1.toList, isNameChar c = true := by
    intro tag listed
    have clear : (written.all fun tag => tag.1 != "" && tag.1 != "return" && tag.1.toList.all isNameChar) =
        true := by decide +kernel
    simpa [and_assoc] using List.all_eq_true.1 clear tag listed
  obtain ⟨-, leading, all, keys⟩ := tags_undo_block "Sends mail." written
    (by decide +kernel) (by decide +kernel) names (by decide +kernel)
  refine ⟨leading, all "param", all "api", fun name listed => ?_⟩
  rcases (keys name).1 listed with rfl | ⟨tag, inTags, rfl⟩
  · exact .inl rfl
  · simp only [written, List.mem_cons, List.not_mem_nil, or_false] at inTags
    rcases inTags with rfl | rfl | rfl
    · exact .inr (.inl rfl)
    · exact .inr (.inr rfl)
    · exact .inr (.inl rfl)

end DocComment

end ClientStub
