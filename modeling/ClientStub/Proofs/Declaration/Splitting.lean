import ClientStub.Proofs.Declaration
import ClientStub.Proofs.Stub.ClientName
import ClientStub.Proofs.Text.Gaps

/-!
# Bodies taken apart and put together

Of its body a declaration loses the white space in front and nothing else: type, name and description stand there in
this order, with white space alone between them. And a body that is put together of two words and a text, with white
space behind each word, is taken apart into just these; so is the body of a field, where a colon stands between name
and type.
-/

namespace ClientStub

open ClientStub.Text ClientStub.DocBlock

namespace Text

/-- Behind the white space in front, a text is its first word, white space and the rest. -/
theorem trimStart_eq_splitWord (text : List Char) :
    ∃ gap, isBlankText gap = true ∧ trimStart text = (splitWord text).1 ++ gap ++ (splitWord text).2 := by
  obtain ⟨gap, blank, after⟩ := trimStart_source ((trimStart text).dropWhile fun c => !isBlank c)
  refine ⟨gap, blank, ?_⟩
  have parts := List.takeWhile_append_dropWhile (p := fun c => !isBlank c) (l := trimStart text)
  rw [splitWord, List.append_assoc, ← after, parts]

theorem head?_splitWord_snd (text : List Char) : ∀ c ∈ (splitWord text).2.head?, isBlank c = false :=
  head?_trimStart ((trimStart text).dropWhile fun c => !isBlank c)

theorem splitWord_fst_eq_nil_iff {text : List Char} : (splitWord text).1 = [] ↔ isBlankText text = true := by
  constructor
  · intro empty
    obtain ⟨gap, blank, source⟩ := trimStart_eq_splitWord text
    obtain ⟨front, blankFront, whole⟩ := trimStart_source text
    rw [empty, splitWord_eq_nil empty, List.nil_append, List.append_nil] at source
    rw [whole, source, isBlankText, List.all_append, Bool.and_eq_true]
    exact ⟨blankFront, blank⟩
  · intro blank
    have begun : trimStart text = [] := List.dropWhile_eq_nil_iff.2 (List.all_eq_true.1 blank)
    rw [splitWord, begun]
    rfl

/-- White space with something in it. -/
def IsGap (text : String) : Prop := text ≠ "" ∧ isBlankText text.toList = true

instance (text : String) : Decidable (IsGap text) := inferInstanceAs (Decidable (_ ∧ _))

theorem splitWord_append {word gap rest : List Char} (filled : word ≠ []) (solid : ∀ c ∈ word, isBlank c = false)
    (apart : gap ≠ []) (blank : isBlankText gap = true) (begun : ∀ c ∈ rest.head?, isBlank c = false) :
    splitWord (word ++ gap ++ rest) = (word, rest) := by
  have whole : trimStart (word ++ gap ++ rest) = word ++ (gap ++ rest) := by
    obtain ⟨c, more, rfl⟩ := List.exists_cons_of_ne_nil filled
    rw [List.append_assoc]
    refine trimStart_eq_self fun d first => ?_
    obtain rfl : c = d := by simpa using first
    exact solid c List.mem_cons_self
  have run : ∀ c ∈ word, (!isBlank c) = true := fun c listed => by rw [solid c listed]; rfl
  have stops : ∀ c ∈ (gap ++ rest).head?, (!isBlank c) = false := by
    obtain ⟨c, more, rfl⟩ := List.exists_cons_of_ne_nil apart
    intro d first
    obtain rfl : c = d := by simpa using first
    simpa using List.all_eq_true.1 blank c List.mem_cons_self
  have behind : trimStart (gap ++ rest) = rest := by
    rw [trimStart_append_of_blank blank, trimStart_eq_self begun]
  rw [splitWord, whole, takeWhile_run_append run stops, dropWhile_run_append run stops, behind]

theorem nextWord_append {word gap rest : String} (isWord : IsWord word) (isGap : IsGap gap)
    (begun : ∀ c ∈ rest.toList.head?, isBlank c = false) : nextWord (word ++ gap ++ rest) = (word, rest) := by
  have split : splitWord (word ++ gap ++ rest).toList = (word.toList, rest.toList) := by
    rw [String.toList_append, String.toList_append]
    exact splitWord_append (by simpa using isWord.1) isWord.2 (by simpa using isGap.1) isGap.2 begun
  rw [nextWord, split]
  simp only [String.ofList_toList]

/-- A mark that is not in the text before it is the first one. -/
theorem splitAtFirst_append {mark : Char} {front : List Char} (absent : mark ∉ front) (behind : List Char) :
    splitAtFirst mark (front ++ mark :: behind) = (front, behind) := by
  have run : ∀ c ∈ front, (c != mark) = true := fun c listed => bne_iff_ne.2 fun same => absent (same ▸ listed)
  have stops : ∀ c ∈ (mark :: behind).head?, (c != mark) = false := by simp
  rw [splitAtFirst, takeWhile_run_append run stops, dropWhile_run_append run stops]
  rfl

end Text

theorem IsWord.append {first second : String} (isWord : IsWord first) (solid : ∀ c ∈ second.toList, isBlank c = false) :
    IsWord (first ++ second) := by
  refine ⟨fun empty => isWord.1 (String.append_eq_empty_iff.1 empty).1, ?_⟩
  rw [String.toList_append, List.forall_mem_append]
  exact ⟨isWord.2, solid⟩

theorem IsWord.head? {text : String} (isWord : IsWord text) (behind : String) :
    ∀ c ∈ (text ++ behind).toList.head?, isBlank c = false := by
  obtain ⟨c, rest, source⟩ := List.exists_cons_of_ne_nil (l := text.toList) (by simpa using isWord.1)
  intro d first
  rw [String.toList_append, source] at first
  obtain rfl : c = d := by simpa using first
  exact isWord.2 c (source ▸ List.mem_cons_self)

namespace Declaration

variable {type name gap second description : String}

theorem ofTag_append (isType : IsWord type) (isGap : IsGap gap) (isName : IsWord name) (isSecond : IsGap second)
    (begun : ∀ c ∈ description.toList.head?, isBlank c = false) :
    ofTag (type ++ gap ++ name ++ second ++ description) = ⟨type, name, description⟩ := by
  have source : type ++ gap ++ name ++ second ++ description = type ++ gap ++ (name ++ second ++ description) := by
    simp only [String.append_assoc]
  have first : nextWord (type ++ gap ++ (name ++ second ++ description)) = (type, name ++ second ++ description) := by
    refine nextWord_append isType isGap ?_
    rw [String.append_assoc]
    exact isName.head? (second ++ description)
  rw [ofTag, source, first]
  simp only [nextWord_append isName isSecond begun]

theorem ofField_append (isType : IsWord type) (isName : IsWord name) (noColon : ':' ∉ name.toList)
    (isSecond : IsGap second) (begun : ∀ c ∈ description.toList.head?, isBlank c = false) :
    ofField (name ++ ":" ++ type ++ second ++ description) = ⟨type, name, description⟩ := by
  have head : IsWord (name ++ ":" ++ type) := (isName.append (show IsWord ":" by decide).2).append isType.2
  have parts : splitAtFirst ':' (name ++ ":" ++ type).toList = (name.toList, type.toList) := by
    have source : (name ++ ":" ++ type).toList = name.toList ++ ':' :: type.toList := by simp
    rw [source, splitAtFirst_append noColon]
  rw [ofField, nextWord_append head isSecond begun]
  simp only [parts, String.ofList_toList]

/-- Behind the white space in front, a body is the type, the name and the description of its declaration, with white
space between them. -/
theorem source_ofTag (body : String) :
    ∃ gap second : String, isBlankText gap.toList = true ∧ isBlankText second.toList = true ∧
      (ofTag body).type ++ gap ++ (ofTag body).name ++ second ++ (ofTag body).description =
        String.ofList (trimStart body.toList) := by
  obtain ⟨gap, blank, first⟩ := trimStart_eq_splitWord body.toList
  obtain ⟨second, blankSecond, rest⟩ := trimStart_eq_splitWord (splitWord body.toList).2
  rw [trimStart_eq_self (head?_splitWord_snd body.toList)] at rest
  refine ⟨String.ofList gap, String.ofList second, by rwa [String.toList_ofList], by rwa [String.toList_ofList], ?_⟩
  rw [first, rest, String.ofList_append, String.ofList_append, String.ofList_append, String.ofList_append]
  simp only [ofTag, nextWord, String.toList_ofList, String.append_assoc]

end Declaration

/-- A declaration is its body taken apart: two words and what follows them, with nothing lost but white space before
each. A name is missing exactly if the body has no second word, and a type exactly if it has none at all. What is put
together of two words and a text is taken apart into them, as the declaration of a parameter and, with a colon between
name and type, of a field. -/
theorem declaration_splits_body :
    (∀ body : String,
      let declaration := Declaration.ofTag body
      (∀ c ∈ declaration.type.toList, isBlank c = false) ∧
      (∀ c ∈ declaration.name.toList, isBlank c = false) ∧
      (∀ c ∈ declaration.description.toList.head?, isBlank c = false) ∧
      (∃ gap second : String, isBlankText gap.toList = true ∧ isBlankText second.toList = true ∧
        declaration.type ++ gap ++ declaration.name ++ second ++ declaration.description =
          String.ofList (trimStart body.toList)) ∧
      (declaration.name = "" ↔ (words body.toList).length < 2) ∧
      (declaration.type = "" ↔ isBlankText body.toList = true)) ∧
    ∀ type name second description : String, IsWord type → IsWord name → IsGap second →
      (∀ c ∈ description.toList.head?, isBlank c = false) →
      (∀ gap, IsGap gap →
        Declaration.ofTag (type ++ gap ++ name ++ second ++ description) = ⟨type, name, description⟩) ∧
      (':' ∉ name.toList →
        Declaration.ofField (name ++ ":" ++ type ++ second ++ description) = ⟨type, name, description⟩) := by
  constructor
  · intro body declaration
    have solid (text : String) : ∀ c ∈ (nextWord text).1.toList, isBlank c = false := by
      intro c listed
      rw [nextWord, String.toList_ofList] at listed
      exact isBlank_of_mem_word listed
    refine ⟨solid body, solid (nextWord body).2, ?_, Declaration.source_ofTag body, ?_, ?_⟩
    · change ∀ c ∈ (nextWord (nextWord body).2).2.toList.head?, isBlank c = false
      rw [nextWord, String.toList_ofList]
      exact head?_splitWord_snd _
    · rw [← not_le, ← name_ofTag_ne_empty_iff, ne_eq, not_not]
    · change (nextWord body).1 = "" ↔ _
      rw [nextWord, String.ofList_eq_empty_iff]
      exact splitWord_fst_eq_nil_iff
  · intro type name second description isType isName isSecond begun
    exact ⟨fun gap isGap => Declaration.ofTag_append isType isGap isName isSecond begun,
      fun noColon => Declaration.ofField_append isType isName noColon isSecond begun⟩

/-- A type alone, and parts with white space of several kinds between them and a colon in the type. -/
theorem declaration_splits_body_of_spaced_parts :
    let alone := Declaration.ofTag "\t int\n "
    (∀ c ∈ alone.type.toList, isBlank c = false) ∧
    (alone.name = "" ↔ (words "\t int\n ".toList).length < 2) ∧
    IsWord "a:int" ∧ IsWord "$id" ∧ IsGap "\t" ∧ IsGap "\u2003\n" ∧
    Declaration.ofTag ("a:int" ++ "\t" ++ "$id" ++ "\u2003\n" ++ "The id\n of it") =
      ⟨"a:int", "$id", "The id\n of it"⟩ ∧
    Declaration.ofField ("$id" ++ ":" ++ "a:int" ++ "\u2003\n" ++ "The id\n of it") =
      ⟨"a:int", "$id", "The id\n of it"⟩ := by
  intro alone
  have isType : IsWord "a:int" := by decide
  have isName : IsWord "$id" := by decide
  have isGap : IsGap "\t" := by decide
  have isSecond : IsGap "\u2003\n" := by decide
  have begun : ∀ c ∈ "The id\n of it".toList.head?, isBlank c = false :=
    IsWord.head? (show IsWord "The" by decide) " id\n of it"
  obtain ⟨apart, together⟩ := declaration_splits_body
  obtain ⟨solid, -, -, -, named, -⟩ := apart "\t int\n "
  obtain ⟨parameter, field⟩ := together "a:int" "$id" "\u2003\n" "The id\n of it" isType isName isSecond begun
  exact ⟨solid, named, isType, isName, isGap, isSecond, parameter "\t" isGap, field (by decide)⟩

end ClientStub
