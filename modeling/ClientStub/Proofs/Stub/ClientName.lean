import ClientStub.Proofs.DocBlock.Words
import ClientStub.Proofs.Stub.MethodText
import Mathlib.Data.List.TakeWhile

/-!
# The name that clients call

The generated function has the method's alias for its name. The body of a tag reaches to the next tag, over
words and lines, and the whole of it is taken for the alias. So the name is one word exactly if the alias is,
and then it stands in the function's first line and in the names of the output types as one word.
-/

namespace ClientStub

open ClientStub.Text ClientStub.DocBlock

/-- A text with something in it and without white space. -/
def IsWord (text : String) : Prop := text ≠ "" ∧ ∀ c ∈ text.toList, isBlank c = false

instance (text : String) : Decidable (IsWord text) :=
  have : Decidable (∀ c ∈ text.toList, isBlank c = false) := List.decidableBAll _ text.toList
  inferInstanceAs (Decidable (_ ∧ _))

theorem bare_of_solid {text : List Char} (solid : ∀ c ∈ text, isBlank c = false) : Bare text :=
  ⟨fun c first => solid c (List.mem_of_head? first), fun c last => solid c (List.mem_of_getLast? last)⟩

/-- A text without white space at its ends has none at all exactly if nothing stands behind its first word. -/
theorem splitWord_snd_eq_nil_iff {text : List Char} (bare : Bare text) :
    (splitWord text).2 = [] ↔ ∀ c ∈ text, isBlank c = false := by
  constructor
  · intro alone
    obtain ⟨front, gap, blankFront, blankGap, source, -⟩ := splitWord_source text
    have solid : ∀ c ∈ (splitWord text).1, isBlank c = false := fun c listed => isBlank_of_mem_word listed
    rw [alone, List.append_nil] at source
    have whole : text = (splitWord text).1 := by
      conv => lhs; rw [← bare.trim_eq, source]
      exact trim_eq_of_bare blankFront (bare_of_solid solid) blankGap
    rw [whole]
    exact solid
  · intro solid
    have begun : trimStart text = text := trimStart_eq_self bare.1
    have empty : text.dropWhile (fun c => !isBlank c) = [] :=
      List.dropWhile_eq_nil_iff.2 fun c listed => by simp [solid c listed]
    simp only [splitWord, begun, empty]
    rfl

/-- With its first character in upper case and an ending, a text is a word exactly if it was one. -/
theorem isWord_upperFirst_append_iff {text ending : String} (nonempty : text ≠ "") (bare : Bare text.toList)
    (ends : IsWord ending) : IsWord (upperFirst text ++ ending) ↔ IsWord text := by
  obtain ⟨c, rest, source⟩ := List.exists_cons_of_ne_nil (l := text.toList) (by simpa using nonempty)
  have first : isBlank c = false := bare.1 c (by rw [source]; rfl)
  have written : (upperFirst text ++ ending).toList = toUppercase c ++ rest ++ ending.toList := by
    rw [String.toList_append, upperFirst, source, String.toList_ofList]
  have filled : upperFirst text ++ ending ≠ "" := by
    intro empty
    have vacant := congrArg String.toList empty
    rw [String.toList_append] at vacant
    exact ends.1 (String.toList_injective (List.append_eq_nil_iff.1 vacant).2)
  unfold IsWord
  rw [written, source, and_iff_right filled, and_iff_right nonempty]
  simp only [List.forall_mem_append, List.forall_mem_cons]
  constructor
  · exact fun solid => ⟨first, solid.1.2⟩
  · exact fun solid => ⟨⟨fun d listed => isBlank_of_mem_toUppercase first listed, solid.2⟩, ends.2⟩

/-- The name is the first alias, unless that is empty or missing. -/
theorem clientName_cases (method : Method) (tags : TagMap) :
    (tags.first? "alias" = some (method.clientName tags) ∧ method.clientName tags ≠ "") ∨
      ((∀ renamed ∈ tags.first? "alias", renamed = "") ∧ method.clientName tags = method.name) := by
  unfold Method.clientName
  split
  · rename_i given
    exact .inr ⟨by simp [given], rfl⟩
  · rename_i renamed other given
    exact .inl ⟨given, other⟩
  · rename_i absent
    exact .inr ⟨by simp [absent], rfl⟩

/-- Whatever the block of a method says, the client's name for it has something in it and no white space at its
ends. -/
theorem bare_clientName {method : Method} (named : IsWord method.name) :
    method.describe.clientName ≠ "" ∧ Bare method.describe.clientName.toList := by
  rcases clientName_cases method (tags method.doc) with ⟨given, filled⟩ | ⟨-, own⟩
  · rw [TagMap.first?_eq_head?] at given
    exact ⟨filled, (normalised_of_mem_tags (List.mem_of_head? given)).ends⟩
  · change method.clientName (tags method.doc) ≠ "" ∧ Bare (method.clientName (tags method.doc)).toList
    rw [own]
    exact ⟨named.1, bare_of_solid named.2⟩

theorem isWord_clientName_iff {method : Method} (named : IsWord method.name) :
    IsWord method.describe.clientName ↔
      ∀ renamed ∈ method.describe.tags.first? "alias", (nextWord renamed).2 = "" := by
  obtain ⟨filled, bare⟩ : method.clientName (tags method.doc) ≠ "" ∧
      Bare (method.clientName (tags method.doc)).toList := bare_clientName named
  have behind (text : String) : (nextWord text).2 = "" ↔ (splitWord text.toList).2 = [] := by
    rw [nextWord, ← String.toList_inj, String.toList_ofList]
    rfl
  change IsWord (method.clientName (tags method.doc)) ↔
    ∀ renamed ∈ (tags method.doc).first? "alias", (nextWord renamed).2 = ""
  rcases clientName_cases method (tags method.doc) with ⟨given, -⟩ | ⟨empty, own⟩
  · simp only [given, Option.mem_def, Option.some.injEq, forall_eq']
    rw [behind, splitWord_snd_eq_nil_iff bare]
    exact and_iff_right filled
  · rw [own]
    refine iff_of_true named fun renamed given => ?_
    rw [empty renamed given]
    decide

theorem exists_line_of_head (types : TypeTable) {method : MethodDescriptor} (word : IsWord method.clientName)
    (base : String) :
    ∃ line ∈ lines ((⟨.builtin, types⟩ : Layout).methodStub method base).toList,
      ("service." ++ method.clientName ++ " = function (").toList <+: line := by
  have single : '\n' ∉ ("service." ++ method.clientName ++ " = function (").toList := by
    simp only [String.toList_append, List.mem_append, not_or]
    exact ⟨⟨by decide, fun feed => absurd (word.2 _ feed) (by decide)⟩, by decide⟩
  have ending : ("service." ++ method.clientName ++ " = function (").toList.getLast? ≠ some '\r' := by
    have last : " = function (".toList.getLast? = some '(' := by decide
    rw [String.toList_append, List.getLast?_append, last, Option.some_or]
    decide
  have filled : ("service." ++ method.clientName ++ " = function (").toList ≠ [] := by simp
  obtain ⟨behind, source⟩ : ∃ behind, ((⟨.builtin, types⟩ : Layout).methodStub method base).toList =
      ((⟨.builtin, types⟩ : Layout).methodDoc method (Layout.typeName method)).comment.toList ++
        '\n' :: (("service." ++ method.clientName ++ " = function (").toList ++ behind) := by
    rw [Layout.methodStub_eq_functionText, Layout.functionText]
    simp only [String.toList_append, List.append_assoc]
    exact ⟨_, rfl⟩
  rw [source]
  exact exists_line_of_isPrefix single filled ending _ behind

/-- The client's name of a method is never empty, and it is a single word exactly if nothing stands behind the
first word of the first alias. The names of the output types are single words exactly then, and then the
function's head stands in one line. -/
theorem clientName_is_word_iff (method : Method) (named : IsWord method.name) :
    let descriptor := method.describe
    let typeName := Layout.typeName descriptor
    descriptor.clientName ≠ "" ∧
    (IsWord descriptor.clientName ↔
      ∀ renamed ∈ descriptor.tags.first? "alias", (nextWord renamed).2 = "") ∧
    (IsWord (Layout.resultName typeName) ↔ IsWord descriptor.clientName) ∧
    (IsWord (Layout.promiseName typeName) ↔ IsWord descriptor.clientName) ∧
    (IsWord descriptor.clientName → ∀ types base,
      ∃ line ∈ lines ((⟨.builtin, types⟩ : Layout).methodStub descriptor base).toList,
        ("service." ++ descriptor.clientName ++ " = function (").toList <+: line) := by
  intro descriptor typeName
  obtain ⟨filled, bare⟩ := bare_clientName named
  exact ⟨filled, isWord_clientName_iff named, isWord_upperFirst_append_iff filled bare (by decide),
    isWord_upperFirst_append_iff filled bare (by decide), fun word types base => exists_line_of_head types word base⟩

/-- An alias of one word with white space and an empty line around it, and a second one that is not looked at. -/
theorem clientName_is_word_of_spaced_alias :
    let method : Method :=
      ⟨"getOne", false, some "/**\n * @alias\tßOne \n *\n * @api\n * @alias or two\n */", [⟨"id", none⟩]⟩
    let descriptor := method.describe
    IsWord method.name ∧ descriptor.clientName = "ßOne" ∧ IsWord descriptor.clientName ∧
    Layout.promiseName (Layout.typeName descriptor) = "SSOnePromise" ∧ IsWord "SSOnePromise" ∧
    ∃ line ∈ lines (Layout.builtin.methodStub descriptor "/api").toList,
      "service.ßOne = function (".toList <+: line := by
  intro method descriptor
  have named : IsWord method.name := by decide
  have renamed : descriptor.clientName = "ßOne" := by decide +kernel
  have promised : Layout.promiseName (Layout.typeName descriptor) = "SSOnePromise" := by decide +kernel
  obtain ⟨-, -, -, promise, head⟩ := clientName_is_word_iff method named
  have word : IsWord descriptor.clientName := by
    rw [renamed]
    decide
  have line := head word .builtin "/api"
  have typed := promise.2 word
  change IsWord (Layout.promiseName (Layout.typeName descriptor)) at typed
  rw [promised] at typed
  exact ⟨named, renamed, word, promised, typed, by rw [renamed] at line; exact line⟩

/-- An alias with a text of two lines behind its name: all of it is taken for the name. The names of the types
are no words, and no line of the stub has the function's head. -/
theorem clientName_of_described_alias :
    let method : Method :=
      ⟨"getOne", false, some "/**\n * @api\n * @alias fetchOne the newest\n * item\n * @output id:int\n */",
        [⟨"id", none⟩]⟩
    let descriptor := method.describe
    IsWord method.name ∧
    descriptor.clientName = "fetchOne the newest\nitem" ∧ ¬ IsWord descriptor.clientName ∧
    Layout.promiseName (Layout.typeName descriptor) = "FetchOne the newest\nitemPromise" ∧
    ∀ line ∈ lines (Layout.builtin.methodStub descriptor "/api").toList,
      ¬ ("service." ++ descriptor.clientName ++ " = function (").toList <+: line := by
  intro method descriptor
  have renamed : descriptor.clientName = "fetchOne the newest\nitem" := by decide +kernel
  refine ⟨by decide, renamed, by rw [renamed]; decide, by decide +kernel, fun line listed head => ?_⟩
  rw [renamed] at head
  exact lineFeed_not_mem_of_mem_lines listed (head.subset (by decide))

end ClientStub
