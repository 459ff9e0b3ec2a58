import ClientStub.Proofs.DocComment.ReadBack

/-!
# What a block stores

The text of a block is stripped once, as a whole, and then cut at its introducers, anywhere inside its lines;
the parts are only tidied. That is enough: beside the line feeds of a part stands what stood beside them in
the text, and a cut leaves white space at the ends of the part alone. So every stored text is normalised, and
the description, which has no introducer, is a block that says nothing else.
-/

namespace ClientStub.DocBlock

open ClientStub.Text

theorem description_tags (block : Option String) :
    (tags block).description = leadingText (blockText block) := by
  rw [TagMap.description, TagMap.first?_eq_head?, all_tags, if_pos rfl]
  rfl

/-- A description is read as it stands, whatever the block has behind it. -/
theorem settled_description (block : Option String) : Settled (tags block).description.toList := by
  rw [description_tags]
  exact ⟨normalised_leadingText block, quiet_leadingText block⟩

theorem letters_of_name? {text : List Char} {name : String} (named : (Span.ofText text).name? = some name) :
    name ≠ "" ∧ ∀ c ∈ name.toList, isNameChar c = true := by
  refine ⟨fun empty => name?_ne_empty _ (empty ▸ named), ?_⟩
  unfold Span.name? at named
  split at named
  · cases named
  · split at named
    · obtain rfl := Option.some.inj named
      exact List.all_eq_true.1 (by decide)
    · obtain rfl := Option.some.inj named
      rw [String.toList_ofList]
      exact fun c listed => List.mem_takeWhile_imp listed

theorem letters_of_mem_names {block : Option String} {name : String}
    (listed : name ∈ (tags block).slots.names) (other : name ≠ TagMap.descriptionName) :
    name ≠ "" ∧ ∀ c ∈ name.toList, isNameChar c = true := by
  rw [TagMap.mem_names_iff, TagMap.contains_iff, all_tags_of_ne other] at listed
  obtain ⟨body, said⟩ := List.exists_mem_of_ne_nil _ listed
  obtain ⟨span, kept, -⟩ := List.mem_map.1 said
  obtain ⟨inText, named⟩ := List.mem_filter.1 kept
  obtain ⟨part, -, rfl⟩ := List.mem_map.1 inText
  exact letters_of_name? (by simpa using named)

/-- Every text that the map of a block holds is normalised: none of its lines begins or ends with white space,
neither its first nor its last line is blank, and tidying it once more changes nothing. Every name is
`description` or is made of the characters of names. The description has no introducer, so that a comment of
the description alone has the map that holds it and nothing else. -/
theorem stored_texts_are_normalised (block : Option String) :
    (∀ name, ∀ body ∈ (tags block).all name,
      (∀ line ∈ lines body.toList, Bare line) ∧
      (∀ line ∈ (lines body.toList).head?, line ≠ []) ∧
      (∀ line ∈ (lines body.toList).getLast?, line ≠ []) ∧
      tidy body.toList = body.toList) ∧
    (∀ name ∈ (tags block).slots.names,
      name = "description" ∨ name ≠ "" ∧ ∀ c ∈ name.toList, isNameChar c = true) ∧
    introducers (tags block).description.toList = [] ∧
    tags (some (DocComment.block [(tags block).description])) =
      .ofDescription (tags block).description := by
  have settled := settled_description block
  refine ⟨fun name body listed => ?_, fun name listed => ?_, ?_, ?_⟩
  · have normalised := normalised_of_mem_tags listed
    obtain ⟨first, last⟩ := normalised.outer_lines
    exact ⟨fun line => normalised.bare_of_mem_lines, first, last, tidy_of_normalised normalised⟩
  · by_cases same : name = "description"
    · exact .inl same
    · exact .inr (letters_of_mem_names listed same)
  · exact introducers_eq_nil_iff.2 settled.quiet
  · have readable : ∀ name body, CommentLine.tag name body ∈ [] → CommentLine.Readable name body := nofun
    have undone := CommentLine.tags_block_lines settled readable
    rw [List.map_nil, List.filterMap_nil] at undone
    exact undone

/-- A block with tabs, carriage returns and other white space beside its line feeds, with a tag in the middle of
a line and an at sign that ends the text of another. -/
theorem stored_texts_of_spaced_block :
    let block := some "/**\r\n\t* Lead \r\r\n *\n * \u2003more.\t@param\r\n *\n *\u00a0int $id \n\n * of it @ x\n */"
    let description := "Lead\n\nmore."
    (tags block).description = description ∧ introducers description.toList = [] ∧
    tags (some (DocComment.block [description])) = .ofDescription description ∧
    "int $id\n\nof it" ∈ (tags block).all "param" ∧
    (∀ line ∈ lines "int $id\n\nof it".toList, Bare line) ∧
    tidy "int $id\n\nof it".toList = "int $id\n\nof it".toList ∧
    "param" ∈ (tags block).slots.names ∧ ∀ c ∈ "param".toList, isNameChar c = true := by
  intro block description
  have said : (tags block).description = description := by decide +kernel
  have listed : "int $id\n\nof it" ∈ (tags block).all "param" := by decide +kernel
  have named : "param" ∈ (tags block).slots.names := by decide +kernel
  obtain ⟨texts, names, quiet, alone⟩ := stored_texts_are_normalised block
  obtain ⟨bare, -, -, tidied⟩ := texts "param" _ listed
  rw [said] at quiet alone
  refine ⟨said, quiet, alone, listed, bare, tidied, named, ?_⟩
  rcases names "param" named with same | ⟨-, letters⟩
  · exact absurd same (by decide)
  · exact letters

end ClientStub.DocBlock
