import ClientStub.Proofs.DocComment.Frame
import ClientStub.Proofs.Stub.MethodText

/-!
# The return type in a method's documentation

The type that a method returns stands in the last line of its comment, in the type assertion before the remote
call and in the declarations behind the function. All three come from the declared output: without a declared
field the method returns a plain promise and has no declarations, and with one it returns the promise that its
declarations declare. Fields without a name count for nothing.
-/

namespace ClientStub

open ClientStub.Text

namespace DocComment

theorem toList_join_lineFeed (texts : List String) :
    (Text.join "\n" texts).toList = joinLines (texts.map String.toList) := by
  induction texts with
  | nil => rfl
  | cons text others ih =>
    cases others with
    | nil => simp [Text.join, joinLines]
    | cons second others =>
      change (text ++ "\n" ++ Text.join "\n" (second :: others)).toList = _
      rw [List.map_cons, joinLines_cons (by simp), ← ih, String.toList_append, String.toList_append,
        List.append_assoc]
      rfl

theorem toList_join_line (texts : List String) :
    (Text.join "\n" (texts.map line)).toList = joinLines (starredLines texts) := by
  have filled (text : String) : (physicalLines text.toList).map starred ≠ [] := by
    simpa using physicalLines_ne_nil text.toList
  have lined (text : String) : (line text).toList = joinLines ((physicalLines text.toList).map starred) := by
    rw [line, String.toList_ofList]
  rw [toList_join_lineFeed, List.map_map, starredLines, joinLines_flatMap filled]
  simp only [Function.comp_def, lined]

/-- The lines between the line feeds are those of the texts, each behind its star. -/
theorem splitOn_join_line {texts : List String} (filled : texts ≠ []) :
    (Text.join "\n" (texts.map line)).toList.splitOn '\n' = starredLines texts := by
  obtain ⟨text, others, rfl⟩ := List.exists_cons_of_ne_nil filled
  rw [toList_join_line]
  refine splitOn_joinLines (fun physical listed => ?_) (by simp [starredLines, physicalLines_ne_nil])
  obtain ⟨source, -, inText⟩ := List.mem_flatMap.1 listed
  obtain ⟨bare, inLines, rfl⟩ := List.mem_map.1 inText
  exact lineFeed_not_mem_starred (lineFeed_not_mem_physicalLines inLines)

theorem star_isPrefix_starred (line : List Char) : " *".toList <+: starred line := by
  unfold starred
  split
  · exact List.prefix_rfl
  · exact ⟨' ' :: line, rfl⟩

/-- Every physical line begins with a star, also where a carriage return goes with the line feed behind it. -/
theorem star_isPrefix_of_mem_lines {texts : List String} (filled : texts ≠ []) {physical : List Char}
    (listed : physical ∈ lines (Text.join "\n" (texts.map line)).toList) : " *".toList <+: physical := by
  obtain ⟨part, inText, read⟩ := exists_part_of_mem_lines listed
  rw [splitOn_join_line filled] at inText
  obtain ⟨text, -, inLines⟩ := List.mem_flatMap.1 inText
  obtain ⟨bare, -, rfl⟩ := List.mem_map.1 inLines
  exact read.isPrefix (star_isPrefix_starred bare) (by decide)

end DocComment

namespace Layout

open DocComment

/-- Whether the body of a tag declares a field: it has a name. -/
def namesField (body : String) : Bool := (Declaration.ofField body).name != ""

theorem fields_eq (tags : TagMap) (name : String) :
    fields tags name = ((tags.all name).filter namesField).map Declaration.ofField := by
  unfold fields namesField
  rw [List.filter_map, Function.comp_def]

theorem isEmpty_fields_iff (tags : TagMap) (name : String) :
    (fields tags name).isEmpty = true ↔ ∀ body ∈ tags.all name, (Declaration.ofField body).name = "" := by
  simp [fields_eq, namesField]

/-- What the result type says of a field: its type, which is a star where none is declared, its name, and its
description. -/
def propertyText (types : TypeTable) (field : Declaration) : String :=
  "@property " ++ braced (if field.type = "" then "*" else (types.names.get? field.type).getD field.type) ++ " "
    ++ field.name ++ described field.description

theorem map_propertyLine (layout : Layout) (declared : List Declaration) :
    declared.map layout.propertyLine = (declared.map (propertyText layout.types)).map DocComment.line :=
  (List.map_map ..).symm

theorem outputTypesBindings_eq (layout : Layout) (typeName : String) (declared : List Declaration) :
    layout.outputTypesBindings typeName declared =
      [("PROMISE", promiseName typeName), ("PROPERTIES", Text.join "\n" (declared.map layout.propertyLine)),
        ("RESULT", resultName typeName)] :=
  rfl

/-- The documentation of a method that declares no field. -/
theorem methodDoc_of_no_fields (layout : Layout) {method : MethodDescriptor} (typeName : String)
    (empty : (fields method.tags "output").isEmpty = true) :
    returnType method.tags typeName = "Promise" ∧ (layout.methodDoc method typeName).typecast = "" ∧
      (layout.methodDoc method typeName).outputTypes = .none := by
  refine ⟨if_pos empty, if_pos empty, ?_⟩
  rw [methodDoc, outputTypes?, List.isEmpty_iff.1 empty]

/-- The documentation of a method that declares fields. -/
theorem methodDoc_of_fields (layout : Layout) {method : MethodDescriptor} (typeName : String)
    (filled : (fields method.tags "output").isEmpty = false) :
    returnType method.tags typeName = typeName ++ "Promise" ∧
      (layout.methodDoc method typeName).typecast = "/** @type " ++ braced (typeName ++ "Promise") ++ " */ " ∧
      (layout.methodDoc method typeName).outputTypes =
        .some (Template.render layout.templates.outputTypes
          (layout.outputTypesBindings typeName (fields method.tags "output"))) := by
  have declared : ¬ (fields method.tags "output").isEmpty = true := by simp [filled]
  refine ⟨if_neg declared, if_neg declared, ?_⟩
  rw [methodDoc, outputTypes?]
  cases listed : fields method.tags "output" with
  | nil => simp [listed] at filled
  | cons field others => rfl

/-- The last line of the comment, the type assertion and the declarations of a method agree. Where no field is
declared the type is `Promise` and there is nothing else; where one is, the type is the promise that the
declarations bind, and the properties of the result are one entry for each declared field in its order, framed
like a comment. Bodies that name no field change none of this. -/
theorem documentation_agrees_on_return_type (layout : Layout) (method : MethodDescriptor) (typeName : String) :
    let doc := layout.methodDoc method typeName
    let outputs := method.tags.all "output"
    let comment (type : String) : String :=
      DocComment.block (descriptionLines method.tags ++ layout.parameterLines method
        ++ layout.payloadFieldLines method.tags ++ layout.queryLines method
        ++ ["@returns " ++ braced type ++ described (returnDescription method.tags)])
    let promise := typeName ++ "Promise"
    let entries := (outputs.filter namesField).map fun body => propertyText layout.types (Declaration.ofField body)
    let properties := Text.join "\n" (entries.map DocComment.line)
    (((∀ body ∈ outputs, (Declaration.ofField body).name = "") ∧
        doc.comment = comment "Promise" ∧ doc.typecast = "" ∧ doc.outputTypes = none) ∨
      ((∃ body ∈ outputs, (Declaration.ofField body).name ≠ "") ∧
        doc.comment = comment promise ∧
        doc.typecast = "/** @type " ++ braced promise ++ " */ " ∧
        doc.outputTypes = some (Template.render layout.templates.outputTypes
          [("PROMISE", promise), ("PROPERTIES", properties), ("RESULT", typeName ++ "Result")]) ∧
        properties.toList.splitOn '\n' =
          entries.flatMap (fun entry => (physicalLines entry.toList).map starred) ∧
        ∀ line ∈ lines properties.toList, " *".toList <+: line)) ∧
    ∀ other : MethodDescriptor, (other.tags.all "output").filter namesField = outputs.filter namesField →
      returnType other.tags typeName = returnType method.tags typeName ∧
      (layout.methodDoc other typeName).typecast = doc.typecast ∧
      (layout.methodDoc other typeName).outputTypes = doc.outputTypes := by
  intro doc outputs comment promise entries properties
  have declared : fields method.tags "output" = (outputs.filter namesField).map Declaration.ofField :=
    fields_eq method.tags "output"
  have written : doc.comment = comment (returnType method.tags typeName) := rfl
  refine ⟨?_, fun other same => ?_⟩
  · cases nameless : (fields method.tags "output").isEmpty with
    | true =>
      obtain ⟨type, typecast, types⟩ := methodDoc_of_no_fields layout typeName nameless
      rw [type] at written
      exact .inl ⟨(isEmpty_fields_iff method.tags "output").1 nameless, written, typecast, types⟩
    | false =>
      obtain ⟨type, typecast, types⟩ := methodDoc_of_fields layout typeName nameless
      have bodies : ∃ body ∈ outputs, (Declaration.ofField body).name ≠ "" := by
        by_contra unnamed
        push Not at unnamed
        rw [(isEmpty_fields_iff method.tags "output").2 unnamed] at nameless
        cases nameless
      have filled : entries ≠ [] := by
        obtain ⟨body, listed, named⟩ := bodies
        exact List.ne_nil_of_mem (List.mem_map_of_mem (List.mem_filter.2 ⟨listed, bne_iff_ne.2 named⟩))
      have lined : (fields method.tags "output").map layout.propertyLine = entries.map DocComment.line := by
        have same : entries = (fields method.tags "output").map (propertyText layout.types) := by
          rw [declared, List.map_map]
          rfl
        rw [map_propertyLine, ← same]
      rw [type] at written
      rw [outputTypesBindings_eq, lined] at types
      exact .inr ⟨bodies, written, typecast, types, splitOn_join_line filled,
        fun line => star_isPrefix_of_mem_lines filled⟩
  · have fieldsSame : fields other.tags "output" = fields method.tags "output" := by
      rw [declared, fields_eq, same]
    refine ⟨?_, ?_, ?_⟩
    · rw [returnType, fieldsSame, returnType]
    · change typecast other.tags typeName = typecast method.tags typeName
      rw [typecast, fieldsSame, typecast]
    · change layout.outputTypes? other.tags typeName = layout.outputTypes? method.tags typeName
      rw [outputTypes?, fieldsSame, outputTypes?]

/-- A template of one's own, a type of two lines, and two methods that declare the same fields between others
without a name. -/
theorem documentation_agrees_on_return_type_of_items :
    let layout : Layout :=
      ⟨⟨"", "", "___RESULT___ of ___PROMISE___\n___PROPERTIES___"⟩, ⟨[("int", "whole\nnumber")]⟩⟩
    let declaring (outputs : TagSlot) : MethodDescriptor :=
      ⟨"getItem", "getItem", .get, [], [], ⟨[("output", outputs)]⟩⟩
    let method := declaring (.many "id:int The\nid" ":int" ["", "label"])
    let other := declaring (.many ": none" "id:int The\nid" ["label"])
    let doc := layout.methodDoc method "Item"
    doc.comment = "/**\n * @returns \x7bItemPromise\x7d\n */" ∧
    doc.typecast = "/** @type \x7bItemPromise\x7d */ " ∧
    doc.outputTypes = some ("ItemResult of ItemPromise\n * @property \x7bwhole\n * number\x7d id The\n * id\n" ++
      " * @property \x7b*\x7d label") ∧
    (layout.methodDoc other "Item").typecast = doc.typecast ∧
    (layout.methodDoc other "Item").outputTypes = doc.outputTypes := by
  intro layout declaring method other doc
  have same : (other.tags.all "output").filter namesField = (method.tags.all "output").filter namesField := by
    decide +kernel
  obtain ⟨-, unchanged⟩ := documentation_agrees_on_return_type layout method "Item"
  obtain ⟨-, typecast, types⟩ := unchanged other same
  exact ⟨by decide +kernel, by decide +kernel, by decide +kernel, typecast, types⟩

end Layout

end ClientStub
