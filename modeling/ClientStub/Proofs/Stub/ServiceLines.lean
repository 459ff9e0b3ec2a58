import ClientStub.Proofs.Stub.CarriageReturns
import ClientStub.Proofs.Stub.ServiceText

/-!
# The lines of a service file

Finishing a service file takes empty lines away and nothing else, so that the file has every stub once, in the
order of the methods and line by line.
-/

namespace ClientStub

open ClientStub.Text

theorem isSolid_margin_append (line : List Char) : isSolid ("    ".toList ++ line) = isSolid line := by
  rw [isSolid, isBlankText, List.all_append]
  rfl

/-- A line of a stub in the service file. -/
def marginLine (line : List Char) : List Char := if isBlankText line then [] else "    ".toList ++ line

theorem marginLine_of_isSolid {line : List Char} (solid : isSolid line = true) :
    marginLine line = "    ".toList ++ line := by
  rw [isSolid, Bool.not_eq_true'] at solid
  rw [marginLine, solid]
  rfl

theorem isSolid_marginLine (line : List Char) : isSolid (marginLine line) = isSolid line := by
  unfold marginLine
  split
  · rename_i blank
    rw [isSolid, isSolid, blank]
    rfl
  · exact isSolid_margin_append line

/-- A line that nothing breaks for any reader of lines. -/
def Unbroken (line : List Char) : Prop := '\n' ∉ line ∧ '\r' ∉ line

instance (line : List Char) : Decidable (Unbroken line) := inferInstanceAs (Decidable (_ ∧ _))

theorem Unbroken.append {front behind : List Char} (unbrokenFront : Unbroken front)
    (unbrokenBehind : Unbroken behind) : Unbroken (front ++ behind) := by
  unfold Unbroken
  rw [List.mem_append, List.mem_append, not_or, not_or]
  exact ⟨⟨unbrokenFront.1, unbrokenBehind.1⟩, ⟨unbrokenFront.2, unbrokenBehind.2⟩⟩

theorem unbroken_of_mem_lines {text line : List Char} (clear : '\r' ∉ text) (listed : line ∈ lines text) :
    Unbroken line :=
  ⟨lineFeed_not_mem_of_mem_lines listed, fun inLine => clear ((isInfix_of_mem_lines listed).subset inLine)⟩

namespace Layout

theorem indentedLines_eq (text : String) : indentedLines text = (lines text.toList).map marginLine := rfl

theorem filter_indentedLines (text : String) :
    (indentedLines text).filter isSolid = (solidLines text.toList).map ("    ".toList ++ ·) := by
  have same : isSolid ∘ marginLine = isSolid := funext isSolid_marginLine
  rw [indentedLines_eq, List.filter_map, same]
  exact List.map_congr_left fun line listed => marginLine_of_isSolid (List.mem_filter.1 listed).2

theorem unbroken_indentedLines {text : String} (clear : Returnless text) :
    ∀ line ∈ indentedLines text, Unbroken line := by
  rw [indentedLines_eq, List.forall_mem_map]
  intro line listed
  unfold marginLine
  split
  · decide
  · exact Unbroken.append (by decide) (unbroken_of_mem_lines clear listed)

/-- A stub begins with its comment and ends with a bracket or its types, and so do its lines in the file. -/
theorem framed_indentedLines {types : TypeTable} {method : MethodDescriptor} {base : String}
    (clear : Returnless ((⟨.builtin, types⟩ : Layout).methodStub method base)) :
    Framed (indentedLines ((⟨.builtin, types⟩ : Layout).methodStub method base)) := by
  rw [indentedLines_eq]
  constructor
  · obtain ⟨rest, source⟩ := exists_methodStub_eq types method base
    refine ⟨marginLine "/**".toList, ?_, by rw [isSolid_marginLine]; decide⟩
    rw [source, lines_append_lineFeed (by decide) (by decide), List.map_cons]
    rfl
  · obtain ⟨c, last, solid⟩ := ended_methodStub types method base
    obtain ⟨front, source⟩ := List.getLast?_eq_some_iff.1 last
    have notFeed : c ≠ '\n' := by
      rintro rfl
      exact absurd solid (by decide)
    have noReturn : '\r' ∉ front := fun listed => clear (by rw [source]; exact List.mem_append_left _ listed)
    obtain ⟨above, line, split⟩ := exists_lines_concat noReturn notFeed
    refine ⟨marginLine (line ++ [c]), ?_, ?_⟩
    · rw [source, split, List.map_append]
      exact List.getLast?_concat
    · rw [isSolid_marginLine]
      exact isSolid_of_mem (List.mem_append_right _ List.mem_cons_self) solid

theorem lines_description {description : String} (clear : Returnless description) :
    lines (DocComment.line description).toList =
      (DocComment.physicalLines description.toList).map DocComment.starred := by
  have starred (line : List Char) : DocComment.starred line ≠ [] := by
    unfold DocComment.starred
    split
    · decide
    · simp
  rw [DocComment.line, String.toList_ofList]
  refine lines_joinLines ?_ ?_ ?_
  · rw [List.forall_mem_map]
    exact fun line _ => starred line
  · rw [List.forall_mem_map]
    exact fun line listed => DocComment.lineFeed_not_mem_starred (DocComment.lineFeed_not_mem_physicalLines listed)
  · rw [List.forall_mem_map]
    intro line listed
    have lacks := DocComment.lacks_physicalLines (by simp) (returnless_iff_lacks.1 clear) line listed
    exact lacks_singleton_iff.1 ((DocComment.lacks_starred_iff (by simp) (by decide) (by decide)).2 lacks)

theorem isSolid_of_mem_description {description : String} (clear : Returnless description) :
    ∀ line ∈ lines (DocComment.line description).toList, isSolid line = true := by
  rw [lines_description clear, List.forall_mem_map]
  intro line _
  have star : '*' ∈ DocComment.starred line := by
    unfold DocComment.starred
    split
    · decide
    · exact List.mem_append_left _ (by decide)
  exact isSolid_of_mem star (by decide)

theorem unbroken_of_mem_description {description : String} (clear : Returnless description) :
    ∀ line ∈ lines (DocComment.line description).toList, Unbroken line :=
  fun _ listed => unbroken_of_mem_lines (returnless_line clear) listed

variable {className module_ : String}

theorem isSolid_openingLines : ∀ line ∈ openingLines className, isSolid line = true := by
  simp only [openingLines, List.map_cons, List.map_nil, List.forall_mem_cons, String.toList_append]
  refine ⟨by decide, by decide, isSolid_of_mem (c := '*') ?_ (by decide), by decide, List.forall_mem_nil _⟩
  exact List.mem_append_left _ (by decide)

theorem unbroken_openingLines (unbroken : Unbroken className.toList) :
    ∀ line ∈ openingLines className, Unbroken line := by
  simp only [openingLines, List.map_cons, List.map_nil, List.forall_mem_cons, String.toList_append]
  exact ⟨by decide, by decide, Unbroken.append (by decide) unbroken, by decide, List.forall_mem_nil _⟩

theorem isSolid_constructorLines {description : List (List Char)} {service : String}
    (solid : ∀ line ∈ description, isSolid line = true) :
    ∀ line ∈ constructorLines description service, isSolid line = true := by
  simp only [constructorLines, List.map_cons, List.map_nil, List.forall_mem_cons, List.forall_mem_append,
    String.toList_append, List.append_assoc]
  refine ⟨by decide, solid, by decide, by decide, by decide, by decide, isSolid_of_mem (c := 'f') ?_ (by decide),
    by decide, List.forall_mem_nil _⟩
  exact List.mem_append_left _ (by decide)

theorem unbroken_constructorLines {description : List (List Char)} {service : String}
    (unbroken : ∀ line ∈ description, Unbroken line) (named : Unbroken service.toList) :
    ∀ line ∈ constructorLines description service, Unbroken line := by
  simp only [constructorLines, constructorName, List.map_cons, List.map_nil, List.forall_mem_cons,
    List.forall_mem_append, String.toList_append]
  refine ⟨by decide, unbroken, by decide, by decide, by decide, by decide, ?_, by decide, List.forall_mem_nil _⟩
  exact Unbroken.append (Unbroken.append (by decide) (named.append (by decide))) (by decide)

theorem registrationLine_eq_concat (module_ service : String) :
    ∃ front, registrationLine module_ service = front ++ [';'] := by
  have ending : "]);".toList = "])".toList ++ [';'] := by decide
  rw [registrationLine, String.toList_append, ending, ← List.append_assoc]
  exact ⟨_, rfl⟩

theorem isSolid_registrationLine (module_ service : String) : isSolid (registrationLine module_ service) = true := by
  obtain ⟨front, source⟩ := registrationLine_eq_concat module_ service
  exact isSolid_of_mem (c := ';') (by simp [source]) (by decide)

theorem unbroken_registrationLine {service : String} (unbroken : Unbroken module_.toList)
    (named : Unbroken service.toList) : Unbroken (registrationLine module_ service) := by
  simp only [registrationLine, constructorName, String.toList_append]
  exact (((((Unbroken.append (by decide) unbroken).append (by decide)).append named).append (by decide)).append
    (named.append (by decide))).append (by decide)

/-- The lines of a text in a service file: the margin and a line for each one that is not blank, and blank
lines between the first and the last of them. -/
structure IsBlock (text : String) (block : List (List Char)) : Prop extends Framed block where
  solid : block.filter isSolid = (solidLines text.toList).map ("    ".toList ++ ·)

theorem isBlock_squeezed {text : String} (framed : Framed (indentedLines text)) :
    IsBlock text (squeezed (indentedLines text)) where
  toFramed := framed.squeezed
  solid := by rw [filter_squeezed rfl, filter_indentedLines]

variable (types : TypeTable) (base : String) (descriptor : ClassDescriptor)

/-- The lines of the stubs before the text is finished. -/
def stubBlocks : List (List (List Char)) :=
  descriptor.methods.map fun method => indentedLines ((⟨.builtin, types⟩ : Layout).methodStub method base)

/-- The lines of a service file around those of its stubs. -/
def serviceLines (className module_ : String) (stubs : List (List Char)) : List (List Char) :=
  openingLines className ++ [] ::
    (constructorLines (lines (DocComment.line descriptor.description).toList) (serviceName className) ++ [] ::
      (stubs ++ ["\x7d".toList, [], registrationLine module_ (serviceName className)]))

variable {types base descriptor}

theorem toList_render_eq_serviceLines (clear : Returnless descriptor.description)
    (framed : ∀ block ∈ stubBlocks types base descriptor, Framed block) :
    (Template.render Templates.builtinService
        ((⟨.builtin, types⟩ : Layout).serviceBindings className base descriptor module_)).toList =
      endLines (serviceLines descriptor className module_ (blockLines (stubBlocks types base descriptor))) := by
  have stubs : ((⟨.builtin, types⟩ : Layout).stubs descriptor base).toList =
      joinLines (blockLines (stubBlocks types base descriptor)) := by
    rw [joinLines_blockLines]
    refine toList_join_eq_joinLines (fun _ => String.toList_ofList) descriptor.methods fun method listed => ?_
    exact (framed _ (List.mem_map_of_mem listed)).ne_nil
  have description : (DocComment.line descriptor.description).toList =
      joinLines (lines (DocComment.line descriptor.description).toList) := by
    rw [lines_description clear]
    exact String.toList_ofList
  have described : lines (DocComment.line descriptor.description).toList ≠ [] := by
    rw [lines_description clear]
    simpa using DocComment.physicalLines_ne_nil _
  rw [toList_render_builtinService, stubs, description]
  unfold serviceLines constructorLines
  simp only [endLines_append, endLines_cons, endLines_joinLines_cons described,
    endLines_joinLines_cons (blockLines_ne_nil framed), List.cons_append, List.nil_append, List.append_assoc]

theorem squeezed_serviceLines (clear : Returnless descriptor.description)
    (framed : ∀ block ∈ stubBlocks types base descriptor, Framed block) :
    squeezed (serviceLines descriptor className module_ (blockLines (stubBlocks types base descriptor))) =
      serviceLines descriptor className module_
        ([[]].intercalate ((stubBlocks types base descriptor).map squeezed)) := by
  have solidConstructor : ∀ line ∈ constructorLines (lines (DocComment.line descriptor.description).toList)
      (serviceName className), isSolid line = true := isSolid_constructorLines (isSolid_of_mem_description clear)
  have solidLast := isSolid_registrationLine module_ (serviceName className)
  have opening : Framed (openingLines className) := framed_of_forall (by simp [openingLines]) isSolid_openingLines
  have constructor_ := framed_of_forall (by simp [constructorLines]) solidConstructor
  have ending : squeezed [[], registrationLine module_ (serviceName className)] =
      [[], registrationLine module_ (serviceName className)] :=
    squeezed_append_cons (ne_nil_of_isSolid solidLast) [[]] []
  have behind := @framed_append _ ([] :: (blockLines (stubBlocks types base descriptor) ++ ["\x7d".toList, []])) _
    constructor_ (framed_singleton solidLast)
  simp only [List.append_assoc, List.cons_append, List.nil_append] at behind
  unfold serviceLines
  rw [squeezed_append_empty opening behind, squeezed_of_forall_isSolid isSolid_openingLines,
    squeezed_around_blockLines constructor_ framed (by decide), squeezed_of_forall_isSolid solidConstructor, ending]

theorem unbroken_serviceLines {stubs : List (List Char)} (unbroken : Unbroken className.toList)
    (unbrokenModule : Unbroken module_.toList) (clear : Returnless descriptor.description)
    (unbrokenStubs : ∀ line ∈ stubs, Unbroken line) :
    ∀ line ∈ serviceLines descriptor className module_ stubs, Unbroken line := by
  have service : Unbroken (serviceName className).toList :=
    ⟨not_mem_serviceName (by decide) unbroken.1, not_mem_serviceName (by decide) unbroken.2⟩
  have constructor_ := unbroken_constructorLines (unbroken_of_mem_description clear) service
  have empty : Unbroken [] := by decide
  simp only [serviceLines, List.forall_mem_append, List.forall_mem_cons]
  exact ⟨unbroken_openingLines unbroken, empty, constructor_, empty, unbrokenStubs, by decide, empty,
    unbroken_registrationLine unbrokenModule service, List.forall_mem_nil _⟩

theorem unbroken_blockLines {blocks : List (List (List Char))}
    (unbroken : ∀ block ∈ blocks, ∀ line ∈ block, Unbroken line) : ∀ line ∈ blockLines blocks, Unbroken line := by
  unfold blockLines
  split
  · simpa using (by decide : Unbroken [])
  · exact forall_mem_intercalate (by decide) unbroken

theorem serviceLines_eq_concat (stubs : List (List Char)) :
    ∃ above, serviceLines descriptor className module_ stubs =
      above ++ [registrationLine module_ (serviceName className)] := by
  have parts : ["\x7d".toList, [], registrationLine module_ (serviceName className)] =
      ["\x7d".toList, []] ++ [registrationLine module_ (serviceName className)] := rfl
  rw [serviceLines, parts]
  simp only [← List.append_assoc, ← List.cons_append]
  exact ⟨_, rfl⟩

/-- A service file is its squeezed lines, each ended by a line feed. -/
theorem toList_service_eq_endLines (clear : Returnless descriptor.description)
    (framed : ∀ block ∈ stubBlocks types base descriptor, Framed block)
    (unbroken : ∀ line ∈ serviceLines descriptor className module_
      (blockLines (stubBlocks types base descriptor)), Unbroken line) :
    ((⟨.builtin, types⟩ : Layout).service className base descriptor module_).toList =
        endLines (squeezed (serviceLines descriptor className module_
          (blockLines (stubBlocks types base descriptor)))) ∧
      Lacks "\n\n\n".toList ((⟨.builtin, types⟩ : Layout).service className base descriptor module_).toList ∧
      ∃ front, ((⟨.builtin, types⟩ : Layout).service className base descriptor module_).toList =
        front ++ [';', '\n'] := by
  have rendered := @toList_render_eq_serviceLines className module_ types base descriptor clear framed
  obtain ⟨above, lastLine⟩ := @serviceLines_eq_concat className module_ descriptor
    (blockLines (stubBlocks types base descriptor))
  obtain ⟨front, lastChar⟩ := registrationLine_eq_concat module_ (serviceName className)
  have ending : endLines (above ++ [front ++ [';']]) = endLines above ++ front ++ [';', '\n'] := by
    simp [endLines]
  obtain ⟨shortened, finished⟩ := finishedText_eq (c := ';') (by decide)
    (rendered.trans (by rw [lastLine, lastChar, ending]))
  obtain ⟨others, first⟩ : ∃ others, serviceLines descriptor className module_
      (blockLines (stubBlocks types base descriptor)) = "/*".toList :: others := ⟨_, rfl⟩
  refine ⟨?_, ?_, ⟨_, finished⟩⟩
  · refine shortened.trans ?_
    rw [rendered, first]
    exact shortenRuns_endLines (by decide) fun line listed => (unbroken line (first ▸ listed)).1
  · have lacks := lacks_shortenRuns (Nat.zero_le 2) (endLines (serviceLines descriptor className module_
      (blockLines (stubBlocks types base descriptor))))
    rw [← rendered, List.replicate_zero, List.nil_append, ← shortened] at lacks
    exact lacks

/-- The service file of a class without methods. -/
theorem toList_service_of_no_methods {description : String} (clear : Returnless description)
    (unbroken : Unbroken className.toList) (unbrokenModule : Unbroken module_.toList) :
    ((⟨.builtin, types⟩ : Layout).service className base ⟨description, []⟩ module_).toList =
      endLines (serviceLines ⟨description, []⟩ className module_ []) := by
  have framed : ∀ block ∈ stubBlocks types base ⟨description, []⟩, Framed block := List.forall_mem_nil _
  have whole : ∀ line ∈ serviceLines ⟨description, []⟩ className module_ [[]], Unbroken line :=
    unbroken_serviceLines unbroken unbrokenModule clear (by decide)
  refine (toList_service_eq_endLines clear framed whole).1.trans (congrArg endLines ?_)
  rw [squeezed_serviceLines clear framed]
  rfl

theorem filter_serviceLines (clear : Returnless descriptor.description) (stubs : List (List Char)) :
    (serviceLines descriptor className module_ stubs).filter isSolid =
      openingLines className ++
        constructorLines (lines (DocComment.line descriptor.description).toList) (serviceName className) ++
        stubs.filter isSolid ++ ["\x7d".toList, registrationLine module_ (serviceName className)] := by
  have opening : (openingLines className).filter isSolid = openingLines className :=
    List.filter_eq_self.2 isSolid_openingLines
  have constructor_ := List.filter_eq_self.2
    (@isSolid_constructorLines _ (serviceName className) (isSolid_of_mem_description clear))
  have empty : ¬ isSolid [] = true := by decide
  have closing : isSolid "\x7d".toList = true := by decide
  rw [serviceLines, List.filter_append, List.filter_cons_of_neg empty, List.filter_append,
    List.filter_cons_of_neg empty, List.filter_append, List.filter_cons_of_pos closing,
    List.filter_cons_of_neg empty, List.filter_cons_of_pos (isSolid_registrationLine module_ _), opening,
    constructor_, List.append_assoc, List.append_assoc]
  rfl

/-- What is left of the stubs' lines when the text is finished. -/
theorem forall₂_stubBlocks (clear : ∀ method ∈ descriptor.methods,
      Returnless ((⟨.builtin, types⟩ : Layout).methodStub method base)) :
    List.Forall₂ (fun method block => IsBlock ((⟨.builtin, types⟩ : Layout).methodStub method base) block)
      descriptor.methods ((stubBlocks types base descriptor).map squeezed) := by
  unfold stubBlocks
  rw [List.map_map, List.forall₂_map_right_iff, List.forall₂_same]
  intro method listed
  rw [Function.comp_apply]
  exact isBlock_squeezed (framed_indentedLines (clear method listed))

theorem filter_stubBlocks (clear : ∀ method ∈ descriptor.methods,
      Returnless ((⟨.builtin, types⟩ : Layout).methodStub method base)) :
    ([[]].intercalate ((stubBlocks types base descriptor).map squeezed)).filter isSolid =
      descriptor.methods.flatMap fun method =>
        (solidLines ((⟨.builtin, types⟩ : Layout).methodStub method base).toList).map ("    ".toList ++ ·) := by
  have blocks := forall₂_stubBlocks clear
  rw [filter_intercalate]
  generalize (stubBlocks types base descriptor).map squeezed = left at blocks ⊢
  generalize descriptor.methods = methods at blocks ⊢
  induction blocks with
  | nil => rfl
  | cons block _ ih => rw [List.flatMap_cons, List.flatMap_cons, block.solid, ih]

/-- A service file has its stubs in the order of the methods, each with all its lines behind a margin, and an
empty line between each two. What is around them does not depend on them. A carriage return at the end of a line
would be read as part of the line's ending, so the texts have none. -/
theorem service_holds_every_stub (types : TypeTable) (className base : String) (descriptor : ClassDescriptor)
    (module_ : String) (single : '\n' ∉ className.toList) (singleModule : '\n' ∉ module_.toList)
    (clear : ∀ text ∈ className :: module_ :: base :: descriptor.texts, Returnless text)
    (named : ∀ entry ∈ types.names, Returnless entry.2) :
    let layout : Layout := ⟨.builtin, types⟩
    let text := (layout.service className base descriptor module_).toList
    let constructor_ :=
      constructorLines (lines (DocComment.line descriptor.description).toList) (serviceName className)
    let registration := registrationLine module_ (serviceName className)
    solidLines text =
      openingLines className ++ constructor_ ++
        (descriptor.methods.flatMap fun method =>
          (solidLines (layout.methodStub method base).toList).map ("    ".toList ++ ·)) ++
        ["\x7d".toList, registration] ∧
    (∃ blocks, List.Forall₂ (fun method block => IsBlock (layout.methodStub method base) block)
        descriptor.methods blocks ∧
      lines text =
        openingLines className ++ [] :: (constructor_ ++ [] ::
          ([[]].intercalate blocks ++ ["\x7d".toList, [], registration]))) ∧
    Lacks "\n\n\n".toList text ∧
    ∃ front c, text = front ++ [c, '\n'] ∧ isBlank c = false := by
  intro layout text constructor_ registration
  simp only [ClassDescriptor.texts, List.forall_mem_cons] at clear
  obtain ⟨clearClass, clearModule, clearBase, clearDescription, clearMethods⟩ := clear
  have clearStub : ∀ method ∈ descriptor.methods, Returnless (layout.methodStub method base) := by
    intro method listed
    refine returnless_methodStub named (fun text inTexts => ?_) clearBase
    exact clearMethods text (List.mem_flatMap.2 ⟨method, listed, inTexts⟩)
  have framed : ∀ block ∈ stubBlocks types base descriptor, Framed block :=
    List.forall_mem_map.2 fun method listed => framed_indentedLines (clearStub method listed)
  have unbroken : ∀ block ∈ stubBlocks types base descriptor, ∀ line ∈ block, Unbroken line :=
    List.forall_mem_map.2 fun method listed => unbroken_indentedLines (clearStub method listed)
  have whole := unbroken_serviceLines ⟨single, clearClass⟩ ⟨singleModule, clearModule⟩ clearDescription
    (unbroken_blockLines unbroken)
  obtain ⟨source, lacks, front, finished⟩ := toList_service_eq_endLines clearDescription framed whole
  have kept : ∀ line ∈ squeezed (serviceLines descriptor className module_
      (blockLines (stubBlocks types base descriptor))), Unbroken line :=
    fun line listed => whole line ((List.destutter_sublist _ _).mem listed)
  have read : lines text = serviceLines descriptor className module_
      ([[]].intercalate ((stubBlocks types base descriptor).map squeezed)) := by
    refine (congrArg lines source).trans ?_
    rw [lines_endLines (fun line listed => (kept line listed).1) fun line listed => (kept line listed).2]
    exact squeezed_serviceLines clearDescription framed
  refine ⟨?_, ⟨(stubBlocks types base descriptor).map squeezed, ?_, read⟩, lacks, front, ';', finished, by decide⟩
  · rw [solidLines, read, filter_serviceLines clearDescription, filter_stubBlocks clearStub]
  · exact forall₂_stubBlocks clearStub

/-- Two stubs, the first with an empty line of its own before its types. -/
theorem service_holds_every_stub_of_items :
    let fetch : MethodDescriptor := ⟨"getItem", "getItem", .get, [], [], ⟨[("output", .single "id:int")]⟩⟩
    let store : MethodDescriptor := ⟨"putItem", "putItem", .put, [⟨"id", none, true, none, ""⟩], [], ⟨[]⟩⟩
    let text := (builtin.service "ItemsController" "/api" ⟨"Items.", [fetch, store]⟩ "app").toList
    Lacks "\n\n\n".toList text ∧
    ∃ first second, IsBlock (builtin.methodStub fetch "/api") first ∧
      IsBlock (builtin.methodStub store "/api") second ∧
      lines text =
        openingLines "ItemsController" ++ [] :: (constructorLines [" * Items.".toList] "ItemsService" ++ [] ::
          (first ++ [] :: second ++
            ["\x7d".toList, [],
              "angular.module('app').service('ItemsService', ['apiClient', ItemsServiceImpl]);".toList])) := by
  intro fetch store text
  obtain ⟨-, ⟨blocks, related, read⟩, lacks, -⟩ := service_holds_every_stub .builtin "ItemsController" "/api"
    ⟨"Items.", [fetch, store]⟩ "app" (by decide) (by decide) (by decide) (by decide)
  obtain ⟨first, others, isFirst, behind, rfl⟩ := List.forall₂_cons_left_iff.1 related
  obtain ⟨second, others, isSecond, nothing, rfl⟩ := List.forall₂_cons_left_iff.1 behind
  obtain rfl := List.forall₂_nil_left_iff.1 nothing
  have description : lines (DocComment.line "Items.").toList = [" * Items.".toList] := by decide
  have named : serviceName "ItemsController" = "ItemsService" := by decide
  have registration : registrationLine "app" "ItemsService" =
      "angular.module('app').service('ItemsService', ['apiClient', ItemsServiceImpl]);".toList := by decide +kernel
  have between : [[]].intercalate [first, second] = first ++ [] :: second := by
    rw [List.intercalate_cons_cons, List.intercalate_singleton, List.append_assoc, List.singleton_append]
  refine ⟨lacks, first, second, isFirst, isSecond, read.trans ?_⟩
  rw [description, named, between, registration]

end Layout

end ClientStub
