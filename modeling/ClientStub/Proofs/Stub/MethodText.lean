import ClientStub.Proofs.Script.Literal
import ClientStub.Proofs.Template
import ClientStub.Proofs.Text.Trim
import ClientStub.Stub.Method

/-!
# The text of a method's stub

A stub is what its parts are when they are written one behind the other: the comment, the name, the parameters,
the remote call, and the output types if there are any. Texts of the method are put in as they are, whatever
they look like, for the templates are cut before anything is bound.
-/

namespace ClientStub.Layout

open ClientStub.Text Template.Segment

def methodSegments : List Template.Segment :=
  [token "DOC", verbatim "\nservice.", token "NAME", verbatim " = function (", token "ARGS",
    verbatim ") \x7b\n", token "PRELUDE", verbatim "    return ", token "TYPECAST", verbatim "(apiClient.",
    token "VERB", verbatim "(", token "CALL", verbatim "));\n\x7d;", verbatim "\n\n", token "TYPES",
    verbatim "\n"]

theorem pieces_builtinMethod :
    Template.pieces Templates.builtinMethod.toList = methodSegments.flatMap Template.Segment.pieces := by
  -- The template is given as a list of characters here, so that the pieces are computed from that.
  obtain ⟨template, source, cut⟩ : ∃ template, Templates.builtinMethod.toList = template ∧
      Template.pieces template = methodSegments.flatMap Template.Segment.pieces :=
    ⟨_, (String.toList_ofList : (String.ofList _).toList = _), by decide +kernel⟩
  rw [source, cut]

def outputTypesSegments : List Template.Segment :=
  [verbatim "/**\n * @typedef \x7bObject\x7d ", token "RESULT", verbatim "\n", token "PROPERTIES",
    verbatim "\n */\n\n/**\n * @typedef \x7bPromise<", token "RESULT", verbatim ">\x7d ", token "PROMISE",
    verbatim "\n */"]

theorem pieces_builtinOutputTypes :
    Template.pieces Templates.builtinOutputTypes.toList =
      outputTypesSegments.flatMap Template.Segment.pieces := by
  obtain ⟨template, source, cut⟩ : ∃ template, Templates.builtinOutputTypes.toList = template ∧
      Template.pieces template = outputTypesSegments.flatMap Template.Segment.pieces :=
    ⟨_, (String.toList_ofList : (String.ofList _).toList = _), by decide +kernel⟩
  rw [source, cut]

theorem render_builtinMethod (layout : Layout) (method : MethodDescriptor) (base : String) :
    Template.render Templates.builtinMethod (layout.methodBindings method base) =
      String.join [(layout.methodDoc method (typeName method)).comment, "\nservice.", method.clientName,
        " = function (", method.formalArguments, ") \x7b\n", prelude method, "    return ",
        (layout.methodDoc method (typeName method)).typecast, "(apiClient.", method.verb.name, "(",
        method.callArguments base, "));\n\x7d;", "\n\n",
        (layout.methodDoc method (typeName method)).outputTypes.getD "", "\n"] := by
  rw [Template.render_eq_join pieces_builtinMethod]
  simp only [methodSegments, List.map_cons, List.map_nil, Template.Segment.render, methodBindings,
    Entries.get?_ofList]
  rfl

theorem render_builtinOutputTypes (layout : Layout) (typeName : String) (declared : List Declaration) :
    Template.render Templates.builtinOutputTypes (layout.outputTypesBindings typeName declared) =
      String.join ["/**\n * @typedef \x7bObject\x7d ", resultName typeName, "\n",
        Text.join "\n" (declared.map layout.propertyLine),
        "\n */\n\n/**\n * @typedef \x7bPromise<", resultName typeName, ">\x7d ", promiseName typeName,
        "\n */"] := by
  rw [Template.render_eq_join pieces_builtinOutputTypes]
  simp only [outputTypesSegments, List.map_cons, List.map_nil, Template.Segment.render, outputTypesBindings,
    Entries.get?_ofList]
  rfl

/-- A text without white space at its end. -/
def Ended (text : String) : Prop := ∃ c ∈ text.toList.getLast?, isBlank c = false

theorem ended_append {ending : String} (ended : Ended ending) (front : String) : Ended (front ++ ending) := by
  obtain ⟨c, last, solid⟩ := ended
  refine ⟨c, ?_, solid⟩
  rw [Option.mem_def, String.toList_append, List.getLast?_append, Option.mem_def.1 last, Option.some_or]

theorem Ended.trimEnd_append {text ending : String} (ended : Ended text)
    (blank : isBlankText ending.toList = true) : String.ofList (trimEnd (text ++ ending).toList) = text := by
  obtain ⟨c, last, solid⟩ := ended
  have kept : ∀ d ∈ text.toList.getLast?, isBlank d = false := fun d other => Option.mem_unique last other ▸ solid
  rw [String.toList_append, trimEnd_append_of_blank blank, trimEnd_eq_self kept, String.ofList_toList]

/-- The comment and the function of a method. -/
def functionText (layout : Layout) (method : MethodDescriptor) (base : String) : String :=
  let doc := layout.methodDoc method (typeName method)
  doc.comment ++ "\nservice." ++ method.clientName ++ " = function (" ++ method.formalArguments ++ ") \x7b\n"
    ++ prelude method ++ "    return " ++ doc.typecast ++ "(apiClient." ++ method.verb.name ++ "("
    ++ method.callArguments base ++ "));\n\x7d;"

theorem ended_functionText (layout : Layout) (method : MethodDescriptor) (base : String) :
    Ended (layout.functionText method base) :=
  ended_append ⟨';', by decide, by decide⟩ _

theorem propertyLine_eq (layout : Layout) (field : Declaration) :
    layout.propertyLine field =
      DocComment.line ("@property \x7b" ++ layout.types.translate field.type ++ "\x7d " ++ field.name
        ++ described field.description) := by
  have opening : "@property \x7b" = "@property " ++ "\x7b" := by decide
  have closing : "\x7d " = "\x7d" ++ " " := by decide
  rw [propertyLine, braced, opening, closing]
  simp only [String.append_assoc]

/-- The types of the declared output: that of the result with one property for each field, and its promise. -/
theorem outputTypes?_eq (types : TypeTable) (tags : TagMap) (typeName : String) :
    (⟨.builtin, types⟩ : Layout).outputTypes? tags typeName =
      match fields tags "output" with
      | [] => none
      | declared =>
        some ("/**\n * @typedef \x7bObject\x7d " ++ typeName ++ "Result\n"
          ++ Text.join "\n" (declared.map fun field =>
              DocComment.line ("@property \x7b" ++ types.translate field.type ++ "\x7d " ++ field.name
                ++ described field.description))
          ++ "\n */\n\n/**\n * @typedef \x7bPromise<" ++ typeName ++ "Result>\x7d " ++ typeName
          ++ "Promise\n */") := by
  unfold outputTypes?
  cases fields tags "output" with
  | nil => rfl
  | cons field others =>
    have result : "Result\n" = "Result" ++ "\n" := by decide
    have promised : "Result>\x7d " = "Result" ++ ">\x7d " := by decide
    have ending : "Promise\n */" = "Promise" ++ "\n */" := by decide
    have lines := List.map_congr_left (l := field :: others) fun field _ =>
      propertyLine_eq ⟨.builtin, types⟩ field
    change some (Template.render Templates.builtinOutputTypes _) = _
    rw [render_builtinOutputTypes, lines, resultName, promiseName, result, promised, ending]
    simp only [String.join_cons, String.join_nil, String.append_assoc, String.append_empty]

theorem ended_outputTypes? {types : TypeTable} {tags : TagMap} {typeName block : String}
    (given : (⟨.builtin, types⟩ : Layout).outputTypes? tags typeName = some block) : Ended block := by
  rw [outputTypes?_eq] at given
  split at given
  · cases given
  · obtain rfl := Option.some.inj given
    exact ended_append ⟨'/', by decide, by decide⟩ _

/-- Behind the function stand the output types, if there are any. -/
theorem methodStub_eq_functionText (types : TypeTable) (method : MethodDescriptor) (base : String) :
    let layout : Layout := ⟨.builtin, types⟩
    layout.methodStub method base =
      layout.functionText method base ++
        match layout.outputTypes? method.tags (typeName method) with
        | none => ""
        | some block => "\n\n" ++ block := by
  intro layout
  have rendered : Template.render layout.templates.method (layout.methodBindings method base) =
      layout.functionText method base ++
        ("\n\n" ++ ((layout.outputTypes? method.tags (typeName method)).getD "" ++ "\n")) := by
    refine (render_builtinMethod layout method base).trans ?_
    unfold functionText
    simp only [String.join_cons, String.join_nil, String.append_assoc, String.append_empty]
    rfl
  rw [methodStub, rendered]
  cases given : layout.outputTypes? method.tags (typeName method) with
  | none =>
    rw [(ended_functionText layout method base).trimEnd_append (by decide), String.append_empty]
  | some block =>
    have ended : Ended (layout.functionText method base ++ ("\n\n" ++ block)) :=
      ended_append (ended_append (ended_outputTypes? given) _) _
    have parts : layout.functionText method base ++ ("\n\n" ++ (block ++ "\n")) =
        layout.functionText method base ++ ("\n\n" ++ block) ++ "\n" := by
      simp only [String.append_assoc]
    rw [Option.getD_some, parts, ended.trimEnd_append (by decide)]

theorem ended_methodStub (types : TypeTable) (method : MethodDescriptor) (base : String) :
    Ended ((⟨.builtin, types⟩ : Layout).methodStub method base) := by
  rw [methodStub_eq_functionText]
  cases given : (⟨.builtin, types⟩ : Layout).outputTypes? method.tags (typeName method) with
  | none => rw [String.append_empty]; exact ended_functionText _ method base
  | some block => exact ended_append (ended_append (ended_outputTypes? given) _) _

/-- A stub begins with the line that opens its comment. -/
theorem exists_methodStub_eq (types : TypeTable) (method : MethodDescriptor) (base : String) :
    ∃ rest, ((⟨.builtin, types⟩ : Layout).methodStub method base).toList = "/**".toList ++ '\n' :: rest := by
  rw [methodStub_eq_functionText, functionText, methodDoc, DocComment.block]
  simp only [String.append_assoc, String.toList_append]
  exact ⟨_, rfl⟩

/-- The stub of a method is its comment, its function and its output types, put together from what the
descriptor says. No text of the method is read as part of a template. The output types stand there if an output tag
names a field: the result has one property for each field with a name, in the order of the tags. -/
theorem methodStub_eq (types : TypeTable) (method : MethodDescriptor) (base : String) :
    let layout : Layout := ⟨.builtin, types⟩
    let typeName := Text.upperFirst method.clientName
    let doc := layout.methodDoc method typeName
    let declared := ((method.tags.all "output").map Declaration.ofField).filter fun field => field.name ≠ ""
    let property (field : Declaration) : String :=
      "@property \x7b" ++ (if field.type = "" then "*" else (types.names.get? field.type).getD field.type) ++ "\x7d "
        ++ field.name ++ (if field.description = "" then "" else " " ++ field.description)
    layout.methodStub method base =
      doc.comment ++ "\nservice." ++ method.clientName ++ " = function (" ++ method.formalArguments ++ ") \x7b\n"
        ++ (if method.query = [] then "" else "    queryParams = queryParams || \x7b\x7d;\n")
        ++ "    return " ++ doc.typecast ++ "(apiClient." ++ method.verb.name ++ "('"
        ++ String.ofList (Script.escapeQuotes (method.url base).toList) ++ "'"
        ++ (if method.remoteArguments = "" then "" else ", " ++ method.remoteArguments) ++ "));\n\x7d;"
        ++ (match doc.outputTypes with
          | none => ""
          | some block => "\n\n" ++ block) ∧
    doc.outputTypes =
      if declared = [] then none
      else
        some ("/**\n * @typedef \x7bObject\x7d " ++ typeName ++ "Result\n"
          ++ Text.join "\n" (declared.map fun field => DocComment.line (property field))
          ++ "\n */\n\n/**\n * @typedef \x7bPromise<" ++ typeName ++ "Result>\x7d " ++ typeName
          ++ "Promise\n */") := by
  intro layout typeName doc declared property
  constructor
  · have opening : "('" = "(" ++ "'" := by decide
    have absent : prelude method =
        if method.query = [] then "" else "    queryParams = queryParams || \x7b\x7d;\n" := by
      unfold prelude
      cases method.query with
      | nil => rfl
      | cons query others => rw [if_neg (by simp), if_neg (by simp)]; decide
    refine (methodStub_eq_functionText types method base).trans ?_
    rw [functionText, absent, MethodDescriptor.callArguments, MethodDescriptor.urlLiteral, opening]
    simp only [String.append_assoc]
    rfl
  · have named : fields method.tags "output" = declared := List.filter_congr fun field _ => by
      rw [bne, beq_eq_decide, decide_not]
    refine (outputTypes?_eq types method.tags typeName).trans ?_
    rw [named]
    cases declared with
    | nil => rfl
    | cons field others => rfl

/-- A method whose texts look like tokens, with an output that has a name between two that have none. -/
theorem methodStub_eq_of_token_texts :
    let tags : TagMap := ⟨[("output", .many ":int" "___NAME___:bool The ___DOC___" [""])]⟩
    let method : MethodDescriptor :=
      ⟨"getItem", "___TYPES___", .get, [⟨"id", some "int", false, some "'___CALL___'", "___ARGS___"⟩], [], tags⟩
    (⟨.builtin, .builtin⟩ : Layout).methodStub method "/it's" =
      "/**\n * @param \x7bnumber\x7d [id='___CALL___'] ___ARGS___\n * @returns \x7b___TYPES___Promise\x7d\n */\n" ++
      "service.___TYPES___ = function (id) \x7b\n" ++
      "    return /** @type \x7b___TYPES___Promise\x7d */ (apiClient.get('/it\\'s/item/:id', [id]));\n\x7d;\n\n" ++
      "/**\n * @typedef \x7bObject\x7d ___TYPES___Result\n" ++
      " * @property \x7bboolean\x7d ___NAME___ The ___DOC___\n */\n\n" ++
      "/**\n * @typedef \x7bPromise<___TYPES___Result>\x7d ___TYPES___Promise\n */" := by
  intro tags method
  obtain ⟨stub, outputs⟩ := methodStub_eq .builtin method "/it's"
  rw [outputs] at stub
  exact stub.trans (by decide +kernel)

end ClientStub.Layout
