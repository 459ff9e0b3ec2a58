import ClientStub.Proofs.DocComment.Frame
import ClientStub.Proofs.Stub.Blocks
import ClientStub.Proofs.Template

/-!
# The text of a service file

What the service template is rendered as, line by line: an opening that names the class, the comment and the
head of the constructor, the stubs behind the constructor's margin with an empty line between each two, and the
registration.
-/

namespace ClientStub

open ClientStub.Text Template.Segment

theorem not_mem_serviceName {name : String} {c : Char} (fixed : c ∉ "Service".toList) (absent : c ∉ name.toList) :
    c ∉ (serviceName name).toList := by
  rw [serviceName, String.toList_append, String.toList_ofList, List.mem_append, not_or]
  refine ⟨?_, fixed⟩
  cases found : dropEnd? "Controller".toList name.toList with
  | none => exact absent
  | some rest =>
    rw [Option.getD_some]
    intro inRest
    exact absent (dropEnd?_source found ▸ List.mem_append_left _ inRest)

namespace Layout

def serviceSegments : List (List Template.Segment) :=
  [[verbatim "/*"],
    [verbatim " * THIS FILE IS GENERATED AUTOMATICALLY. DO NOT EDIT IT BY HAND."],
    [verbatim " * Source class: ", token "CLASS"],
    [verbatim " */"],
    [],
    [verbatim "/**"],
    [token "DESCRIPTION"],
    [verbatim " *"],
    [verbatim " * @param \x7bApiClient\x7d apiClient"],
    [verbatim " * @constructor"],
    [verbatim " */"],
    [verbatim "function ", token "CONSTRUCTOR", verbatim "(apiClient) \x7b"],
    [verbatim "    var service = this;"],
    [],
    [token "METHODS"],
    [verbatim "\x7d"],
    [],
    [verbatim "angular.module('", token "MODULE", verbatim "').service('", token "SERVICE",
      verbatim "', ['apiClient', ", token "CONSTRUCTOR", verbatim "]);"]]

theorem pieces_builtinService :
    Template.pieces Templates.builtinService.toList =
      serviceSegments.flatMap fun line => line.flatMap Template.Segment.pieces ++ [.literal '\n'] := by
  -- The template is given as a list of characters here, so that the pieces are computed from that.
  obtain ⟨template, source, cut⟩ : ∃ template, Templates.builtinService.toList = template ∧
      Template.pieces template =
        serviceSegments.flatMap fun line => line.flatMap Template.Segment.pieces ++ [.literal '\n'] :=
    ⟨_, (String.toList_ofList : (String.ofList _).toList = _), by decide +kernel⟩
  rw [source, cut]

/-- The lines that say where the file comes from. -/
def openingLines (className : String) : List (List Char) :=
  ["/*", " * THIS FILE IS GENERATED AUTOMATICALLY. DO NOT EDIT IT BY HAND.", " * Source class: " ++ className,
    " */"].map String.toList

/-- The constructor with its comment, up to where the stubs begin. -/
def constructorLines (description : List (List Char)) (service : String) : List (List Char) :=
  "/**".toList ::
    (description ++
      [" *", " * @param \x7bApiClient\x7d apiClient", " * @constructor", " */",
        "function " ++ constructorName service ++ "(apiClient) \x7b", "    var service = this;"].map String.toList)

def registrationLine (module_ service : String) : List Char :=
  ("angular.module('" ++ module_ ++ "').service('" ++ service ++ "', ['apiClient', " ++ constructorName service
    ++ "]);").toList

theorem toList_render_builtinService (layout : Layout) (className base : String) (descriptor : ClassDescriptor)
    (module_ : String) :
    (Template.render Templates.builtinService
        (layout.serviceBindings className base descriptor module_)).toList =
      endLines (openingLines className ++ [] ::
        (constructorLines [(DocComment.line descriptor.description).toList] (serviceName className) ++ [] ::
          [(layout.stubs descriptor base).toList, "\x7d".toList, [],
            registrationLine module_ (serviceName className)])) := by
  have bound : ["CLASS", "DESCRIPTION", "CONSTRUCTOR", "METHODS", "MODULE", "SERVICE"].map
      (layout.serviceBindings className base descriptor module_).get? =
      [some className, some (DocComment.line descriptor.description),
        some (constructorName (serviceName className)), some (layout.stubs descriptor base), some module_,
        some (serviceName className)] := by
    simp only [serviceBindings, List.map_cons, List.map_nil, Entries.get?_ofList]
    rfl
  simp only [List.map_cons, List.map_nil, List.cons.injEq, and_true] at bound
  obtain ⟨class_, description, constructor_, methods, moduleName, service⟩ := bound
  rw [Template.toList_render_eq_endLines pieces_builtinService]
  simp only [serviceSegments, List.map_cons, List.map_nil, Template.renderLine, List.flatMap_cons,
    List.flatMap_nil, Template.Segment.render, class_, description, constructor_, methods, moduleName, service,
    Option.getD_some, List.append_nil, openingLines, constructorLines, registrationLine, String.toList_append,
    List.cons_append, List.nil_append, List.append_assoc]

/-- The lines of a text behind the constructor's margin. -/
def indentedLines (text : String) : List (List Char) :=
  (lines text.toList).map fun line => if isBlankText line then [] else "    ".toList ++ line

/-- Texts with an empty line between each two. -/
theorem toList_join_eq_joinLines {α : Type} {text : α → String} {block : α → List (List Char)}
    (source : ∀ a, (text a).toList = joinLines (block a)) (items : List α) (begun : ∀ a ∈ items, block a ≠ []) :
    (Text.join "\n\n" (items.map text)).toList = joinLines ([[]].intercalate (items.map block)) := by
  induction items with
  | nil => rfl
  | cons a others ih =>
    rw [List.forall_mem_cons] at begun
    have behind := ih begun.2
    cases others with
    | nil => simp [Text.join, source]
    | cons b others =>
      have more : [[]].intercalate ((b :: others).map block) ≠ [] := by
        refine intercalate_ne_nil (by simp) ?_
        rw [List.forall_mem_map]
        exact begun.2
      rw [List.map_cons (f := block), List.intercalate_cons_of_ne_nil (by simp), List.append_assoc,
        List.singleton_append, joinLines_append begun.1 (by simp), joinLines_cons more, ← behind, ← source]
      change (text a ++ "\n\n" ++ Text.join "\n\n" ((b :: others).map text)).toList = _
      rw [String.toList_append, String.toList_append, List.append_assoc]
      rfl

end Layout

end ClientStub
