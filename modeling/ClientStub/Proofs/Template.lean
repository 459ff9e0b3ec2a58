import ClientStub.Proofs.Text.LineFeed
import ClientStub.Template

/-!
# Templates in segments

A template is text with tokens between. Cut once into such segments, it is rendered by putting the segments'
own renderings one behind the other, and what a token is bound to is a segment that nothing looks into.
-/

namespace ClientStub.Template

/-- Text without tokens, or a token. -/
inductive Segment where
  | verbatim (text : String)
  | token (name : String)
  deriving DecidableEq, Repr

namespace Segment

def pieces : Segment → List Piece
  | verbatim text => text.toList.map .literal
  | token name => [.token name.toList]

def render (bindings : Entries String) : Segment → String
  | verbatim text => text
  | token name => (bindings.get? name).getD ("___" ++ name ++ "___")

theorem flatMap_render_pieces (bindings : Entries String) (segment : Segment) :
    segment.pieces.flatMap (Piece.render bindings) = (segment.render bindings).toList := by
  cases segment with
  | verbatim text =>
    rw [pieces, List.flatMap_map]
    exact List.flatMap_singleton' text.toList
  | token name =>
    rw [pieces, List.flatMap_singleton, Piece.render, String.ofList_toList, render]
    cases bindings.get? name with
    | none => simp [tokenText]
    | some text => rfl

end Segment

theorem render_eq_join {template : String} {segments : List Segment}
    (cut : pieces template.toList = segments.flatMap Segment.pieces) (bindings : Entries String) :
    render template bindings = String.join (segments.map (Segment.render bindings)) := by
  rw [← String.toList_inj, render, String.toList_ofList, cut, List.flatMap_assoc, String.toList_join,
    List.flatMap_map]
  exact List.flatMap_congr fun segment _ => segment.flatMap_render_pieces bindings

/-- The text of segments that make up a line. -/
def renderLine (bindings : Entries String) (line : List Segment) : List Char :=
  line.flatMap fun segment => (segment.render bindings).toList

/-- A template is rendered line by line, whatever its tokens are bound to. -/
theorem toList_render_eq_endLines {template : String} {ls : List (List Segment)}
    (cut : pieces template.toList = ls.flatMap fun line => line.flatMap Segment.pieces ++ [.literal '\n'])
    (bindings : Entries String) :
    (render template bindings).toList = Text.endLines (ls.map (renderLine bindings)) := by
  rw [render, String.toList_ofList, cut, List.flatMap_assoc, Text.endLines, List.flatMap_map]
  refine List.flatMap_congr fun line _ => ?_
  rw [List.flatMap_append, List.flatMap_assoc, renderLine]
  congr 1
  exact List.flatMap_congr fun segment _ => segment.flatMap_render_pieces bindings

end ClientStub.Template
