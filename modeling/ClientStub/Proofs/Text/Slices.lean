import Mathlib.Data.String.Basic

/-!
# Parts of a text by byte offsets

A part of a text that is given by the offsets of its bytes exists only if no character is divided. Of three texts put
one behind the other, the middle one is the part between the size of the first and that of the first two.
-/

namespace ClientStub.Text

/-- The part of a text between two byte offsets. There is none unless both stand between characters and the first is
not behind the last. -/
def slice? (text : String) (first last : Nat) : Option String :=
  if bounds : ((⟨first⟩ : String.Pos.Raw).IsValid text ∧ (⟨last⟩ : String.Pos.Raw).IsValid text) ∧ first ≤ last then
    some (text.extract (text.pos ⟨first⟩ bounds.1.1) (text.pos ⟨last⟩ bounds.1.2))
  else none

theorem isValid_utf8ByteSize (front behind : String) :
    (⟨front.utf8ByteSize⟩ : String.Pos.Raw).IsValid (front ++ behind) :=
  String.Pos.Raw.isValid_iff_exists_append.2 ⟨front, behind, rfl, rfl⟩

theorem slice?_append (front middle behind : String) :
    slice? (front ++ middle ++ behind) front.utf8ByteSize (front.utf8ByteSize + middle.utf8ByteSize) =
      some middle := by
  have first : (⟨front.utf8ByteSize⟩ : String.Pos.Raw).IsValid (front ++ middle ++ behind) := by
    rw [String.append_assoc]
    exact isValid_utf8ByteSize front (middle ++ behind)
  have last : (⟨front.utf8ByteSize + middle.utf8ByteSize⟩ : String.Pos.Raw).IsValid (front ++ middle ++ behind) := by
    rw [← String.utf8ByteSize_append]
    exact isValid_utf8ByteSize (front ++ middle) behind
  have bytes : (front ++ middle ++ behind).toByteArray.extract front.toByteArray.size
      (front.toByteArray.size + middle.toByteArray.size) = middle.toByteArray := by
    rw [String.append_assoc, String.toByteArray_append]
    refine (ByteArray.extract_append_size_add (i := 0)).trans ?_
    rw [String.toByteArray_append]
    exact ByteArray.extract_append_eq_left rfl
  rw [slice?, dif_pos ⟨⟨first, last⟩, Nat.le_add_right _ _⟩]
  refine congrArg some (String.toByteArray_inj.1 ?_)
  rw [String.toByteArray_extract, String.offset_pos, String.offset_pos]
  exact bytes

theorem slice?_start (front behind : String) : slice? (front ++ behind) 0 front.utf8ByteSize = some front := by
  have part := slice?_append "" front behind
  rwa [String.empty_append, String.utf8ByteSize_empty, Nat.zero_add] at part

theorem slice?_end (front behind : String) :
    slice? (front ++ behind) front.utf8ByteSize (front ++ behind).utf8ByteSize = some behind := by
  have part := slice?_append front behind ""
  rwa [String.append_empty, ← String.utf8ByteSize_append] at part

example : slice? "é@ab" 2 4 = some "@a" ∧ slice? "é@ab" 1 4 = none := by decide

end ClientStub.Text
