import ClientStub.Proofs.Stub.Finished

/-!
# Blocks of lines

Lines that come in blocks with an empty line between each two. Taking away the empty lines that follow others
leaves the blocks apart, and takes none of their lines that are not blank.
-/

namespace ClientStub

open ClientStub.Text

/-- A line that is not blank. -/
def isSolid (line : List Char) : Bool := !isBlankText line

/-- The lines of a text that are not blank. -/
def solidLines (text : List Char) : List (List Char) := (lines text).filter isSolid

theorem ne_nil_of_isSolid {line : List Char} (solid : isSolid line = true) : line ≠ [] := by
  rintro rfl
  cases solid

theorem isSolid_of_mem {line : List Char} {c : Char} (listed : c ∈ line) (clear : isBlank c = false) :
    isSolid line = true := by
  rw [isSolid, Bool.not_eq_true', isBlankText, List.all_eq_false]
  exact ⟨c, listed, by simp [clear]⟩

/-- Lines of which the first and the last are not blank. -/
structure Framed (ls : List (List Char)) : Prop where
  first : ∃ line ∈ ls.head?, isSolid line = true
  last : ∃ line ∈ ls.getLast?, isSolid line = true

theorem Framed.ne_nil {ls : List (List Char)} (framed : Framed ls) : ls ≠ [] := by
  rintro rfl
  obtain ⟨line, listed, -⟩ := framed.first
  cases listed

/-- An empty line between lines that are not stays the only one there. -/
theorem squeezed_append_empty {above below : List (List Char)} (framedAbove : Framed above)
    (framedBelow : Framed below) :
    squeezed (above ++ [] :: below) = squeezed above ++ [] :: squeezed below := by
  obtain ⟨last, ending, solidLast⟩ := framedAbove.last
  obtain ⟨front, rfl⟩ := List.getLast?_eq_some_iff.1 ending
  obtain ⟨first, beginning, solidFirst⟩ := framedBelow.first
  obtain ⟨rest, rfl⟩ := List.head?_eq_some_iff.1 beginning
  have someLast := ne_nil_of_isSolid solidLast
  have someFirst := ne_nil_of_isSolid solidFirst
  have behind : squeezed ([] :: first :: rest) = [] :: squeezed (first :: rest) := by
    have kept := squeezed_append_cons someFirst [[]] rest
    rw [← squeezed_cons someFirst] at kept
    exact kept
  rw [List.append_assoc, List.singleton_append, squeezed_append_cons someLast, behind,
    squeezed_append_cons someLast, List.append_assoc]
  rfl

theorem Framed.squeezed {ls : List (List Char)} (framed : Framed ls) : Framed (squeezed ls) := by
  obtain ⟨first, beginning, solidFirst⟩ := framed.first
  obtain ⟨last, ending, solidLast⟩ := framed.last
  constructor
  · obtain ⟨rest, rfl⟩ := List.head?_eq_some_iff.1 beginning
    exact ⟨first, by rw [squeezed_cons (ne_nil_of_isSolid solidFirst)]; rfl, solidFirst⟩
  · obtain ⟨front, rfl⟩ := List.getLast?_eq_some_iff.1 ending
    refine ⟨last, ?_, solidLast⟩
    rw [squeezed_append_cons (ne_nil_of_isSolid solidLast)]
    exact List.getLast?_concat

/-- Lines that a first and a last one which are not blank stand around. -/
theorem framed_append {above between below : List (List Char)} (framedAbove : Framed above)
    (framedBelow : Framed below) : Framed (above ++ between ++ below) := by
  obtain ⟨first, beginning, solidFirst⟩ := framedAbove.first
  obtain ⟨last, ending, solidLast⟩ := framedBelow.last
  constructor
  · refine ⟨first, ?_, solidFirst⟩
    rw [Option.mem_def, List.append_assoc, List.head?_append, Option.mem_def.1 beginning, Option.some_or]
  · refine ⟨last, ?_, solidLast⟩
    rw [Option.mem_def, List.getLast?_append, Option.mem_def.1 ending, Option.some_or]

theorem framed_singleton {line : List Char} (solid : isSolid line = true) : Framed [line] :=
  ⟨⟨line, rfl, solid⟩, ⟨line, rfl, solid⟩⟩

theorem framed_of_forall {ls : List (List Char)} (filled : ls ≠ []) (solid : ∀ line ∈ ls, isSolid line = true) :
    Framed ls :=
  ⟨⟨_, List.head?_eq_some_head filled, solid _ (List.head_mem filled)⟩,
    ⟨_, List.getLast?_eq_some_getLast filled, solid _ (List.getLast_mem filled)⟩⟩

theorem squeezed_of_forall_isSolid {ls : List (List Char)} (solid : ∀ line ∈ ls, isSolid line = true) :
    squeezed ls = ls :=
  squeezed_of_forall_ne_nil fun line listed => ne_nil_of_isSolid (solid line listed)

theorem intercalate_cons (block : List (List Char)) (others : List (List (List Char))) :
    [[]].intercalate (block :: others) = block ++ others.flatMap ([] :: ·) := by
  induction others generalizing block with
  | nil => simp
  | cons other others ih =>
    rw [List.intercalate_cons_cons, ih, List.flatMap_cons, List.append_assoc, List.singleton_append,
      List.cons_append]

theorem intercalate_ne_nil {blocks : List (List (List Char))} (filled : blocks ≠ [])
    (begun : ∀ block ∈ blocks, block ≠ []) : [[]].intercalate blocks ≠ [] := by
  obtain ⟨first, others, rfl⟩ := List.exists_cons_of_ne_nil filled
  rw [intercalate_cons]
  exact List.append_ne_nil_of_left_ne_nil (begun first List.mem_cons_self) _

theorem framed_intercalate {blocks : List (List (List Char))} (filled : blocks ≠ [])
    (framed : ∀ block ∈ blocks, Framed block) : Framed ([[]].intercalate blocks) := by
  induction blocks, filled using List.recNeNil with
  | singleton block =>
    rw [List.intercalate_singleton]
    exact framed block List.mem_cons_self
  | cons block others filled ih =>
    rw [List.forall_mem_cons] at framed
    rw [List.intercalate_cons_of_ne_nil filled]
    exact framed_append framed.1 (ih framed.2)

/-- Blocks are squeezed one by one, and the empty lines between them stay. -/
theorem squeezed_intercalate {blocks : List (List (List Char))} (framed : ∀ block ∈ blocks, Framed block) :
    squeezed ([[]].intercalate blocks) = [[]].intercalate (blocks.map squeezed) := by
  induction blocks with
  | nil => rfl
  | cons block others ih =>
    rw [List.forall_mem_cons] at framed
    by_cases last : others = []
    · subst last
      simp
    · have behind := framed_intercalate last framed.2
      rw [List.map_cons, List.intercalate_cons_of_ne_nil last, List.intercalate_cons_of_ne_nil (by simpa using last),
        List.append_assoc, List.singleton_append, squeezed_append_empty framed.1 behind, ih framed.2,
        List.append_assoc, List.singleton_append]

theorem forall_mem_intercalate {test : List Char → Prop} (empty : test [])
    {blocks : List (List (List Char))} (each : ∀ block ∈ blocks, ∀ line ∈ block, test line) :
    ∀ line ∈ [[]].intercalate blocks, test line := by
  cases blocks with
  | nil => exact nofun
  | cons block others =>
    rw [List.forall_mem_cons] at each
    rw [intercalate_cons, List.forall_mem_append]
    refine ⟨each.1, fun line listed => ?_⟩
    obtain ⟨other, among, inOther⟩ := List.mem_flatMap.1 listed
    rcases List.mem_cons.1 inOther with rfl | inBlock
    · exact empty
    · exact each.2 other among line inBlock

theorem filter_intercalate (blocks : List (List (List Char))) :
    ([[]].intercalate blocks).filter isSolid = blocks.flatMap fun block => block.filter isSolid := by
  cases blocks with
  | nil => rfl
  | cons block others =>
    have empty : ¬ isSolid [] = true := by decide
    simp only [intercalate_cons, List.filter_append, List.filter_flatMap, List.filter_cons_of_neg empty,
      List.flatMap_cons]

/-- The lines of blocks with an empty line between each two, as a text has them: without blocks there is one
line, which is empty. -/
def blockLines (blocks : List (List (List Char))) : List (List Char) :=
  if blocks = [] then [[]] else [[]].intercalate blocks

theorem joinLines_blockLines (blocks : List (List (List Char))) :
    joinLines (blockLines blocks) = joinLines ([[]].intercalate blocks) := by
  unfold blockLines
  split
  · rename_i empty
    rw [empty]
    rfl
  · rfl

theorem blockLines_ne_nil {blocks : List (List (List Char))} (framed : ∀ block ∈ blocks, Framed block) :
    blockLines blocks ≠ [] := by
  unfold blockLines
  split
  · simp
  · rename_i filled
    exact (framed_intercalate filled framed).ne_nil

/-- Blocks between two lines that are not empty, and an empty line before them. -/
theorem squeezed_around_blockLines {above below : List (List Char)} {line : List Char}
    {blocks : List (List (List Char))} (framedAbove : Framed above) (framed : ∀ block ∈ blocks, Framed block)
    (filled : line ≠ []) :
    squeezed (above ++ [] :: (blockLines blocks ++ line :: below)) =
      squeezed above ++ [] :: ([[]].intercalate (blocks.map squeezed) ++ line :: squeezed below) := by
  have apart : squeezed (above ++ [] :: (blockLines blocks ++ line :: below)) =
      squeezed (above ++ [] :: blockLines blocks) ++ line :: squeezed below := by
    rw [← squeezed_append_cons filled, List.append_assoc, List.cons_append]
  rw [apart, blockLines]
  split
  · -- The empty line in the place of blocks stands behind an empty one, and goes.
    rename_i vacant
    obtain ⟨last, ending, solid⟩ := framedAbove.last
    obtain ⟨front, rfl⟩ := List.getLast?_eq_some_iff.1 ending
    have someLast := ne_nil_of_isSolid solid
    have pair : squeezed [[], []] = [[]] := rfl
    rw [vacant, List.append_assoc front, List.singleton_append, squeezed_append_cons someLast, pair,
      squeezed_append_cons someLast]
    simp [squeezed]
  · rename_i someBlocks
    rw [squeezed_append_empty framedAbove (framed_intercalate someBlocks framed), squeezed_intercalate framed,
      List.append_assoc, List.cons_append]

end ClientStub
