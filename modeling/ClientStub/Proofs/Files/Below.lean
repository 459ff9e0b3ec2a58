import ClientStub.Proofs.Files.Tree

/-!
# Files below a directory

The path of a file below a directory leads to a place with the file's name, whatever the directory.
-/

namespace ClientStub

namespace Path

theorem parts_ne_nil (text : List Char) : parts text ≠ [] := by
  cases text with
  | nil => exact List.cons_ne_nil _ _
  | cons c rest =>
    rw [parts]
    split
    · exact List.cons_ne_nil _ _
    · split
      · exact List.cons_ne_nil _ _
      · exact List.cons_ne_nil _ _

theorem parts_of_not_mem {part : List Char} (absent : '/' ∉ part) : parts part = [part] := by
  induction part with
  | nil => rfl
  | cons c part ih =>
    rw [List.mem_cons, not_or] at absent
    rw [parts, if_neg (Ne.symm absent.1), ih absent.2]

theorem parts_append_slash (front rest : List Char) :
    parts (front ++ '/' :: rest) = parts front ++ parts rest := by
  induction front with
  | nil => simp [parts]
  | cons c front ih =>
    rw [List.cons_append, parts, parts, ih]
    split
    · rfl
    · obtain ⟨first, others, source⟩ := List.exists_cons_of_ne_nil (parts_ne_nil front)
      rw [source]
      rfl

/-- The last step of a path below a directory is the file's name. -/
theorem getLast?_steps_below (directory : String) {file : String} (named : file ≠ "")
    (absent : '/' ∉ file.toList) : (steps (below directory file)).getLast? = some file := by
  have kept : (parts file.toList).filter (fun part => !part.isEmpty) = [file.toList] := by
    rw [parts_of_not_mem absent]
    simpa using named
  have behind (front : List Char) (path : String) (source : path.toList = front ++ '/' :: file.toList) :
      (steps path).getLast? = some file := by
    rw [steps, source, parts_append_slash, List.filter_append, kept, List.map_append, List.map_singleton,
      String.ofList_toList, List.getLast?_concat]
  have relative : isAbsolute file = false := by
    refine decide_eq_false fun first => absent ?_
    exact List.mem_of_mem_head? first
  unfold below
  rw [relative, Bool.false_or]
  split
  · rw [steps, kept, List.map_singleton, String.ofList_toList]
    rfl
  · split
    · rename_i slash
      obtain ⟨front, source⟩ := List.getLast?_eq_some_iff.1 (of_decide_eq_true slash)
      exact behind front _ (by rw [String.toList_append, source, List.append_assoc]; rfl)
    · exact behind directory.toList _ (by rw [String.toList_append, String.toList_append, List.append_assoc]; rfl)

end Path

namespace FileTree

/-- A place has the name of the last step that leads to it. -/
theorem getLast?_of_place? {tree : FileTree} {path : String} {place : Place}
    (leads : tree.place? path = some place) : place.getLast? = (Path.steps path).getLast? := by
  obtain ⟨route, routed, directory, -, name, last, -, -, -, rfl⟩ :=
    target_eq_ok_iff.1 (place?_eq_some.1 leads)
  have source : route.last = (Path.steps path).getLast? := by
    unfold FileTree.route at routed
    split at routed
    · cases routed
    · split at routed
      · cases routed
      · split at routed
        · cases routed
        · cases routed
          rfl
  rw [← source, last, List.getLast?_concat]

end FileTree

end ClientStub
