import ClientStub.Proofs.Stub.ServiceText

/-!
# The head of a service file

A service file names its class in one of its first lines, so that the files of two classes are not the same.
-/

namespace ClientStub

open ClientStub.Text

/-- What stands before the name of the class. -/
def serviceHead : List Char :=
  "/*\n * THIS FILE IS GENERATED AUTOMATICALLY. DO NOT EDIT IT BY HAND.\n * Source class: ".toList

theorem serviceHead_eq : serviceHead =
    "/*".toList ++ '\n' :: (" * THIS FILE IS GENERATED AUTOMATICALLY. DO NOT EDIT IT BY HAND.".toList ++
      '\n' :: " * Source class: ".toList) := by
  have source : "/*\n * THIS FILE IS GENERATED AUTOMATICALLY. DO NOT EDIT IT BY HAND.\n * Source class: " =
      "/*" ++ ("\n" ++ (" * THIS FILE IS GENERATED AUTOMATICALLY. DO NOT EDIT IT BY HAND." ++
        ("\n" ++ " * Source class: "))) := by decide +kernel
  have feed : "\n".toList = ['\n'] := rfl
  refine (congrArg String.toList source).trans ?_
  simp only [String.toList_append, feed, List.singleton_append]

theorem shortenRuns_serviceHead (text : List Char) :
    shortenRuns 0 (serviceHead ++ text) = serviceHead ++ shortenRuns 0 text := by
  have closed : ∃ head, serviceHead = head ∧ head.getLast? = some ' ' ∧ shortenRuns 0 head = head :=
    ⟨_, String.toList_ofList, by decide +kernel⟩
  obtain ⟨head, source, last, kept⟩ := closed
  obtain ⟨front, rfl⟩ := List.getLast?_eq_some_iff.1 last
  rw [shortenRuns_append_cons (by decide)] at kept
  have same : shortenRuns 0 front = front := List.append_cancel_right kept
  rw [source, List.append_assoc, List.singleton_append, shortenRuns_append_cons (by decide), same,
    List.append_cons]

namespace Layout

/-- A service file begins with the head and the name of its class. -/
theorem toList_service {className : String} (absent : '\n' ∉ className.toList) (base : String)
    (descriptor : ClassDescriptor) (module_ : String) :
    ∃ more, (builtin.service className base descriptor module_).toList =
      serviceHead ++ (className.toList ++ '\n' :: more) := by
  obtain ⟨rest, rendered⟩ : ∃ rest, (Template.render Templates.builtinService
      (builtin.serviceBindings className base descriptor module_)).toList =
      serviceHead ++ (className.toList ++ '\n' :: ' ' :: '*' :: rest) := by
    have closing : " */".toList = [' ', '*', '/'] := rfl
    rw [toList_render_builtinService, endLines_append, openingLines, serviceHead_eq]
    simp only [List.map_cons, List.map_nil, endLines_cons, String.toList_append, closing, List.append_assoc,
      List.cons_append, List.nil_append]
    exact ⟨_, rfl⟩
  have template : builtin.templates.service = Templates.builtinService := rfl
  have short (rest : List Char) : shortenRuns 0 ('\n' :: ' ' :: '*' :: rest) =
      '\n' :: ' ' :: '*' :: shortenRuns 0 rest := rfl
  have solid (rest : List Char) :
      trimEnd (serviceHead ++ (className.toList ++ '\n' :: ' ' :: '*' :: rest)) =
        serviceHead ++ (className.toList ++ '\n' :: ' ' :: '*' :: trimEnd rest) := by
    have kept := trimEnd_append_cons (c := '*') (by decide) (serviceHead ++ className.toList ++ ['\n', ' ']) rest
    simpa only [List.append_assoc, List.cons_append, List.nil_append] using kept
  rw [service, finishedText, String.toList_ofList, template, rendered, shortenRuns_serviceHead,
    shortenRuns_append_of_not_mem absent, short, solid]
  simp only [List.append_assoc, List.cons_append]
  exact ⟨_, rfl⟩

/-- Classes with one service file have one name. -/
theorem className_eq_of_service_eq {a b baseA baseB moduleA moduleB : String}
    {descriptorA descriptorB : ClassDescriptor} (absentA : '\n' ∉ a.toList) (absentB : '\n' ∉ b.toList)
    (same : builtin.service a baseA descriptorA moduleA = builtin.service b baseB descriptorB moduleB) :
    a = b := by
  have firstLine {name : List Char} (absent : '\n' ∉ name) (more : List Char) :
      (name ++ '\n' :: more).takeWhile (· ≠ '\n') = name := by
    have inLine : ∀ c ∈ name, decide (c ≠ '\n') = true := fun c listed =>
      decide_eq_true fun feed => absent (feed ▸ listed)
    rw [List.takeWhile_append_of_pos inLine, List.takeWhile_cons_of_neg (by simp), List.append_nil]
  obtain ⟨moreA, sourceA⟩ := toList_service absentA baseA descriptorA moduleA
  obtain ⟨moreB, sourceB⟩ := toList_service absentB baseB descriptorB moduleB
  rw [same, sourceB] at sourceA
  have lines := List.append_cancel_left sourceA
  rw [← String.toList_inj, ← firstLine absentA moreA, ← lines, firstLine absentB moreB]

end Layout

end ClientStub
