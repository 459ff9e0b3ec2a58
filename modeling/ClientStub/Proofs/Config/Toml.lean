import ClientStub.Config.Toml
import ClientStub.Proofs.Entries
import ClientStub.Proofs.Toml.Document

/-!
# Configurations in TOML, read back

The TOML text of a configuration is read as that configuration.
-/

namespace ClientStub.Config

open ClientStub.Toml

/-- The entries of the document that a configuration is written as. -/
def tomlEntries (config : Config) : Toml.Entries :=
  config.textFields.map (fun (key, value) => (key, .string value)) ++
    [("classes", .table .headed (config.classes.map fun (name, module_) => (name, .string module_)))]

/-- The lines of a configuration are its four texts, an empty line, the header of the classes, and the
classes. -/
theorem toList_toToml (config : Config) :
    config.toToml.toList = assignmentsText config.textFields ++
      '\n' :: '[' :: ("classes".toList ++ ']' :: '\n' :: (assignmentsText config.classes ++ [])) := by
  simp [toToml, assignmentsText]

theorem ofText?_toToml {config : Config} (distinct : config.classes.names.Nodup) :
    Toml.ofText? config.toToml = some config.tomlEntries := by
  have fields : (config.textFields.map Prod.fst).Nodup := by simp [textFields]
  have noMark : config.toToml.toList.head? ≠ some '\ufeff' := by
    rw [toList_toToml]
    exact of_decide_eq_true rfl
  have absent : (DocumentState.start.withStrings config.textFields).current.lookup
      (String.ofList "classes".toList) = none := by
    simp [DocumentState.start, DocumentState.withStrings, textFields, List.lookup_cons, List.lookup_nil]
  obtain ⟨spare, fuel⟩ : ∃ spare, config.toToml.toList.length + 1 =
      config.textFields.length + (config.classes.length + (spare + 1) + 1 + 1) := by
    have fieldsFit := length_le_length_assignmentsText config.textFields
    have classesFit := length_le_length_assignmentsText config.classes
    refine ⟨config.toToml.toList.length - config.textFields.length - config.classes.length - 2, ?_⟩
    rw [toList_toToml]
    simp only [List.length_append, List.length_cons, List.length_nil]
    omega
  have lineFeed (fuel : Nat) (s : DocumentState) (rest : List Char) :
      readLines? (fuel + 1) s ('\n' :: rest) = readLines? fuel s rest := rfl
  have ending (fuel : Nat) (s : DocumentState) : readLines? (fuel + 1) s [] = s.closed? := rfl
  simp only [Toml.ofText?, if_neg noMark]
  rw [fuel, toList_toToml, readLines?_assignmentsText fields (by simp [DocumentState.start]), lineFeed]
  refine (readLines?_header (by decide) (List.all_eq_true.1 rfl) absent _ _).trans ?_
  rw [readLines?_assignmentsText distinct (by simp), ending]
  simp [DocumentState.closed?, DocumentState.withStrings, DocumentState.start, Entries.changeAt,
    DocumentState.asTable, tomlEntries, textFields, List.lookup_cons, List.lookup_nil]

theorem tomlTexts_headed {classes : ClientStub.Entries String} (sorted : classes.IsSorted) :
    tomlTexts (.table .headed (classes.map fun (name, module_) => (name, .string module_))) = .ok classes := by
  rw [tomlTexts, Entries.mapM_map_of_inverse]
  · exact congrArg Except.ok (Entries.ofList_eq_of_perm (.refl classes) sorted)
  · exact fun _ => rfl

theorem ofToml_toToml {config : Config} (sorted : config.classes.IsSorted) :
    ofToml config.toToml = .ok config := by
  rw [ofToml, ofText?_toToml sorted.nodup_names]
  simp only [tomlEntries, textFields, List.map_cons, List.map_nil, List.cons_append, List.nil_append,
    List.foldlM_cons, List.foldlM_nil, tomlField, tomlText, tomlTexts_headed sorted]
  rfl

end ClientStub.Config
