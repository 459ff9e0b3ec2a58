import ClientStub.Config.Yaml
import ClientStub.Proofs.Entries
import ClientStub.Proofs.Yaml.Mapping

/-!
# Configurations in YAML, read back

The YAML text of a configuration is read as that configuration.
-/

namespace ClientStub.Config

open ClientStub.Yaml

theorem toList_toYaml (config : Config) :
    config.toYaml.toList = documentText config.textFields "classes" config.classes := by
  have name : scalarText 2 "classes" = "classes".toList := by decide
  rw [toYaml, String.toList_ofList, documentText, yamlClasses, mappingText, name]
  split <;> simp

/-- The document that a configuration is written as. -/
theorem document_toYaml (config : Config) : Document.ofText config.toYaml =
    ⟨some (.mapping .none (config.textFields.map entryNodes ++
      [(textNode "classes", .mapping .none (config.classes.map entryNodes))])), true⟩ := by
  rw [Document.ofText, toList_toYaml, textFields, tokens_documentText _ _ (by decide), ofTokens_documentTokens]

/-- A text is read whatever its style. -/
theorem textAs_textNode (wanted : Wanted) (text : String) : Read.textAs wanted (textNode text) = pure text := rfl

theorem texts_entryNodes {classes : Entries String} (sorted : classes.IsSorted) :
    Read.texts (.mapping .none (classes.map entryNodes)) = pure classes := by
  simp only [Read.texts, Read.entries, Read.follow, pure_bind]
  rw [Entries.mapM_map_of_inverse, pure_bind, Entries.ofList_eq_of_perm (.refl classes) sorted]
  exact fun _ => rfl

theorem ofYaml_toYaml {config : Config} (sorted : config.classes.IsSorted) : ofYaml config.toYaml = .ok config := by
  have read : Read.record "Config" ConfigFields.none yamlField ConfigFields.complete
      (.mapping .none (config.textFields.map entryNodes ++
        [(textNode "classes", .mapping .none (config.classes.map entryNodes))])) = pure config := by
    simp only [Read.record, textFields, List.map_cons, List.map_nil, List.cons_append, List.nil_append, Read.entries,
      Read.follow, List.foldlM_cons, List.foldlM_nil, entryNodes, textAs_textNode, pure_bind,
      yamlField, Read.once, ConfigFields.none, Read.text, texts_entryNodes sorted, map_pure, Option.isSome_none,
      Bool.false_eq_true, if_false]
    rfl
  rw [ofYaml, Yaml.ofText, document_toYaml]
  simp only [Option.getD_some, read]
  rfl

end ClientStub.Config
