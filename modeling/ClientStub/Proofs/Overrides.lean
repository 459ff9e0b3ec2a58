import ClientStub.CommandLine
import ClientStub.Proofs.Entries
import ClientStub.Proofs.Text.ByteOrder

/-!
# Options beside a configuration file

Options that are given go before the values of the configuration file. Classes that are given stand in the place
of the classes of the file, and there the modules that the file maps classes to are lost with them: every class
registers with the default module then.
-/

namespace ClientStub

namespace CommandLine

open Generation

/-- The module that a class has by what the options and a configuration file say of it: the file's mapping, or
else the module that is given for classes without one, or else the module of the file. -/
def mappedModule (options : GenerateOptions) (config : Config) (className : String) : String :=
  ((config.classes.get? className).or options.defaultModule).getD config.defaultModule

variable {σ : Type} {options : GenerateOptions} {config : Config}

/-- A configuration file that is read gives its values, and the options go before them. -/
theorem resolveConfig_of_load (disk : Disk (StateM σ)) {path : String} {before next : σ}
    (given : options.config = some path) (loaded : Config.load disk path before = (.ok config, next)) :
    resolveConfig disk options before = (.ok (override options config), next) := by
  unfold resolveConfig
  rw [given]
  dsimp only [bind, StateT.bind]
  rw [loaded]
  rfl

/-- What a file with the text of a configuration gives. -/
theorem load_of_readText {tree : FileTree} {path text : String} (read : tree.readText path = .ok text)
    (held : (Config.ofTextFor path text).toOption = some config) :
    Config.load FileTree.disk path tree = (.ok config, tree) := by
  have opened : FileTree.disk.readText path tree = (.ok text, tree) := by
    simp [FileTree.disk, read]
  unfold Config.load
  dsimp only [bind, StateT.bind]
  rw [opened]
  cases source : Config.ofTextFor path text with
  | error error => simp [source, Except.toOption] at held
  | ok other =>
    rw [source] at held
    obtain rfl : other = config := Option.some.inj held
    simp only [source]
    rfl

theorem classNames_override_of_nil (empty : options.classes = []) (catalog : Catalog) :
    classNames (override options config) catalog = classNames config catalog := by
  simp [classNames, override, empty]

/-- Classes that are given are the ones that are generated, each once and in the order of their names. -/
theorem classNames_override_of_ne_nil (filled : options.classes ≠ []) (catalog : Catalog) :
    (classNames (override options config) catalog).Pairwise (fun a b => Text.octets a < Text.octets b) ∧
      ∀ name, name ∈ classNames (override options config) catalog ↔ name ∈ options.classes := by
  have held : ∀ name, name ∈ (override options config).classes.names ↔ name ∈ options.classes := by
    intro name
    simp [override, filled, Entries.mem_names_ofList_iff]
  have listed : classNames (override options config) catalog = (override options config).classes.names := by
    obtain ⟨name, first⟩ := List.exists_mem_of_ne_nil _ filled
    have present := (held name).2 first
    have full : (override options config).classes ≠ [] := by
      intro empty
      simp [empty, Entries.names] at present
    simp [classNames, full]
  rw [listed]
  refine ⟨Text.pairwise_octets_names ?_, held⟩
  simp only [override, List.isEmpty_iff, filled, if_false]
  exact Entries.isSorted_ofList _

theorem moduleFor_override_of_nil (empty : options.classes = []) (className : String) :
    (override options config).moduleFor className = mappedModule options config className := by
  simp only [Config.moduleFor, mappedModule, override, empty, List.isEmpty_nil, if_true]
  cases config.classes.get? className with
  | none => cases options.defaultModule <;> rfl
  | some module_ => rfl

/-- Where classes are given, the mappings of the file count for no class. -/
theorem moduleFor_override_of_ne_nil (filled : options.classes ≠ []) (className : String) :
    (override options config).moduleFor className = options.defaultModule.getD config.defaultModule := by
  simp only [Config.moduleFor, override, List.isEmpty_iff, filled, if_false, Entries.get?_ofList]
  -- Whichever of the pairs for a class counts, its module is the default one.
  cases found : (options.classes.map fun name =>
      (name, options.defaultModule.getD config.defaultModule)).reverse.lookup className with
  | none => rfl
  | some module_ =>
    have listed := Entries.mem_of_get? found
    simp only [List.mem_reverse, List.mem_map, Prod.mk.injEq] at listed
    obtain ⟨name, -, -, same⟩ := listed
    exact same.symm

/-- With a configuration file that can be read, each path and the endpoint are the ones that are given, or else
those of the file, and the classes are the ones that are given, or else those of the file. Every class has the
module of its mapping in the file, or else the one that is given, or else the default of the file, exactly when
no classes are given or the file maps no class to another module than the one without a mapping has. -/
theorem resolveConfig_keeps_mappings_iff (disk : Disk (StateM σ)) {path : String} {before next : σ}
    (given : options.config = some path) (loaded : Config.load disk path before = (.ok config, next)) :
    ∃ resolved, resolveConfig disk options before = (.ok resolved, next) ∧
      resolved.catalogPath = options.catalog.getD config.catalogPath ∧
      resolved.targetDir = options.targetDir.getD config.targetDir ∧
      resolved.endpointUrl = options.endpointUrl.getD config.endpointUrl ∧
      (options.classes = [] → ∀ catalog, classNames resolved catalog = classNames config catalog) ∧
      (options.classes ≠ [] → ∀ catalog,
        (classNames resolved catalog).Pairwise (fun a b => Text.octets a < Text.octets b) ∧
        ∀ name, name ∈ classNames resolved catalog ↔ name ∈ options.classes) ∧
      ((∀ className, resolved.moduleFor className = mappedModule options config className) ↔
        options.classes = [] ∨ ∀ className module_, config.classes.get? className = some module_ →
          module_ = options.defaultModule.getD config.defaultModule) := by
  refine ⟨override options config, resolveConfig_of_load disk given loaded, rfl, rfl, rfl,
    classNames_override_of_nil, classNames_override_of_ne_nil, ?_⟩
  by_cases empty : options.classes = []
  · simp [empty, moduleFor_override_of_nil]
  · simp only [empty, false_or, moduleFor_override_of_ne_nil empty]
    constructor
    · intro kept className module_ mapped
      have kept := kept className
      rw [mappedModule, mapped] at kept
      exact kept.symm
    · intro agree className
      unfold mappedModule
      cases mapped : config.classes.get? className with
      | none => cases options.defaultModule <;> rfl
      | some module_ => exact (agree className module_ mapped).symm

/-- A module that is given without classes counts for the classes that the file does not map. -/
theorem resolveConfig_keeps_mapping_of_items :
    let text := "catalog_path = \"c.json\"\ntarget_dir = \"out\"\nendpoint_url = \"/v1\"\n[classes]\nItems = \"stock\"\n"
    let tree : FileTree := ⟨[(["f.toml"], .file (.text text))]⟩
    let config : Config := ⟨"c.json", "out", "/v1", "app", [("Items", "stock")]⟩
    let options : GenerateOptions := ⟨some "f.toml", none, none, some "/v2", some "shop", []⟩
    Config.load FileTree.disk "f.toml" tree = (.ok config, tree) ∧
    ∃ resolved, resolveConfig FileTree.disk options tree = (.ok resolved, tree) ∧
      resolved.targetDir = "out" ∧ resolved.endpointUrl = "/v2" ∧
      (∀ catalog, classNames resolved catalog = ["Items"]) ∧
      resolved.moduleFor "Items" = "stock" ∧ resolved.moduleFor "Users" = "shop" := by
  intro text tree config options
  have loaded : Config.load FileTree.disk "f.toml" tree = (.ok config, tree) :=
    load_of_readText rfl (by decide +kernel)
  have given : options.config = some "f.toml" := rfl
  obtain ⟨resolved, resolves, -, target, endpoint, names, -, modules⟩ :=
    resolveConfig_keeps_mappings_iff FileTree.disk given loaded
  have kept := modules.2 (.inl rfl)
  refine ⟨loaded, resolved, resolves, target, endpoint, names rfl, ?_, ?_⟩
  · exact kept "Items"
  · exact kept "Users"

/-- A class that is given beside the file loses its mapping, here to the module for classes without one. -/
theorem given_class_loses_mapping :
    let text := "catalog_path = \"c.json\"\ntarget_dir = \"out\"\nendpoint_url = \"/v1\"\n[classes]\nItems = \"stock\"\n"
    let tree : FileTree := ⟨[(["f.toml"], .file (.text text))]⟩
    let config : Config := ⟨"c.json", "out", "/v1", "app", [("Items", "stock")]⟩
    let options : GenerateOptions := ⟨some "f.toml", none, none, none, some "shop", ["Items"]⟩
    Config.load FileTree.disk "f.toml" tree = (.ok config, tree) ∧
    ∃ resolved, resolveConfig FileTree.disk options tree = (.ok resolved, tree) ∧
      mappedModule options config "Items" = "stock" ∧ resolved.moduleFor "Items" = "shop" := by
  intro text tree config options
  have loaded : Config.load FileTree.disk "f.toml" tree = (.ok config, tree) :=
    load_of_readText rfl (by decide +kernel)
  exact ⟨loaded, _, resolveConfig_of_load FileTree.disk rfl loaded, rfl, rfl⟩

end CommandLine

end ClientStub
