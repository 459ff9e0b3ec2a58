import ClientStub.Config
import ClientStub.Yaml.Printer
import ClientStub.Yaml.Shape

/-!
# Configurations in YAML

The YAML form of a configuration, written and read: a mapping of its fields, with `classes` a mapping of
class names to modules. The default module and the classes may be left out.
-/

namespace ClientStub.Config

open ClientStub.Yaml

/-- The fields of a configuration in writing order. -/
def textFields (config : Config) : List (String × String) :=
  [("catalog_path", config.catalogPath), ("target_dir", config.targetDir),
    ("endpoint_url", config.endpointUrl), ("default_module", config.defaultModule)]

/-- The entries of the classes below their key, or an empty mapping on the key's line. -/
def yamlClasses (classes : Entries String) : List Char :=
  if classes.isEmpty then "classes: \x7b\x7d\n".toList
  else "classes:\n".toList ++ classes.flatMap fun (name, module_) => entryText 2 name module_

/-- The YAML text of a configuration. -/
def toYaml (config : Config) : String :=
  String.ofList
    (config.textFields.flatMap (fun (key, value) => entryText 0 key value) ++ yamlClasses config.classes)

def yamlField (held : ConfigFields) (name : String) (node : Node) : Read ConfigFields :=
  match name with
  | "catalog_path" =>
    Read.once name held.catalogPath (Read.text node) fun v => { held with catalogPath := some v }
  | "target_dir" => Read.once name held.targetDir (Read.text node) fun v => { held with targetDir := some v }
  | "endpoint_url" =>
    Read.once name held.endpointUrl (Read.text node) fun v => { held with endpointUrl := some v }
  | "default_module" =>
    Read.once name held.defaultModule (Read.text node) fun v => { held with defaultModule := some v }
  | "classes" => Read.once name held.classes (Read.texts node) fun v => { held with classes := some v }
  | _ => Read.skip held node

/-- The configuration that a YAML text holds. -/
def ofYaml (text : String) : Except Yaml.Failure Config :=
  Yaml.ofText (Read.record "Config" ConfigFields.none yamlField ConfigFields.complete) text

end ClientStub.Config
