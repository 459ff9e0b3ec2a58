import ClientStub.Catalog.Fields
import ClientStub.Yaml.Shape

/-!
# Catalogs in YAML

The YAML form of a catalog has the fields of the JSON form. Each record is a mapping.
-/

namespace ClientStub

open ClientStub.Yaml

/-- Collections in defaults of parameters lie inside seven others, which counts against the limit of 128. -/
def yamlDefaultNesting : Nat := 121

def parameterOfYaml : Node → Read Parameter :=
  Read.record "ParameterInfo" ParameterFields.none
    (fun held name node => match name with
      | "name" => Read.once "name" held.name (Read.text node) fun v => { held with name := some v }
      | "default" =>
        Read.once "default" held.default (Read.value yamlDefaultNesting node) fun v =>
          { held with default := some v }
      | _ => Read.skip held node)
    ParameterFields.complete

def methodOfYaml : Node → Read Method :=
  Read.record "MethodInfo" MethodFields.none
    (fun held name node => match name with
      | "name" => Read.once "name" held.name (Read.text node) fun v => { held with name := some v }
      | "static" =>
        Read.once "static" held.isStatic (Read.bool node) fun v => { held with isStatic := some v }
      | "doc" => Read.once "doc" held.doc (Read.optionalText node) fun v => { held with doc := some v }
      | "parameters" =>
        Read.once "parameters" held.parameters (Read.items parameterOfYaml node) fun v =>
          { held with parameters := some v }
      | _ => Read.skip held node)
    MethodFields.complete

def classOfYaml : Node → Read ClassEntry :=
  Read.record "ClassInfo" ClassFields.none
    (fun held name node => match name with
      | "name" => Read.once "name" held.name (Read.text node) fun v => { held with name := some v }
      | "doc" => Read.once "doc" held.doc (Read.optionalText node) fun v => { held with doc := some v }
      | "methods" =>
        Read.once "methods" held.methods (Read.items methodOfYaml node) fun v =>
          { held with methods := some v }
      | _ => Read.skip held node)
    ClassFields.complete

def catalogOfYaml : Node → Read Catalog :=
  Read.record "Catalog" CatalogFields.none
    (fun held name node => match name with
      | "classes" =>
        Read.once "classes" held.classes (Read.items classOfYaml node) fun v =>
          { held with classes := some v }
      | _ => Read.skip held node)
    CatalogFields.complete

/-- The catalog that a YAML text holds. -/
def Catalog.ofYaml (text : String) : Except Failure Catalog := Yaml.ofText catalogOfYaml text

end ClientStub
