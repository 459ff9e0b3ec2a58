import ClientStub.Config.File
import ClientStub.Generation
import ClientStub.Json.Printer

/-!
# The command line

The two commands of the program and their options. `generate` writes the services of a catalog; `inspect`
prints the descriptor of one class. What a command prints and its exit code are returned.
-/

namespace ClientStub.CommandLine

/-- An option with a value. A path may not be empty, and only some options may be given more than once. -/
structure OptionRule where
  name : String
  isPath : Bool
  repeats : Bool
  deriving DecidableEq, Repr

/-- Why arguments give no command: they are wrong, or they ask for help or for the version. -/
inductive Stop where
  | misuse
  | help
  | version
  deriving DecidableEq, Repr

/-- Whether an argument is an option or a row of them; a single dash is a value. -/
def isFlag (argument : String) : Bool := argument.toList.head? = some '-' && argument ≠ "-"

/-- Adds the value of an option to those before it. -/
def addValue (rules : List OptionRule) (values : List (String × String)) (name value : String) :
    Except Stop (List (String × String)) :=
  match rules.find? fun rule => rule.name == name with
  | none => .error .misuse
  | some rule =>
    if (!rule.repeats && (values.lookup name).isSome) || (rule.isPath && value = "") then .error .misuse
    else .ok (values ++ [(name, value)])

/-- The name of a long option and the value that it carries behind an equals sign. -/
def longOption? (argument : String) : Option (String × Option String) :=
  match argument.toList with
  | '-' :: '-' :: rest =>
    match rest.span (· ≠ '=') with
    | (name, '=' :: value) => some (String.ofList name, some (String.ofList value))
    | (name, _) => some (String.ofList name, none)
  | _ => none

/-- Reads options with their values, in the order given. -/
def readOptions (rules : List OptionRule) :
    List (String × String) → List String → Except Stop (List (String × String))
  | values, [] => .ok values
  | values, argument :: rest =>
    if argument = "--" then (if rest.isEmpty then .ok values else .error .misuse)
    else if "-h".toList.isPrefixOf argument.toList || argument = "--help" then .error .help
    else
      match longOption? argument with
      | none => .error .misuse
      | some (name, some value) =>
        match addValue rules values name value with
        | .ok values => readOptions rules values rest
        | .error stop => .error stop
      | some (name, none) =>
        match rest with
        | [] => .error .misuse
        | value :: rest =>
          if isFlag value then .error .misuse
          else match addValue rules values name value with
            | .ok values => readOptions rules values rest
            | .error stop => .error stop

/-- What `generate` is asked for. Options that are given go before the configuration file. -/
structure GenerateOptions where
  config : Option String
  catalog : Option String
  targetDir : Option String
  endpointUrl : Option String
  defaultModule : Option String
  classes : List String
  deriving DecidableEq, Repr

inductive Command where
  | generate (options : GenerateOptions)
  | inspect (catalog className : String)
  deriving DecidableEq, Repr

def generateRules : List OptionRule :=
  [⟨"config", true, false⟩, ⟨"catalog", true, false⟩, ⟨"target-dir", true, false⟩,
    ⟨"endpoint-url", false, false⟩, ⟨"class", false, true⟩, ⟨"module", false, false⟩]

def inspectRules : List OptionRule := [⟨"catalog", true, false⟩, ⟨"class", false, false⟩]

def readGenerate (arguments : List String) : Except Stop Command := do
  let values ← readOptions generateRules [] arguments
  let classes := (values.filter fun (name, _) => name == "class").map Prod.snd
  pure (.generate
    ⟨values.lookup "config", values.lookup "catalog", values.lookup "target-dir",
      values.lookup "endpoint-url", values.lookup "module", classes⟩)

def readInspect (arguments : List String) : Except Stop Command := do
  let values ← readOptions inspectRules [] arguments
  match values.lookup "catalog", values.lookup "class" with
  | some catalog, some className => pure (.inspect catalog className)
  | _, _ => .error .misuse

/-- Reads the names behind the command `help`: none, or that of one command. -/
def readHelp (arguments : List String) : Stop :=
  match arguments with
  | [] => .help
  | [name] => if ["generate", "inspect", "help"].contains name then .help else .misuse
  | _ => .misuse

/-- The command that arguments give. -/
def readCommand (arguments : List String) : Except Stop Command :=
  match arguments with
  | [] => .error .misuse
  | first :: rest =>
    if first = "generate" then readGenerate rest
    else if first = "inspect" then readInspect rest
    else if first = "help" then .error (readHelp rest)
    else if first = "--help" || "-h".toList.isPrefixOf first.toList then .error .help
    else if first = "--version" || "-V".toList.isPrefixOf first.toList then .error .version
    else .error .misuse

/-- What a command printed, and its exit code. -/
structure Outcome where
  code : Nat
  stdout : String
  stderr : String
  deriving DecidableEq, Repr

/-- Why a command failed: what it was doing, and the error behind that, if any. -/
structure Failure where
  context : String
  cause : Option Error
  deriving DecidableEq, Repr

/-- An error with all that stands behind it, the outermost first. -/
def causes (error : Error) : List String := error.text :: error.detail?.toList

/-- A text whose lines behind the first have a margin. -/
def hanging (margin : String) (text : String) : String :=
  String.ofList (text.toList.flatMap fun c => if c = '\n' then c :: margin.toList else [c])

/-- The causes of a failure, numbered if there are several. -/
def causeLines (error : Error) : String :=
  match causes error with
  | [cause] => "    " ++ hanging "    " cause ++ "\n"
  | several =>
    String.join (several.mapIdx fun i cause =>
      "    " ++ toString i ++ ": " ++ hanging "       " cause ++ "\n")

def Failure.report (failure : Failure) : String :=
  "Error: " ++ failure.context ++ "\n" ++ match failure.cause with
    | none => ""
    | some error => "\nCaused by:\n" ++ causeLines error

def Failure.outcome (failure : Failure) : Outcome := ⟨1, "", failure.report⟩

/-- The configuration without a file: the catalog and the target directory must be given. -/
def configOfOptions (options : GenerateOptions) : Except Failure Config :=
  match options.catalog, options.targetDir with
  | none, _ => .error ⟨"--catalog is required without --config", none⟩
  | _, none => .error ⟨"--target-dir is required without --config", none⟩
  | some catalog, some targetDir => .ok (.basic catalog targetDir (options.endpointUrl.getD ""))

/-- A configuration with the options that are given in the place of its own values. Classes that are given
replace the configured ones and register with the default module. -/
def override (options : GenerateOptions) (config : Config) : Config :=
  let defaultModule := options.defaultModule.getD config.defaultModule
  { catalogPath := options.catalog.getD config.catalogPath
    targetDir := options.targetDir.getD config.targetDir
    endpointUrl := options.endpointUrl.getD config.endpointUrl
    defaultModule := defaultModule
    classes :=
      if options.classes.isEmpty then config.classes
      else .ofList (options.classes.map fun name => (name, defaultModule)) }

variable {m : Type → Type} [Monad m]

/-- The configuration that `generate` runs with. -/
def resolveConfig (disk : Disk m) (options : GenerateOptions) : m (Except Failure Config) := do
  match options.config with
  | none => pure ((configOfOptions options).map (override options))
  | some path =>
    match ← Config.load disk path with
    | .error error => pure (.error ⟨"Failed to load configuration " ++ path, some error⟩)
    | .ok config => pure (.ok (override options config))

def runGenerate (disk : Disk m) (options : GenerateOptions) : m Outcome := do
  match ← resolveConfig disk options with
  | .error failure => pure failure.outcome
  | .ok config =>
    let run ← Generation.run disk config
    match run.failure with
    | some error => pure (Failure.outcome ⟨"Failed to generate client services", some error⟩)
    | none => pure ⟨0, String.join (run.written.map (· ++ "\n")), ""⟩

def runInspect (disk : Disk m) (catalogPath className : String) : m Outcome := do
  match ← Generation.readCatalog disk catalogPath with
  | .error (_, error) => pure (Failure.outcome ⟨"Failed to load catalog " ++ catalogPath, some error⟩)
  | .ok catalog =>
    match catalog.select className with
    | .error error => pure (Failure.outcome ⟨"Failed to describe class " ++ className, some error⟩)
    | .ok entry => pure ⟨0, entry.describe.json.pretty ++ "\n", ""⟩

def versionText : String := "apistub 0.1.0\n"

def usageText : String :=
  "Usage: apistub generate [--config FILE] [--catalog FILE] [--target-dir DIR] [--endpoint-url URL]
                        [--class NAME]... [--module NAME]
       apistub inspect --catalog FILE --class NAME
"

/-- Runs the command that arguments give. -/
def run (disk : Disk m) (arguments : List String) : m Outcome :=
  match readCommand arguments with
  | .error .misuse => pure ⟨2, "", usageText⟩
  | .error .help => pure ⟨0, usageText, ""⟩
  | .error .version => pure ⟨0, versionText, ""⟩
  | .ok (.generate options) => runGenerate disk options
  | .ok (.inspect catalog className) => runInspect disk catalog className

end ClientStub.CommandLine
