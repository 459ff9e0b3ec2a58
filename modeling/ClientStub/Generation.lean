import ClientStub.Catalog.Lookup
import ClientStub.Config
import ClientStub.Files.Disk
import ClientStub.Stub.Service

/-!
# Generation

Writing the services of a catalog's classes. Each class is written before the next one is looked at, so a
run that fails has written the classes before the one that it failed at.
-/

namespace ClientStub

/-- What a run has done: the paths that it wrote, what it told, and why it ended early, if it did. -/
structure Run where
  written : List String
  notices : List Notice
  failure : Option Error
  deriving DecidableEq, Repr

namespace Run

def done : Run := ⟨[], [], none⟩

def failed (error : Error) : Run := ⟨[], [], some error⟩

/-- A run that goes on after notices. -/
def after (notices : List Notice) (run : Run) : Run := { run with notices := notices ++ run.notices }

/-- A run that goes on after writing a file. -/
def afterWriting (path : String) (run : Run) : Run := { run with written := path :: run.written }

end Run

namespace Generation

/-- The names of the classes that a configuration wants: all of the catalog in its order, or those that it
lists. -/
def classNames (config : Config) (catalog : Catalog) : List String :=
  if config.classes.isEmpty then catalog.classNames else config.classes.names

/-- The path that the service of a class is written to. -/
def outputPath (config : Config) (className : String) : String :=
  Path.below config.targetDir (outputFileName className)

/-- The text of the service of a class. -/
def serviceText (config : Config) (className : String) (entry : ClassEntry) : String :=
  Layout.builtin.service className config.endpointUrl entry.describe (config.moduleFor className)

variable {m : Type → Type} [Monad m]

/-- Writes the services of classes, one after the other, up to the first that fails. -/
def writeClasses (disk : Disk m) (config : Config) (catalog : Catalog) : List String → m Run
  | [] => pure .done
  | name :: names =>
    match catalog.select name with
    | .error error => pure (.failed error)
    | .ok entry => do
      let path := outputPath config name
      match ← disk.writeText path (serviceText config name entry) with
      | .error fault => pure (.after entry.notices (.failed (.file fault)))
      | .ok () => do
        let run ← writeClasses disk config catalog names
        let wrote := Notice.written name entry.describe.methods.length path
        pure (.after (entry.notices ++ [wrote]) (.afterWriting path run))

/-- Reads a catalog. Where there is none, the error comes with what is told of it: a text that is no catalog is
told of, a file that cannot be read is not. -/
def readCatalog (disk : Disk m) (path : String) : m (Except (List Notice × Error) Catalog) := do
  match ← disk.readText path with
  | .error fault => pure (.error ([], .file fault))
  | .ok text => pure ((Catalog.ofText text).mapError fun error => ([.unreadCatalog path error.text], error))

/-- Writes the services of a configuration. Nothing is made before the catalog has been read. -/
def run (disk : Disk m) (config : Config) : m Run := do
  match ← readCatalog disk config.catalogPath with
  | .error (notices, error) => pure (.after notices (.failed error))
  | .ok catalog =>
    match ← disk.createDirectories config.targetDir with
    | .error fault => pure (.failed (.file fault))
    | .ok () => writeClasses disk config catalog (classNames config catalog)

end Generation

end ClientStub
