import ClientStub.Config.Toml
import ClientStub.Files.Disk

/-!
# Configuration files

A configuration file is TOML or YAML, as its path tells.
-/

namespace ClientStub.Config

/-- The text of a configuration in the format of a path. -/
def textFor (path : String) (config : Config) : String :=
  if isTomlPath path then config.toToml else config.toYaml

/-- The configuration that a text holds in the format of a path. -/
def ofTextFor (path text : String) : Except Error Config := do
  let config ←
    if isTomlPath path then (ofToml text).mapError .toml else (ofYaml text).mapError .yaml
  config.validated

variable {m : Type → Type} [Monad m]

/-- Reads a configuration file. -/
def load (disk : Disk m) (path : String) : m (Except Error Config) := do
  match ← disk.readText path with
  | .error fault => pure (.error (.file fault))
  | .ok text => pure (ofTextFor path text)

/-- Writes a configuration file. -/
def save (disk : Disk m) (path : String) (config : Config) : m (Except Error Unit) := do
  match ← disk.writeText path (config.textFor path) with
  | .error fault => pure (.error (.file fault))
  | .ok () => pure (.ok ())

end ClientStub.Config
