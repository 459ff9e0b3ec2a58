import ClientStub.Yaml.Style

/-!
# YAML tokens

What a YAML text is made of: document markers, the openings and ends of collections, indicators, node
properties and scalars. The blocks that indentation opens and ends have tokens of their own.
-/

namespace ClientStub.Yaml

inductive Token where
  | streamEnd
  | version (major minor : Nat)
  | tagDirective (handle expansion : String)
  | documentStart
  | documentEnd
  | blockSequenceStart
  | blockMappingStart
  | blockEnd
  | flowSequenceStart
  | flowSequenceEnd
  | flowMappingStart
  | flowMappingEnd
  | blockEntry
  | flowEntry
  | key
  | value
  | reference (name : String)
  | anchor (name : String)
  | tag (handle suffix : String)
  | scalar (text : String) (style : ScalarStyle)
  deriving DecidableEq, Repr

end ClientStub.Yaml
