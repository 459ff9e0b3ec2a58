/-!
# Styles of YAML scalars
-/

namespace ClientStub.Yaml

/-- How a scalar is written. Only a plain scalar may stand for anything but its text. -/
inductive ScalarStyle where
  | plain
  | singleQuoted
  | doubleQuoted
  | literal
  | folded
  deriving DecidableEq, Repr

end ClientStub.Yaml
