import ConfigReference.Yaml.Fault

/-!
# YAML tokens
-/

set_option autoImplicit false

namespace ConfigReference.Yaml

inductive ScalarStyle where
  | plain
  | singleQuoted
  | doubleQuoted
  | literal
  | folded
  deriving DecidableEq, Inhabited, Repr

inductive Token where
  | streamStart
  | streamEnd
  | versionDirective
  | tagDirective (handle : String) (base : String)
  | documentStart
  | documentEnd
  | blockSequenceStart
  | blockMappingStart
  | blockEnd
  | blockEntry
  | flowSequenceStart
  | flowSequenceEnd
  | flowMappingStart
  | flowMappingEnd
  | flowEntry
  | key
  | value
  | aliasTo (name : String)
  | anchor (name : String)
  | tag (handle : String) (suffix : String)
  | scalar (style : ScalarStyle) (text : String)
  deriving DecidableEq, Inhabited, Repr

structure PlacedToken where
  token : Token
  mark : Mark
  deriving DecidableEq, Inhabited, Repr

end ConfigReference.Yaml
