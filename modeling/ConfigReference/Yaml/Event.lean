import ConfigReference.Yaml.Token

/-!
# YAML events

A document as the sequence of its scalars, its aliases, and the starts and ends of its collections.
-/

set_option autoImplicit false

namespace ConfigReference.Yaml

structure Tag where
  handle : String
  suffix : String
  deriving DecidableEq, Inhabited, Repr

/-- Anchored nodes carry the number of their anchor. -/
inductive Event where
  | scalar (text : String) (style : ScalarStyle) (anchor : Option Nat) (tag : Option Tag)
  | aliasTo (anchor : Nat)
  | sequenceStart (anchor : Option Nat) (tag : Option Tag)
  | sequenceEnd
  | mappingStart (anchor : Option Nat) (tag : Option Tag)
  | mappingEnd
  deriving DecidableEq, Inhabited, Repr

structure PlacedEvent where
  event : Event
  mark : Mark
  deriving DecidableEq, Inhabited, Repr

def Event.omitted : Event := .scalar "~" .plain none none

structure EventStream where
  events : List PlacedEvent
  error : Option SyntaxError

end ConfigReference.Yaml
