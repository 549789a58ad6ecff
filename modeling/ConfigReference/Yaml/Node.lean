import ConfigReference.Yaml.Scalar

/-!
# YAML nodes

A tree of nodes, each with its place in the source and the comment block above it.
-/

set_option autoImplicit false

namespace ConfigReference.Yaml

/-- Where a node stands, lines and columns being counted from one, and the comment lines directly
above it. -/
structure Place where
  line : Nat := 0
  column : Nat := 0
  comment : String := ""
  deriving DecidableEq, Inhabited, Repr

/-- An alias holds a copy of the node it stands for. Mappings keep their entries in order, keys
that are given twice included. -/
inductive Node where
  | scalar (place : Place) (tag : ScalarTag) (text : String)
  | sequence (place : Place) (items : List Node)
  | mapping (place : Place) (entries : List (Node × Node))
  | aliasTo (place : Place) (target : Node)
  deriving Inhabited

namespace Node

def place : Node → Place
  | scalar p _ _ => p
  | sequence p _ => p
  | mapping p _ => p
  | aliasTo p _ => p

def withPlace (p : Place) : Node → Node
  | scalar _ tag text => scalar p tag text
  | sequence _ items => sequence p items
  | mapping _ entries => mapping p entries
  | aliasTo _ target => aliasTo p target

@[simp]
theorem place_withPlace (p : Place) (n : Node) : (n.withPlace p).place = p := by
  cases n <;> rfl

def text : Node → String
  | scalar _ _ text => text
  | _ => ""

def kindName : Node → String
  | scalar .. => "scalar"
  | sequence .. => "sequence"
  | mapping .. => "mapping"
  | aliasTo .. => "alias"

def resolve : Node → Node
  | aliasTo _ target => target.resolve
  | n => n

def entries? (n : Node) : Option (List (Node × Node)) :=
  match n.resolve with
  | mapping _ entries => some entries
  | _ => none

def scalarTag? (n : Node) : Option ScalarTag :=
  match n.resolve with
  | scalar _ tag _ => some tag
  | _ => none

def get? (n : Node) (key : String) : Option Node :=
  n.entries?.bind fun entries => (entries.find? (·.1.text == key)).map (·.2)

def emptyMapping : Node := mapping {} []

end Node

end ConfigReference.Yaml
