import ConfigReference.Text.Line
import ConfigReference.Yaml.Node

/-!
# Ignored nodes

A comment that holds `@ignore` takes what it stands above out of the tree.
-/

set_option autoImplicit false

namespace ConfigReference.Yaml.Node

def ignoreWord : List Char := "@ignore".toList

def isIgnored (n : Node) : Bool := Text.contains ignoreWord n.place.comment.toList

mutual

/-- The tree without the items that are ignored, and without the entries whose key or value is. -/
def prune : Node → Node
  | scalar p tag text => scalar p tag text
  | sequence p items => sequence p (pruneItems items)
  | mapping p entries => mapping p (pruneEntries entries)
  | aliasTo p target => aliasTo p target.prune

def pruneItems : List Node → List Node
  | [] => []
  | item :: rest => if item.isIgnored then pruneItems rest else item.prune :: pruneItems rest

def pruneEntries : List (Node × Node) → List (Node × Node)
  | [] => []
  | (key, value) :: rest =>
    if key.isIgnored || value.isIgnored then pruneEntries rest
    else (key, value.prune) :: pruneEntries rest

end

theorem place_prune (n : Node) : n.prune.place = n.place := by
  cases n <;> rfl

end ConfigReference.Yaml.Node
