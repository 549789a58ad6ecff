import ConfigReference.Yaml.Node

/-!
# Merging

One tree laid over another. Mappings are joined key by key, and otherwise the upper tree counts.
-/

set_option autoImplicit false

namespace ConfigReference.Yaml.Node

/-- Change the value of the first entry with the key text of `new`; append `new` when there is
none. -/
def alterEntry (new : Node × Node) (change : Node → Node) :
    List (Node × Node) → List (Node × Node)
  | [] => [new]
  | e :: rest =>
    if e.1.text = new.1.text then (e.1, change e.2) :: rest else e :: alterEntry new change rest

mutual

/-- Lay the second tree over the first. Keys stay in the order in which they came first. -/
def merge : Node → Node → Node
  | mapping p base, mapping _ above => mapping p (mergeEntries base above)
  | _, above => above

def mergeEntries : List (Node × Node) → List (Node × Node) → List (Node × Node)
  | base, [] => base
  | base, (key, value) :: rest =>
    mergeEntries (alterEntry (key, value) (fun previous => merge previous value) base) rest

end

def mergeAll (trees : List Node) : Node := trees.foldl merge emptyMapping

end ConfigReference.Yaml.Node
