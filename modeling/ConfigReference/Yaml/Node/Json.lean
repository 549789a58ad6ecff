import ConfigReference.Json.Value
import ConfigReference.Yaml.Node

/-!
# Nodes as JSON
-/

set_option autoImplicit false

namespace ConfigReference.Yaml.Node

def floatJson (text : String) : Json :=
  match Scalar.readFloat text.toList with
  | some x => if x.isFinite then .number (.float x) else .string text
  | none => .string text

def scalarJson (tag : ScalarTag) (text : String) : Json :=
  match tag with
  | .null => .null
  | .bool => .bool (Scalar.readBool text.toList)
  | .int =>
    match Scalar.readInt text.toList with
    | some n => .int n
    | none => floatJson text
  | .float => floatJson text
  | .str | .timestamp => .string text

mutual

/-- The data of a node. Keys are sorted, and of equal keys the last counts. -/
def toJson : Node → Json
  | scalar _ tag text => scalarJson tag text
  | sequence _ items => .array (jsonItems items)
  | mapping _ entries => Json.ofMembers (jsonMembers entries)
  | aliasTo _ target => target.toJson

def jsonItems : List Node → List Json
  | [] => []
  | item :: rest => item.toJson :: jsonItems rest

def jsonMembers : List (Node × Node) → List (String × Json)
  | [] => []
  | (key, value) :: rest => (key.text, value.toJson) :: jsonMembers rest

end

theorem toJson_resolve (n : Node) : n.resolve.toJson = n.toJson := by
  fun_induction resolve n with
  | case1 p target ih => rw [ih, toJson]
  | case2 n hNoAlias => rfl

end ConfigReference.Yaml.Node
