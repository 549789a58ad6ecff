import ConfigReference.Json.Value
import ConfigReference.Yaml.Node

/-!
# YAML data

Plain data without places and comments. Mappings keep the order in which their keys were first
given.
-/

set_option autoImplicit false

namespace ConfigReference.Yaml

inductive Data where
  | null
  | bool (b : Bool)
  | int (n : Int)
  | float (x : Float)
  | string (s : String)
  | sequence (items : List Data)
  | mapping (entries : List (Data × Data))
  deriving Inhabited

namespace Data

mutual

/-- Whether two values are the same data. The order of a mapping's entries does not count. -/
def same : Data → Data → Bool
  | null, null => true
  | bool a, bool b => a == b
  | int a, int b => a == b
  | float a, float b => a == b || (a.isNaN && b.isNaN)
  | string a, string b => a == b
  | sequence a, sequence b => sameItems a b
  | mapping a, mapping b => a.length == b.length && sameEntries a b
  | _, _ => false

def sameItems : List Data → List Data → Bool
  | [], [] => true
  | a :: as, b :: bs => a.same b && sameItems as bs
  | _, _ => false

def sameEntries : List (Data × Data) → List (Data × Data) → Bool
  | [], _ => true
  | (k, v) :: rest, other =>
    other.any (fun e => k.same e.1 && v.same e.2) && sameEntries rest other

end

/-- Give `key` a value: in its place when it was given before, at the end otherwise. -/
def put (entries : List (Data × Data)) (key value : Data) : List (Data × Data) :=
  match entries with
  | [] => [(key, value)]
  | e :: rest => if key.same e.1 then (e.1, value) :: rest else e :: put rest key value

def ofEntries (entries : List (Data × Data)) : Data :=
  .mapping (entries.foldl (fun given e => put given e.1 e.2) [])

mutual

def ofJson : Json → Data
  | .null => null
  | .bool b => bool b
  | .number (.int n) => int n
  | .number (.float x) => float x
  | .string s => string s
  | .array items => sequence (ofJsonItems items)
  | .object members => mapping (ofJsonMembers members)

def ofJsonItems : List Json → List Data
  | [] => []
  | item :: rest => ofJson item :: ofJsonItems rest

def ofJsonMembers : List (String × Json) → List (Data × Data)
  | [] => []
  | (key, value) :: rest => (string key, ofJson value) :: ofJsonMembers rest

end

end Data

namespace Node

def scalarData (tag : ScalarTag) (text : String) : Data :=
  match tag with
  | .null => .null
  | .bool => .bool (Scalar.readBool text.toList)
  | .int => (Scalar.readInt text.toList).elim (.string text) .int
  | .float => (Scalar.readFloat text.toList).elim (.string text) .float
  | .str | .timestamp => .string text

mutual

/-- The data of a node, its keys in order. -/
def toData : Node → Data
  | scalar _ tag text => scalarData tag text
  | sequence _ items => .sequence (dataItems items)
  | mapping _ entries => .ofEntries (dataEntries entries)
  | aliasTo _ target => target.toData

def dataItems : List Node → List Data
  | [] => []
  | item :: rest => item.toData :: dataItems rest

def dataEntries : List (Node × Node) → List (Data × Data)
  | [] => []
  | (key, value) :: rest => (key.toData, value.toData) :: dataEntries rest

end

end Node

end ConfigReference.Yaml
