import ConfigReference.KeyedMap

/-!
# JSON values

Objects list their members in ascending key order, each key once: `Json.object` is applied to lists
that `insertKeyed` built, which `Json.ofMembers` does.
-/

set_option autoImplicit false

namespace ConfigReference

inductive Json.Number where
  | int (n : Int)
  | float (x : Float)
  deriving Inhabited

inductive Json where
  | null
  | bool (b : Bool)
  | number (n : Json.Number)
  | string (s : String)
  | array (items : List Json)
  | object (members : List (String × Json))
  deriving Inhabited

namespace Json

def int (n : Int) : Json := .number (.int n)

def nat (n : Nat) : Json := .number (.int n)

def sortMembers (members : List (String × Json)) : List (String × Json) :=
  members.foldl (fun sorted m => insertKeyed m.1 m.2 sorted) []

def ofMembers (members : List (String × Json)) : Json := .object (sortMembers members)

def member? : Json → String → Option Json
  | .object members, key => members.lookup key
  | _, _ => none

def string? : Json → Option String
  | .string s => some s
  | _ => none

def Number.toFloat : Number → Float
  | .int n => Float.ofInt n
  | .float x => x

theorem ascending_sortMembers (members : List (String × Json)) :
    Ascending (sortMembers members) := by
  suffices ∀ sorted, Ascending sorted →
      Ascending (members.foldl (fun sorted m => insertKeyed m.1 m.2 sorted) sorted) from
    this [] List.Pairwise.nil
  induction members with
  | nil => exact fun _ h => h
  | cons m rest ih => exact fun _ h => ih _ (ascending_insertKeyed _ _ h)

end Json

end ConfigReference
