import ConfigReference.Decimal.Shortest
import ConfigReference.Template
import ConfigReference.Text.Line

/-!
# Values in templates

How a template shows a JSON value, when a value counts as true, and where a variable finds its
value.
-/

set_option autoImplicit false

namespace ConfigReference

namespace Json

def Number.isZero : Number → Bool
  | .int n => n == 0
  | .float x => x == 0.0

/-- Null, zero and everything empty are false. -/
def isTrue : Json → Bool
  | null => false
  | bool b => b
  | number n => !n.isZero
  | string s => s ≠ ""
  | array items => !items.isEmpty
  | object members => !members.isEmpty

def Number.shown : Number → List Char
  | .int n => (toString n).toList
  | .float x => Decimal.Layout.running.float x

mutual

def shownChars : Json → List Char
  | null => []
  | bool b => (if b then "true" else "false").toList
  | number n => n.shown
  | string s => s.toList
  | array items => '[' :: shownItems items ++ [']']
  | object _ => "[object]".toList

def shownItems : List Json → List Char
  | [] => []
  | [item] => shownChars item
  | item :: rest => shownChars item ++ ',' :: ' ' :: shownItems rest

end

def shown (j : Json) : String := .ofList j.shownChars

mutual

/-- Whether two values are the same. An integer and a float never are. -/
def same : Json → Json → Bool
  | null, null => true
  | bool a, bool b => a == b
  | number (.int a), number (.int b) => a == b
  | number (.float a), number (.float b) => a == b
  | string a, string b => a == b
  | array a, array b => sameItems a b
  | object a, object b => sameMembers a b
  | _, _ => false

def sameItems : List Json → List Json → Bool
  | [], [] => true
  | a :: as, b :: bs => same a b && sameItems as bs
  | _, _ => false

def sameMembers : List (String × Json) → List (String × Json) → Bool
  | [], [] => true
  | (k, a) :: as, (l, b) :: bs => k == l && same a b && sameMembers as bs
  | _, _ => false

end

def index? (s : String) : Option Nat :=
  let digits := s.toList
  if digits.isEmpty || !digits.all Char.isDigit then none
  else if digits.head? = some '0' && digits ≠ ['0'] then none
  else some (Text.digitsValue digits)

def part? (j : Json) (step : String) : Option Json :=
  match j with
  | object members => members.lookup step
  | array items => (index? step).bind (items[·]?)
  | _ => none

def follow? (j : Json) : List String → Option Json
  | [] => some j
  | step :: rest => (j.part? step).bind (·.follow? rest)

end Json

namespace Template

/-- The variables of one body: those that statements set, and those that the body was given. -/
structure Frame where
  assigned : List (String × Json) := []
  given : List (String × Json) := []
  deriving Inhabited

abbrev Scope := List Frame

def Variable.valueIn? (v : Variable) (values : List (String × Json)) : Option Json :=
  (values.lookup v.name).bind (·.follow? v.path)

def Frame.lookup? (f : Frame) (v : Variable) : Option Json :=
  (v.valueIn? f.assigned).or (v.valueIn? f.given)

def Scope.lookup? (data : List (String × Json)) (v : Variable) : Scope → Option Json
  | [] => v.valueIn? data
  | f :: rest => (f.lookup? v).or (Scope.lookup? data v rest)

def Scope.assign (name : String) (value : Json) : Scope → Scope
  | [] => []
  | f :: rest =>
    { f with assigned := (name, value) :: f.assigned.filter (·.1 ≠ name) } :: rest

end Template

end ConfigReference
