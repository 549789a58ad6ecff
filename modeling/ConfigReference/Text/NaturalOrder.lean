import ConfigReference.Text.Line

/-!
# Natural order

An order of texts in which numbers count by their value.
-/

set_option autoImplicit false

namespace ConfigReference.Text

def digitRuns (s : List Char) : List (List Char) :=
  s.splitBy fun a b => isAsciiDigit a == isAsciiDigit b

def isDigitRun (run : List Char) : Bool := run.head?.any isAsciiDigit

def compareChars : List Char → List Char → Ordering
  | [], [] => .eq
  | [], _ :: _ => .lt
  | _ :: _, [] => .gt
  | a :: as, b :: bs => (compare a.toNat b.toNat).then (compareChars as bs)

def compareDigits (a b : List Char) : Ordering :=
  let a := a.dropWhile (· == '0')
  let b := b.dropWhile (· == '0')
  (compare a.length b.length).then (compareChars a b)

def compareRuns (a b : List Char) : Ordering :=
  if isDigitRun a && isDigitRun b then compareDigits a b else compareChars a b

/-- The order of the first two runs that differ, a list that ends there being less. -/
def compareRunLists : List (List Char) → List (List Char) → Ordering
  | [], [] => .eq
  | [], _ :: _ => .lt
  | _ :: _, [] => .gt
  | a :: as, b :: bs => (compareRuns a b).then (compareRunLists as bs)

/-- Natural order. Texts that differ only in the zeros before their numbers come by character. -/
def naturalCompare (a b : String) : Ordering :=
  (compareRunLists (digitRuns a.toList) (digitRuns b.toList)).then
    (compareChars a.toList b.toList)

end ConfigReference.Text
