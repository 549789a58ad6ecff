/-!
# Globs for listings

Patterns for the paths of files. A star stays in one part of a path; two stars that are a whole part
stand for any number of directories.
-/

set_option autoImplicit false

namespace ConfigReference.Listing

namespace Glob

inductive Token where
  | char (c : Char)
  | anyChar
  /-- Any characters of one part. -/
  | run
  /-- Any number of whole parts. -/
  | directories
  | within (ranges : List (Char × Char))
  | outside (ranges : List (Char × Char))
  deriving DecidableEq, Repr

end Glob

abbrev Glob := List Glob.Token

namespace Glob

/-- The ranges between brackets. A dash that has no two neighbours stands for itself. -/
def readRanges : List Char → List (Char × Char)
  | a :: '-' :: b :: rest => (a, b) :: readRanges rest
  | a :: rest => (a, a) :: readRanges rest
  | [] => []

def splitBracket? : List Char → Option (List Char × List Char)
  | first :: rest =>
    match rest.dropWhile (· != ']') with
    | _ :: after => some (first :: rest.takeWhile (· != ']'), after)
    | [] => none
  | [] => none

def readBracket? : List Char → Option (Token × List Char)
  | '!' :: rest => (splitBracket? rest).map fun (s, rest) => (.outside (readRanges s), rest)
  | s => (splitBracket? s).map fun (s, rest) => (.within (readRanges s), rest)

/-- Two stars that begin a part. The part has to end behind them, and its slash goes with it. -/
def readDirectories? : List Char → Option (List Char)
  | [] => some []
  | '/' :: rest => some rest
  | _ => none

/-- The tokens of `s`, which follows `tokens` (the latest first) and begins a part if `fresh` is
set. Three stars in a row, and two that are not a whole part, are refused. -/
def read? : Nat → Bool → List Token → List Char → Option Glob
  | 0, _, _, _ => none
  | fuel + 1, fresh, tokens, s =>
    match s with
    | [] => some tokens.reverse
    | '*' :: '*' :: '*' :: _ => none
    | '*' :: '*' :: rest => do
      let rest ← if fresh then readDirectories? rest else none
      let again := tokens.head? = some .directories && 1 < tokens.length
      read? fuel true (if again then tokens else .directories :: tokens) rest
    | '*' :: rest => read? fuel false (.run :: tokens) rest
    | '?' :: rest => read? fuel false (.anyChar :: tokens) rest
    | '[' :: rest => do
      let (token, rest) ← readBracket? rest
      read? fuel false (token :: tokens) rest
    | c :: rest => read? fuel (c == '/') (.char c :: tokens) rest

def parse? (s : List Char) : Option Glob := read? (s.length + 1) true [] s

/-- The text of a glob that accepts `s` alone. -/
def escape (s : List Char) : List Char :=
  s.flatMap fun c => if "?*[]".toList.contains c then ['[', c, ']'] else [c]

def inRanges (ranges : List (Char × Char)) (c : Char) : Bool :=
  ranges.any fun (a, b) => a ≤ c && c ≤ b

def afterRun (k : List Char → Bool) : List Char → Bool
  | [] => k []
  | c :: rest => k (c :: rest) || (c != '/' && afterRun k rest)

def afterDirectories (k : List Char → Bool) : List Char → Bool
  | [] => k []
  | c :: rest => (c == '/' && k rest) || afterDirectories k rest

def afterOne (p : Char → Bool) (k : List Char → Bool) : List Char → Bool
  | [] => false
  | c :: rest => c != '/' && p c && k rest

def accepts : Glob → List Char → Bool
  | [], s => s.isEmpty
  | .char c :: rest, s =>
    match s with
    | d :: s => c == d && accepts rest s
    | [] => false
  | .anyChar :: rest, s => afterOne (fun _ => true) (accepts rest) s
  | .within ranges :: rest, s => afterOne (inRanges ranges) (accepts rest) s
  | .outside ranges :: rest, s => afterOne (fun c => !inRanges ranges c) (accepts rest) s
  | .run :: rest, s => afterRun (accepts rest) s
  | .directories :: rest, s => accepts rest s || afterDirectories (accepts rest) s

end Glob

end ConfigReference.Listing
