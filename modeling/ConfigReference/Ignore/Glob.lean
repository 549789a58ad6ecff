import ConfigReference.Text.Utf8

/-!
# Globs of ignore rules

Patterns that are compared with the bytes of a path. A star stays in one part of a path. Two stars
that are a whole part stand for any number of directories, and for all that is below a directory
when they are the last part. Braces hold alternatives.
-/

set_option autoImplicit false

namespace ConfigReference.Ignore

inductive Glob.Token where
  | char (c : Char)
  | anyByte
  /-- Any bytes of one part. -/
  | run
  /-- Any directories at the start. -/
  | leading
  /-- Any directories between two parts. -/
  | between
  /-- All that is below a directory. -/
  | inside
  /-- A byte in one of the ranges, or outside of all of them. -/
  | byteIn (negated : Bool) (ranges : List (UInt8 × UInt8))
  | oneOf (branches : List (List Glob.Token))

abbrev Glob := List Glob.Token

namespace Glob

/-! ## Reading -/

/-- A bracket under way: its ranges, latest first, and whether a dash waits for its right side. -/
structure Bracket where
  ranges : List (Char × Char) := []
  dash : Bool := false

def Bracket.add? (b : Bracket) (c : Char) : Option Bracket :=
  match b.ranges with
  | (first, last) :: before =>
    if b.dash then
      if c < first then none else some ⟨(first, c) :: before, false⟩
    else if c == '-' then some { b with dash := true }
    else some { b with ranges := (c, c) :: (first, last) :: before }
  | [] => some ⟨[(c, c)], false⟩

/-- The bytes that a range of characters stands for; the last byte of its start and the first of its
end are the ends of a range. -/
def byteRanges (range : Char × Char) : List (UInt8 × UInt8) :=
  let single (b : UInt8) := (b, b)
  let low := Text.encode (String.singleton range.1)
  if range.1 = range.2 then low.map single
  else
    let high := Text.encode (String.singleton range.2)
    match low.getLast?, high with
    | some a, b :: rest => low.dropLast.map single ++ (a, b) :: rest.map single
    | _, _ => []

def Bracket.token? (b : Bracket) (negated : Bool) : Option Token :=
  let ranges := if b.dash then ('-', '-') :: b.ranges else b.ranges
  let bytes := ranges.reverse.flatMap byteRanges
  if bytes.all fun (low, high) => low ≤ high then some (.byteIn negated bytes) else none

/-- The rest of a bracket. A closing bracket that comes first stands for itself. -/
def readBracket? (negated : Bool) (b : Bracket) : List Char → Option (Token × List Char)
  | [] => none
  | c :: rest =>
    if c == ']' && !b.ranges.isEmpty then (b.token? negated).map (·, rest)
    else (b.add? c).bind (readBracket? negated · rest)

structure Group where
  branches : List Glob
  before : Glob

/-- The tokens of the current branch, latest first, the open groups, and the last character. -/
structure Draft where
  tokens : Glob := []
  groups : List Group := []
  last : Option Char := none

namespace Draft

def push (d : Draft) (t : Token) (last : Char) : Draft :=
  { d with tokens := t :: d.tokens, last := some last }

/-- Two stars as one token: of two rows of directories the first stays, and the slash before other
ones goes with them. -/
def pushDirectories (d : Draft) (t : Token) (last : Char) : Draft :=
  match d.tokens with
  | .leading :: rest => { d with tokens := .leading :: rest, last := some last }
  | _ :: rest => { d with tokens := t :: rest, last := some last }
  | [] => { d with tokens := [t], last := some last }

/-- Two stars in front of `s`, and what is left of `s`. They are a whole part if a slash or nothing
stands on either side. -/
def pushStars (d : Draft) (s : List Char) : Draft × List Char :=
  let plain := ((d.push .run '*').push .run '*', s)
  if d.tokens.isEmpty then
    match s with
    | [] => (d.push .leading '*', [])
    | '/' :: rest => (d.push .leading '/', rest)
    | _ => plain
  else if d.last ≠ some '/' then plain
  else
    match s with
    | [] => (d.pushDirectories .inside '*', [])
    | '/' :: rest => (d.pushDirectories .between '/', rest)
    | c :: _ =>
      if (c == ',' || c == '}') && !d.groups.isEmpty then (d.pushDirectories .inside '*', s)
      else plain

def close? (d : Draft) : Option Draft :=
  match d.groups with
  | g :: groups =>
    let branches := (d.tokens.reverse :: g.branches).reverse
    some { tokens := .oneOf branches :: g.before, groups, last := some '}' }
  | [] => none

def nextBranch (d : Draft) : Draft :=
  match d.groups with
  | g :: groups =>
    { tokens := [], groups := { g with branches := d.tokens.reverse :: g.branches } :: groups,
      last := some ',' }
  | [] => d.push (.char ',') ','

end Draft

def read? : Nat → Draft → List Char → Option Glob
  | 0, _, _ => none
  | fuel + 1, d, s =>
    match s with
    | [] => if d.groups.isEmpty then some d.tokens.reverse else none
    | '?' :: rest => read? fuel (d.push .anyByte '?') rest
    | '*' :: '*' :: rest =>
      let (d, rest) := d.pushStars rest
      read? fuel d rest
    | '*' :: rest => read? fuel (d.push .run '*') rest
    | '[' :: rest => do
      let negated := rest.head? = some '!' || rest.head? = some '^'
      let (t, rest) ← readBracket? negated {} (if negated then rest.drop 1 else rest)
      read? fuel (d.push t ']') rest
    | '{' :: rest =>
      read? fuel { tokens := [], groups := ⟨[], d.tokens⟩ :: d.groups, last := some '{' } rest
    | '}' :: rest => do read? fuel (← d.close?) rest
    | ',' :: rest => read? fuel d.nextBranch rest
    | '\\' :: c :: rest => read? fuel (d.push (.char c) c) rest
    | ['\\'] => none
    | c :: rest => read? fuel (d.push (.char c) c) rest

def parse? (s : List Char) : Option Glob := read? (s.length + 1) {} s

/-! ## Matching -/

def slash : UInt8 := 0x2F

def afterSome (p : UInt8 → Bool) (k : List UInt8 → Bool) : List UInt8 → Bool
  | [] => k []
  | b :: rest => k (b :: rest) || (p b && afterSome p k rest)

def afterSlash (k : List UInt8 → Bool) : List UInt8 → Bool
  | [] => false
  | b :: rest => (b == slash && k rest) || afterSlash k rest

def behindSlash (k : List UInt8 → Bool) : List UInt8 → Bool
  | b :: rest => b == slash && k rest
  | [] => false

mutual

def Token.accepts (k : List UInt8 → Bool) (s : List UInt8) : Token → Bool
  | .char c =>
    let bytes := Text.encode (String.singleton c)
    bytes.isPrefixOf s && k (s.drop bytes.length)
  | .anyByte =>
    match s with
    | b :: rest => b != slash && k rest
    | [] => false
  | .run => afterSome (· != slash) k s
  | .leading => k s || afterSlash k s
  | .between => behindSlash (fun rest => k rest || afterSlash k rest) s
  | .inside => behindSlash (afterSome (fun _ => true) k) s
  | .byteIn negated ranges =>
    match s with
    | b :: rest => ranges.any (fun (low, high) => low ≤ b && b ≤ high) != negated && k rest
    | [] => false
  | .oneOf branches =>
    let branches' := branches.filter (!·.isEmpty)
    if branches'.isEmpty then k s else anyAccepts k s branches

def allAccept (k : List UInt8 → Bool) (s : List UInt8) : List Token → Bool
  | [] => k s
  | t :: rest => t.accepts (fun s => allAccept k s rest) s

def anyAccepts (k : List UInt8 → Bool) (s : List UInt8) : List (List Token) → Bool
  | [] => false
  | branch :: rest => (!branch.isEmpty && allAccept k s branch) || anyAccepts k s rest

end

/-- Whether a glob accepts a whole path. Two stars alone accept every path. -/
def accepts (g : Glob) (path : List UInt8) : Bool :=
  match g with
  | [.leading] => true
  | _ => allAccept List.isEmpty path g

end Glob

end ConfigReference.Ignore
