import ConfigReference.Yaml.Token
import ConfigReference.Yaml.Token.Cursor

/-!
# Block scalars

Literal and folded scalars: a header line, then lines of one indentation.
-/

set_option autoImplicit false

namespace ConfigReference.Yaml.Scan

inductive Chomping where
  | strip
  | clip
  | keep
  deriving DecidableEq

/-- The indicators behind `|` or `>`: chomping, and an indentation of at least one. -/
structure BlockHeader where
  chomping : Chomping := .clip
  indentation : Option Nat := none

def chomping? : Char → Option Chomping
  | '+' => some .keep
  | '-' => some .strip
  | _ => none

def takeChomping : Scan (Option Chomping) := do
  let found := chomping? (← peek)
  if found.isSome then advance
  return found

def takeIndentation (start : Mark) : Scan (Option Nat) := do
  let c ← peek
  if !c.isDigit then return none
  if c == '0' then failAt start .blockIndicatorZero
  advance
  return some (c.toNat - 0x30)

def blockHeader (start : Mark) : Scan BlockHeader := do
  match ← takeChomping with
  | some chomping =>
    let indentation ← takeIndentation start
    return { chomping, indentation }
  | none =>
    let indentation ← takeIndentation start
    if indentation.isNone then return {}
    let chomping ← takeChomping
    return { chomping := chomping.getD .clip, indentation }

/-- How many characters are looked at together at the start of a line. -/
def lookWidth : Nat := 16

/-- Pass `n` spaces, looking at the line by pieces of one width. -/
def passSpaces (n : Nat) : Scan Unit := do
  look lookWidth
  modify fun c =>
    let short := (n - c.seen) % lookWidth
    { c.pass n with
      seen := if n ≤ c.seen then c.seen - n else if short = 0 then 0 else lookWidth - short }
  look 2

/-- Pass empty lines and the indentation of the next line, up to column `indent`. Yields the count
of empty lines. -/
def blockGap (indent : Nat) : Nat → Nat → Scan Nat
  | 0, breaks => return breaks
  | fuel + 1, breaks => do
    let c ← get
    passSpaces ((c.rest.takeWhile (· == ' ')).take (indent - c.mark.column)).length
    if isBreak (← peek) then
      breakLine
      blockGap indent fuel (breaks + 1)
    else return breaks

/-- Pass empty lines and the whole indentation of the next line. Yields the greatest column met and
the count of empty lines. -/
def blockFirstGap : Nat → Nat → Nat → Scan (Nat × Nat)
  | 0, widest, breaks => return (widest, breaks)
  | fuel + 1, widest, breaks => do
    let _ ← takeGap (· == ' ')
    let widest := max widest (← mark).column
    if isBreak (← peek) then
      breakLine
      blockFirstGap fuel widest (breaks + 1)
    else return (widest, breaks)

/-- What stands between the last content line and the next: whether the line ended in a break, the
count of empty lines, and whether the line began with a blank. -/
structure BlockJoint where
  broken : Bool := false
  empty : Nat := 0
  blankStart : Bool := false

/-- The text between two content lines. Folding makes a single break a space, unless a line on
either side begins with a blank. -/
def BlockJoint.text (j : BlockJoint) (folded blankNext : Bool) : List Char :=
  if folded && j.broken && !j.blankStart && !blankNext then
    if j.empty == 0 then [' '] else List.replicate j.empty '\n'
  else List.replicate ((if j.broken then 1 else 0) + j.empty) '\n'

def blockLines (folded : Bool) (indent : Nat) :
    Nat → List Char → BlockJoint → Scan (List Char × BlockJoint)
  | 0, text, joint => return (text, joint)
  | fuel + 1, text, joint => do
    let c ← get
    if c.mark.column ≠ indent || isEnd c.peek then return (text, joint)
    if indent == 0 && c.atDocumentMark '.' then return (text, joint)
    let blankNext := isGap c.peek
    let line := c.rest.takeWhile (!isBreakOrEnd ·)
    if indent == 0 then look 4
    modify (·.passWide line.length)
    let text := text ++ joint.text folded blankNext ++ line
    if isEnd (← peek) then return (text, { blankStart := blankNext })
    breakLine
    let empty ← blockGap indent ((← get).rest.length + 1) 0
    blockLines folded indent fuel text { broken := true, empty, blankStart := blankNext }

def blockScalar (style : ScalarStyle) (parent : Int) : Scan PlacedToken := do
  let start ← mark
  look 4
  advance
  let header ← blockHeader start
  let _ ← skipToLineEnd
  if !isBreakOrEnd (← peek) then failAt start .blockHeader
  if isBreak (← peek) then breakLine
  if (← peek) == '\t' then failAt start .blockLeadingTab
  let fuel := (← get).rest.length + 1
  let (indent, leading) ←
    match header.indentation with
    | some n =>
      let indent := if 0 ≤ parent then parent.toNat + n else n
      let breaks ← blockGap indent fuel 0
      pure (indent, breaks)
    | none =>
      let (widest, breaks) ← blockFirstGap fuel 0 0
      let indent := max widest (parent + 1).toNat
      pure (if 0 < parent then max indent 1 else indent, breaks)
  look 1
  let content ← get
  let here := content.mark
  if isEnd content.peek then
    let breaks :=
      if header.chomping == .strip || here.line == start.line then 0
      else if header.chomping == .clip then 1
      else max leading 1
    return ⟨.scalar style (String.ofList (List.replicate breaks '\n')), start⟩
  if here.column < indent && parent < (here.column : Int) then fail .blockIndentation
  let (text, joint) ←
    blockLines (style == .folded) indent fuel [] { empty := leading }
  let last ← get
  let atEnd := isEnd last.peek
  let tail : Nat :=
    if header.chomping == .strip then 0
    else
      (if joint.broken then 1 else 0)
        + (if atEnd && max indent 1 ≤ last.mark.column then 1 else 0)
        + (if header.chomping == .keep then joint.empty else 0)
  return ⟨.scalar style (String.ofList (text ++ List.replicate tail '\n')), here⟩

end ConfigReference.Yaml.Scan
