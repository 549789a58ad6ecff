import ConfigReference.Yaml.Character
import ConfigReference.Yaml.Fault

/-!
# Cursors

A reader's place in a text, and the small steps by which it moves.
-/

set_option autoImplicit false

namespace ConfigReference.Yaml

/-- What is left to read, and where. `inMargin` holds while only blanks were passed on the
line. -/
structure Cursor where
  rest : List Char
  mark : Mark := {}
  inMargin : Bool := true
  /-- How many of the next characters were looked at already. -/
  seen : Nat := 0
  deriving Inhabited

abbrev Scan := StateT Cursor (Except SyntaxError)

namespace Cursor

def peek (c : Cursor) : Char := c.rest.headD endMark

def peekAt (c : Cursor) (n : Nat) : Char := c.rest.getD n endMark

def look (c : Cursor) (n : Nat) : Cursor := { c with seen := max c.seen n }

def pass (c : Cursor) (n : Nat) : Cursor :=
  { c with
    rest := c.rest.drop n
    mark := { c.mark with index := c.mark.index + n, column := c.mark.column + n }
    seen := c.seen - n }

/-- Move past `n` characters of the line, those that were not looked at before counting as many
places as they have octets. -/
def passWide (c : Cursor) (n : Nat) : Cursor :=
  let fresh := (c.rest.take n).drop c.seen
  let extra := fresh.foldl (fun n a => n + (a.utf8Size - 1)) 0
  let c := c.pass n
  { c with mark := { c.mark with index := c.mark.index + extra, column := c.mark.column + extra } }

def advance (c : Cursor) (n : Nat) : Cursor :=
  if n = 0 then c else { c.pass n with inMargin := false }

def breakLine (c : Cursor) : Cursor :=
  let c := if c.peek == '\r' && c.peekAt 1 == '\n' then c.pass 1 else c
  { rest := c.rest.drop 1
    mark := { index := c.mark.index + 1, line := c.mark.line + 1, column := 0 }
    inMargin := true
    seen := c.seen - 1 }

/-- Whether three equal characters `c` and a separator start the line here. -/
def atDocumentMark (c : Cursor) (mark : Char) : Bool :=
  c.mark.column == 0 && c.peek == mark && c.peekAt 1 == mark && c.peekAt 2 == mark
    && isSeparator (c.peekAt 3)

def atDocumentIndicator (c : Cursor) : Bool := c.atDocumentMark '-' || c.atDocumentMark '.'

end Cursor

namespace Scan

def failAt {α : Type} (mark : Mark) (fault : Fault) : Scan α := throw ⟨fault, mark⟩

def peek : Scan Char := return (← get).peek

def peekAt (n : Nat) : Scan Char := return (← get).peekAt n

def mark : Scan Mark := return (← get).mark

def fail {α : Type} (fault : Fault) : Scan α := do failAt (← mark) fault

def advance (n : Nat := 1) : Scan Unit := modify (·.advance n)

def pass (n : Nat := 1) : Scan Unit := modify (·.pass n)

def look (n : Nat) : Scan Unit := modify (·.look n)

def breakLine : Scan Unit := modify (·.breakLine)

def takeWhile (p : Char → Bool) : Scan (List Char) := do
  let run := (← get).rest.takeWhile p
  advance run.length
  return run

def takeGap (p : Char → Bool) : Scan (List Char) := do
  let run := (← get).rest.takeWhile p
  pass run.length
  return run

def skipComment : Scan Unit := do
  let _ ← takeWhile (!isBreakOrEnd ·)

def skipToLineEnd (isBlank : Char → Bool := isGap) : Scan (List Char) := do
  let gap ← takeGap isBlank
  if (← peek) == '#' then
    if gap.isEmpty then fail .gluedComment
    skipComment
  return gap

/-- Pass blanks, comments and line breaks up to the next token, in at most `fuel` steps. Yields
whether a line break was among them. `margin` is the column that a tab may not stand left of. -/
def skipToTokenWithin (margin : Option Int) : Nat → Bool → Scan Bool
  | 0, crossed => return crossed
  | fuel + 1, crossed => do
    let c ← get
    match c.peek with
    | '\t' =>
      if c.inMargin && margin.any ((c.mark.column : Int) < ·) then
        let _ ← skipToLineEnd
        if !isBreakOrEnd (← peek) then fail .tabIndentation
      else pass
      skipToTokenWithin margin fuel crossed
    | ' ' => pass; skipToTokenWithin margin fuel crossed
    | '#' => skipComment; skipToTokenWithin margin fuel crossed
    | c =>
      if isBreak c then
        breakLine
        skipToTokenWithin margin fuel true
      else return crossed

def skipToToken (margin : Option Int) : Scan Bool := do
  skipToTokenWithin margin ((← get).rest.length + 1) false

/-- Pass spaces, line breaks and comments, of which there is at least one. Yields whether a line
break was among them. -/
def skipBlanksWithin : Nat → Bool → Bool → Scan Bool
  | 0, _, crossed => return crossed
  | fuel + 1, found, crossed => do
    match ← peek with
    | ' ' => pass; skipBlanksWithin fuel true crossed
    | '#' => skipComment; skipBlanksWithin fuel found crossed
    | c =>
      if isBreak c then
        breakLine
        skipBlanksWithin fuel true true
      else if found then return crossed
      else fail .expectedBlank

def skipBlanks : Scan Bool := do
  skipBlanksWithin ((← get).rest.length + 1) false false

end Scan

end ConfigReference.Yaml
