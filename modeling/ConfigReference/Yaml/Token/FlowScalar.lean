import ConfigReference.Yaml.Token
import ConfigReference.Yaml.Token.Cursor

/-!
# Plain and quoted scalars

Both fold their lines: a single line break between two lines of text becomes a space, and of more
line breaks the first is dropped.
-/

set_option autoImplicit false

namespace ConfigReference.Yaml.Scan

/-- Blanks and line breaks since the last character of text. `broken` records the first line
break, `more` counts the others. -/
structure FoldGap where
  blanks : List Char := []
  broken : Bool := false
  more : Nat := 0

def FoldGap.folded (g : FoldGap) : List Char :=
  if g.broken && g.more == 0 then [' '] else List.replicate g.more '\n'

def isPlainChar (inFlow : Bool) (c next : Char) : Bool :=
  !(c == ':' && (isSeparator next || (inFlow && isFlowIndicator next)))
    && !(inFlow && isFlowIndicator c)

def plainRun (inFlow : Bool) : List Char → List Char
  | [] => []
  | c :: rest =>
    if !isSeparator c && isPlainChar inFlow c (rest.headD endMark) then c :: plainRun inFlow rest
    else []

/-- Pass blanks and line breaks inside a plain scalar. `margin` is the column that a tab may not
stand left of in front of text. -/
def plainGap (margin : Int) (start : Mark) : Nat → FoldGap → Scan FoldGap
  | 0, gap => return gap
  | fuel + 1, gap => do
    let c ← get
    if isGap c.peek then
      if !c.inMargin then
        pass
        plainGap margin start fuel { gap with blanks := gap.blanks ++ [c.peek] }
      else if (c.mark.column : Int) < margin && c.peek == '\t' then
        let _ ← skipToLineEnd
        if !isBreakOrEnd (← peek) then failAt start .plainTab
        plainGap margin start fuel gap
      else
        pass
        plainGap margin start fuel gap
    else if isBreak c.peek then
      breakLine
      if c.inMargin then plainGap margin start fuel { gap with more := gap.more + 1 }
      else plainGap margin start fuel { gap with blanks := [], broken := true }
    else return gap

def plainLines (inFlow : Bool) (margin : Int) (start : Mark) :
    Nat → List Char → FoldGap → Scan (List Char)
  | 0, text, _ => return text
  | fuel + 1, text, gap => do
    let c ← get
    if c.atDocumentIndicator || c.peek == '#' then return text
    if inFlow && c.peek == '-' && isFlowIndicator (c.peekAt 1) then fail .plainDash
    let run := plainRun inFlow c.rest
    let joint := if c.inMargin then gap.folded else gap.blanks
    let (text, gap) := if run.isEmpty then (text, gap) else (text ++ joint ++ run, {})
    advance run.length
    let next ← peek
    if !(isGap next || isBreak next) then return text
    let gap ← plainGap margin start ((← get).rest.length + 1) gap
    if !inFlow && ((← mark).column : Int) < margin then return text
    plainLines inFlow margin start fuel text gap

/-- A plain scalar. Its further lines stand at column `margin` or to the right of it. -/
def plainScalar (inFlow : Bool) (margin : Int) : Scan PlacedToken := do
  let start ← mark
  if inFlow && (start.column : Int) < margin then failAt start .flowIndentation
  let text ← plainLines inFlow margin start ((← get).rest.length + 1) [] {}
  return ⟨.scalar .plain (String.ofList text), start⟩

def simpleEscape? : Char → Option Char
  | '0' => some (Char.ofNat 0x00)
  | 'a' => some (Char.ofNat 0x07)
  | 'b' => some (Char.ofNat 0x08)
  | 't' => some '\t'
  | '\t' => some '\t'
  | 'n' => some '\n'
  | 'v' => some (Char.ofNat 0x0B)
  | 'f' => some (Char.ofNat 0x0C)
  | 'r' => some '\r'
  | 'e' => some (Char.ofNat 0x1B)
  | ' ' => some ' '
  | '"' => some '"'
  | '/' => some '/'
  | '\\' => some '\\'
  | 'N' => some (Char.ofNat 0x85)
  | '_' => some (Char.ofNat 0xA0)
  | 'L' => some (Char.ofNat 0x2028)
  | 'P' => some (Char.ofNat 0x2029)
  | _ => none

def escapeDigits? : Char → Option Nat
  | 'x' => some 2
  | 'u' => some 4
  | 'U' => some 8
  | _ => none

def escape (start : Mark) : Scan Char := do
  let letter ← peekAt 1
  match simpleEscape? letter, escapeDigits? letter with
  | some c, _ =>
    advance 2
    return c
  | none, some count =>
    advance 2
    let digits := (← get).rest.take count
    if digits.length < count || !digits.all isHexDigit then failAt start .quotedHex
    let code := hexValue digits
    if !code.isValidChar then failAt start .quotedCode
    advance count
    return Char.ofNat code
  | none, none => failAt start .quotedEscape

/-- The text of a quoted scalar up to a blank, a line break or the closing quote, collected in
reverse. Yields whether it ended at an escaped line break. -/
def quotedRun (quote : Char) (start : Mark) : Nat → List Char → Scan (List Char × Bool)
  | 0, text => return (text, false)
  | fuel + 1, text => do
    let c ← peek
    let next ← peekAt 1
    if isSeparator c then return (text, false)
    else if c == quote then
      if quote == '\'' && next == '\'' then
        advance 2
        quotedRun quote start fuel ('\'' :: text)
      else return (text, false)
    else if c == '\\' && quote == '"' then
      if isBreak next then
        advance
        breakLine
        return (text, true)
      else
        let c ← escape start
        quotedRun quote start fuel (c :: text)
    else
      advance
      quotedRun quote start fuel (c :: text)

/-- Pass blanks and line breaks inside a quoted scalar; `margin` is the column that a tab may not
stand left of. `onNewLine` holds after a line break. -/
def quotedGap (margin : Int) : Nat → Bool → FoldGap → Scan (Bool × FoldGap)
  | 0, onNewLine, gap => return (onNewLine, gap)
  | fuel + 1, onNewLine, gap => do
    let c ← get
    if isGap c.peek then
      if onNewLine then
        if c.peek == '\t' && (c.mark.column : Int) < margin then fail .quotedTab
        pass
        quotedGap margin fuel onNewLine gap
      else
        pass
        quotedGap margin fuel onNewLine { gap with blanks := gap.blanks ++ [c.peek] }
    else if isBreak c.peek then
      breakLine
      if onNewLine then quotedGap margin fuel true { gap with more := gap.more + 1 }
      else quotedGap margin fuel true { gap with blanks := [], broken := true }
    else return (onNewLine, gap)

def quotedLines (quote : Char) (margin : Int) (start : Mark) : Nat → List Char → Scan (List Char)
  | 0, text => return text.reverse
  | fuel + 1, text => do
    let c ← get
    if c.atDocumentIndicator then failAt start .quotedDocumentMark
    if isEnd c.peek then failAt start .quotedEnd
    if (c.mark.column : Int) < margin then failAt start .quotedIndentation
    let (text, escapedBreak) ← quotedRun quote start (c.rest.length + 1) text
    if (← peek) == quote then return text.reverse
    let (onNewLine, gap) ← quotedGap margin ((← get).rest.length + 1) escapedBreak {}
    let joint := if onNewLine then gap.folded else gap.blanks
    quotedLines quote margin start fuel (joint.reverse ++ text)

def quotedScalar (quote : Char) (inFlow : Bool) (margin : Int) : Scan PlacedToken := do
  let start ← mark
  advance
  let text ← quotedLines quote margin start ((← get).rest.length + 2) []
  advance
  let _ ← skipToLineEnd
  let c ← get
  let closed :=
    isBreakOrEnd c.peek
      || (inFlow && (c.peek == ',' || c.peek == ']' || c.peek.toNat == 0x7D || c.peek == ':'))
      || (!inFlow && c.peek == ':' && start.line == c.mark.line)
  if !closed then fail .quotedTrailing
  let style := if quote == '\'' then ScalarStyle.singleQuoted else .doubleQuoted
  return ⟨.scalar style (String.ofList text), start⟩

end ConfigReference.Yaml.Scan
