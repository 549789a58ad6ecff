import ConfigReference.Yaml.Token
import ConfigReference.Yaml.Token.Cursor

/-!
# Tags, anchors and directives
-/

set_option autoImplicit false

namespace ConfigReference.Yaml.Scan

def escapeWidth? (byte : Nat) : Option Nat :=
  if byte < 0x80 then some 1
  else if byte / 32 = 0b110 then some 2
  else if byte / 16 = 0b1110 then some 3
  else if byte / 8 = 0b11110 then some 4
  else none

def escapedByte (start : Mark) : Scan Nat := do
  let high ← peekAt 1
  let low ← peekAt 2
  if (← peek) == '%' && isHexDigit high && isHexDigit low then
    advance 3
    return hexValue [high, low]
  else failAt start .tagEscape

/-- Further escaped bytes of one character, each shifted in whole. -/
def escapedTail (start : Mark) : Nat → Nat → Scan Nat
  | 0, code => return code
  | more + 1, code => do
    let byte ← escapedByte start
    if byte / 64 ≠ 0b10 then failAt start .tagEscapeTail
    escapedTail start more (code * 256 + byte)

def uriEscape (start : Mark) : Scan Char := do
  let byte ← escapedByte start
  let some width := escapeWidth? byte | failAt start .tagEscapeLead
  let code ← escapedTail start (width - 1) byte
  if code.isValidChar then return Char.ofNat code else failAt start .tagEscapeCode

def uriRunWithin (start : Mark) (p : Char → Bool) : Nat → List Char → Scan (List Char)
  | 0, passed => return passed.reverse
  | fuel + 1, passed => do
    let c ← peek
    if !p c then return passed.reverse
    else if c == '%' then
      let c ← uriEscape start
      uriRunWithin start p fuel (c :: passed)
    else
      advance
      uriRunWithin start p fuel (c :: passed)

def uriRun (start : Mark) (p : Char → Bool) : Scan (List Char) := do
  uriRunWithin start p ((← get).rest.length + 1) []

/-- `!`, or a name between two of them. In a directive a name without the second one is refused. -/
def tagHandle (inDirective : Bool) (start : Mark) : Scan (List Char) := do
  if (← peek) != '!' then failAt start .tagMark
  advance
  let name ← takeWhile isNameChar
  if (← peek) == '!' then
    advance
    return '!' :: name ++ ['!']
  else if inDirective && !name.isEmpty then failAt start .tagDirectiveHandle
  else return '!' :: name

def tagBase (start : Mark) : Scan (List Char) := do
  let c ← peek
  let first ←
    if c == '!' then
      advance
      pure c
    else if !isTagChar c then failAt start .tagStart
    else if c == '%' then uriEscape start
    else
      advance
      pure c
  let rest ← uriRun start isUriChar
  return first :: rest

/-- The rest of a shorthand tag after `head`, whose first character is dropped. -/
def tagSuffix (head : List Char) (start : Mark) : Scan (List Char) := do
  let tail ← uriRun start isTagChar
  if head.isEmpty && tail.isEmpty then failAt start .tagSuffix
  return head.tail ++ tail

def verbatimTag (start : Mark) : Scan (List Char) := do
  advance 2
  let uri ← uriRun start isUriChar
  if (← peek) != '>' then failAt start .verbatimEnd
  advance
  return uri

def shorthandTag (start : Mark) : Scan (List Char × List Char) := do
  let handle ← tagHandle false start
  if 2 ≤ handle.length && handle.getLast? == some '!' then
    let suffix ← tagSuffix [] start
    return (handle, suffix)
  else
    let suffix ← tagSuffix handle start
    return if suffix.isEmpty then ([], ['!']) else (['!'], suffix)

def tag (inFlow : Bool) : Scan PlacedToken := do
  let start ← mark
  let (handle, suffix) ←
    if (← peekAt 1) == '<' then
      let uri ← verbatimTag start
      pure ([], uri)
    else shorthandTag start
  let c ← peek
  if isSeparator c || (inFlow && isFlowIndicator c) then
    return ⟨.tag (String.ofList handle) (String.ofList suffix), start⟩
  else failAt start .tagTrailing

def anchor (toToken : String → Token) : Scan PlacedToken := do
  let start ← mark
  advance
  let name ← takeWhile isAnchorChar
  if name.isEmpty then failAt start .anchorName
  return ⟨toToken (String.ofList name), start⟩

def versionNumber (start : Mark) : Scan Unit := do
  let digits ← takeWhile Char.isDigit
  if 9 < digits.length then failAt start .versionLength
  if digits.isEmpty then failAt start .versionNumber

def directive : Scan PlacedToken := do
  let start ← mark
  advance
  let name ← takeWhile isNameChar
  if name.isEmpty then failAt start .directiveName
  if !isSeparator (← peek) then failAt start .directiveNameCharacter
  let token ←
    if name == "YAML".toList then
      let _ ← takeGap isGap
      versionNumber start
      if (← peek) != '.' then failAt start .versionPoint
      advance
      versionNumber start
      pure Token.versionDirective
    else if name == "TAG".toList then
      let _ ← takeGap isGap
      let handle ← tagHandle true start
      let _ ← takeGap isGap
      let base ← tagBase start
      if !isSeparator (← peek) then failAt start .tagDirectiveBlank
      pure (Token.tagDirective (String.ofList handle) (String.ofList base))
    else
      skipComment
      pure (Token.tagDirective "" "")
  let _ ← skipToLineEnd
  let c ← peek
  if !isBreakOrEnd c then failAt start .directiveTrailing
  if isBreak c then breakLine
  return ⟨token, start⟩

end ConfigReference.Yaml.Scan
