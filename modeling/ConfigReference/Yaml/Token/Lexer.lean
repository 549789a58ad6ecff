import ConfigReference.Yaml.Token.BlockScalar
import ConfigReference.Yaml.Token.FlowScalar
import ConfigReference.Yaml.Token.Tag

/-!
# From text to tokens

A lexer keeps the tokens found so far, the columns of the blocks that are open, and for every flow
level the place where a simple key may have begun. When a colon shows that a simple key did begin
there, the tokens that announce it are put in front of the key.
-/

set_option autoImplicit false

namespace ConfigReference.Yaml

/-- A place where a simple key may have begun: `number` tokens stand in front of it. -/
structure SimpleKey where
  possible : Bool := false
  required : Bool := false
  number : Nat := 0
  mark : Mark := { line := 0 }
  deriving Inhabited

/-- The column outside an open block, and whether leaving the block is a token. -/
structure Indent where
  outside : Int
  isBlock : Bool

structure Lexer where
  cursor : Cursor
  tokens : Array PlacedToken := #[]
  started : Bool := false
  ended : Bool := false
  /-- The column of the innermost block, or `-1`. -/
  indent : Int := -1
  indents : List Indent := []
  keyAllowed : Bool := false
  /-- The innermost flow level first. -/
  keys : List SimpleKey := []
  flowLevel : Nat := 0
  /-- Where a colon is an indicator although no blank follows it. -/
  adjacentValueAt : Nat := 0
  flowMappingStarted : Bool := false
  /-- For every open flow sequence, innermost first, whether a mapping without braces is open. -/
  bareMappings : List Bool := []

abbrev Lex := StateT Lexer (Except SyntaxError)

namespace Lexer

def inFlow (l : Lexer) : Bool := 0 < l.flowLevel

def key (l : Lexer) : SimpleKey := l.keys.headD {}

def setKey (l : Lexer) (k : SimpleKey) : Lexer := { l with keys := k :: l.keys.drop 1 }

def push (l : Lexer) (t : PlacedToken) : Lexer := { l with tokens := l.tokens.push t }

def insertAt (l : Lexer) (number : Nat) (t : PlacedToken) : Lexer :=
  { l with tokens := l.tokens.insertIdxIfInBounds number t }

def closeBlocks (column : Int) (mark : Mark) :
    Int → List Indent → Array PlacedToken → Int × List Indent × Array PlacedToken
  | indent, [], tokens => (indent, [], tokens)
  | indent, i :: rest, tokens =>
    if column < indent then
      let tokens := if i.isBlock then tokens.push ⟨.blockEnd, mark⟩ else tokens
      closeBlocks column mark i.outside rest tokens
    else (indent, i :: rest, tokens)

def unrollTo (l : Lexer) (column : Int) : Lexer :=
  if l.inFlow then l
  else
    let (indent, indents, tokens) :=
      closeBlocks column l.cursor.mark l.indent l.indents l.tokens
    { l with indent, indents, tokens }

def unrollContent : Int → List Indent → Int × List Indent
  | indent, [] => (indent, [])
  | indent, i :: rest => if i.isBlock then (indent, i :: rest) else unrollContent i.outside rest

def dropContentIndents (l : Lexer) : Lexer :=
  let (indent, indents) := unrollContent l.indent l.indents
  { l with indent, indents }

def holdColumn (l : Lexer) : Lexer :=
  if !l.inFlow && (l.indents.head?.any (·.isBlock)) then
    { l with indent := l.indent + 1, indents := ⟨l.indent, false⟩ :: l.indents }
  else l

/-- Open a block at `column`, if that is to the right of the innermost one. `number` is the place
of the token that announces it. -/
def openBlock (l : Lexer) (column : Int) (number : Option Nat) (t : PlacedToken) : Lexer :=
  if l.inFlow then l
  else
    let l :=
      match l.indents with
      | i :: rest =>
        if l.indent ≤ column && !i.isBlock then { l with indent := i.outside, indents := rest }
        else l
      | [] => l
    if l.indent < column then
      let l := { l with indent := column, indents := ⟨l.indent, true⟩ :: l.indents }
      match number with
      | some n => l.insertAt n t
      | none => l.push t
    else l

def saveKey (l : Lexer) : Lexer :=
  if l.keyAllowed then
    let required :=
      !l.inFlow && l.indent == l.cursor.mark.column && l.indents.head?.any (·.isBlock)
    l.setKey ⟨true, required, l.tokens.size, l.cursor.mark⟩
  else l

def allowKey (l : Lexer) : Lexer := { l with keyAllowed := true }

def forbidKey (l : Lexer) : Lexer := { l with keyAllowed := false }

/-- Whether a key that began outside flow collections has been left behind. -/
def isStale (l : Lexer) (k : SimpleKey) : Bool :=
  k.possible && !l.inFlow
    && (k.mark.line < l.cursor.mark.line || k.mark.index + 1024 < l.cursor.mark.index)

def ready (l : Lexer) : Nat :=
  (l.keys.filter (·.possible)).foldl (fun n k => min n k.number) l.tokens.size

end Lexer

namespace Lex

def fail {α : Type} (fault : Fault) : Lex α := do throw ⟨fault, (← get).cursor.mark⟩

def scan {α : Type} (step : Scan α) : Lex α := do
  let l ← get
  let (a, cursor) ← step l.cursor
  set { l with cursor }
  return a

def push (token : Token) (mark : Mark) : Lex Unit := modify (·.push ⟨token, mark⟩)

def dropStaleKeys : Lex Unit := do
  let l ← get
  if l.keys.any fun k => l.isStale k && k.required then fail .expectedKeyColon
  let keys := l.keys.map fun (k : SimpleKey) =>
    if l.isStale k then { k with possible := false } else k
  set { l with keys }

def dropKey : Lex Unit := do
  let l ← get
  if l.key.possible && l.key.required then fail .expectedSimpleKey
  set (l.setKey { l.key with possible := false })

def skipToToken : Lex Unit := do
  let l ← get
  let margin := if l.indents.isEmpty then none else some l.indent
  let crossed ← scan (Scan.skipToToken margin)
  if crossed && !l.inFlow then modify (·.allowKey)

def streamStart : Lex Unit := do
  let mark := (← get).cursor.mark
  modify fun l => { l with started := true, keys := {} :: l.keys }
  modify (·.allowKey)
  push .streamStart mark

def streamEnd : Lex Unit := do
  modify fun l =>
    if l.cursor.mark.column = 0 then l
    else
      let mark := { l.cursor.mark with line := l.cursor.mark.line + 1, column := 0 }
      { l with cursor := { l.cursor with mark := mark } }
  let l ← get
  if l.keys.any fun k => k.required && k.possible then fail .expectedSimpleKey
  set { l with keys := l.keys.map fun (k : SimpleKey) => { k with possible := false } }
  modify (·.unrollTo (-1))
  dropKey
  modify (·.forbidKey)
  push .streamEnd (← get).cursor.mark
  modify fun l => { l with ended := true }

def directive : Lex Unit := do
  modify (·.unrollTo (-1))
  dropKey
  modify (·.forbidKey)
  let t ← scan Scan.directive
  modify (·.push t)

def documentIndicator (token : Token) : Lex Unit := do
  modify (·.unrollTo (-1))
  dropKey
  modify (·.forbidKey)
  let mark := (← get).cursor.mark
  scan (Scan.advance 3)
  push token mark

def flowStart (token : Token) : Lex Unit := do
  modify (·.saveKey)
  modify (·.holdColumn)
  if (← get).flowLevel = 255 then fail .nestingTooDeep
  modify fun l => { l with keys := {} :: l.keys, flowLevel := l.flowLevel + 1 }
  modify (·.allowKey)
  let mark := (← get).cursor.mark
  scan Scan.advance
  modify fun l =>
    if token = .flowMappingStart then { l with flowMappingStarted := true }
    else { l with bareMappings := false :: l.bareMappings }
  let _ ← scan Scan.skipToLineEnd
  push token mark

/-- Close the mapping without braces that an item of a flow sequence opened, if any. -/
def endBareMapping : Lex Unit := do
  let l ← get
  match l.bareMappings with
  | true :: rest =>
    set { l with flowMappingStarted := false, bareMappings := false :: rest }
    push .flowMappingEnd l.cursor.mark
  | _ => return

def flowEnd (token : Token) : Lex Unit := do
  dropKey
  modify fun l =>
    if l.inFlow then { l with flowLevel := l.flowLevel - 1, keys := l.keys.drop 1 } else l
  modify (·.forbidKey)
  if token = .flowSequenceEnd then
    endBareMapping
    modify fun l => { l with bareMappings := l.bareMappings.drop 1 }
  let mark := (← get).cursor.mark
  scan Scan.advance
  let _ ← scan Scan.skipToLineEnd
  modify fun l => if l.inFlow then { l with adjacentValueAt := l.cursor.mark.index } else l
  push token mark

def flowEntry : Lex Unit := do
  dropKey
  modify (·.allowKey)
  endBareMapping
  let mark := (← get).cursor.mark
  scan Scan.advance
  let _ ← scan Scan.skipToLineEnd
  push .flowEntry mark

def isNodeProperty : Token → Bool
  | .anchor _ => true
  | .tag _ _ => true
  | _ => false

def blockEntry : Lex Unit := do
  let l ← get
  if l.inFlow then fail .entryInFlow
  if !l.keyAllowed then fail .entryNotAllowed
  match l.tokens.back? with
  | some t =>
    if isNodeProperty t.token && l.cursor.mark.column == 0 && t.mark.column == 0 && -1 < l.indent
    then throw ⟨.anchorIndentation, t.mark⟩
  | none => pure ()
  let mark := l.cursor.mark
  scan Scan.advance
  modify (·.openBlock mark.column none ⟨.blockSequenceStart, mark⟩)
  let gap ← scan Scan.skipToLineEnd
  let c := (← get).cursor
  if gap.contains '\t' && c.peek == '-' && isSeparator (c.peekAt 1) then fail .entryAfterTab
  let _ ← scan (Scan.skipToLineEnd (· == ' '))
  let next := (← get).cursor.peek
  if isBreak next || isFlowIndicator next then modify (·.holdColumn)
  dropKey
  modify (·.allowKey)
  push .blockEntry (← get).cursor.mark

def keyIndicator : Lex Unit := do
  let l ← get
  let mark := l.cursor.mark
  if l.inFlow then modify fun l => { l with flowMappingStarted := true }
  else
    if !l.keyAllowed then fail .keyNotAllowed
    modify (·.openBlock mark.column none ⟨.blockMappingStart, mark⟩)
  dropKey
  modify fun l => { l with keyAllowed := !l.inFlow }
  scan Scan.advance
  let crossed ← scan Scan.skipBlanks
  if crossed && !l.inFlow then modify (·.allowKey)
  if (← get).cursor.peek == '\t' then fail .tabInContext
  push .key mark

def valueIndicator : Lex Unit := do
  let l ← get
  let k := l.key
  let mark := l.cursor.mark
  let opensBare := !l.bareMappings.isEmpty && !l.flowMappingStarted
  if opensBare then modify fun l => { l with bareMappings := true :: l.bareMappings.drop 1 }
  scan Scan.advance
  if (← get).cursor.peek == '\t' then
    let gap ← scan Scan.skipToLineEnd
    let next := (← get).cursor.peek
    if !gap.contains ' ' && (next == '-' || isNameChar next) then fail .valueAfterTab
  let here := (← get).cursor.mark
  if k.possible then
    modify (·.insertAt k.number ⟨.key, k.mark⟩)
    if opensBare then
      if k.mark.line < mark.line then throw ⟨.misplacedColon, mark⟩
      modify (·.insertAt k.number ⟨.flowMappingStart, here⟩)
    modify (·.openBlock k.mark.column (some k.number) ⟨.blockMappingStart, mark⟩)
    modify (·.holdColumn)
    modify fun l => l.setKey { l.key with possible := false }
    modify (·.forbidKey)
  else
    if opensBare then push .flowMappingStart here
    if !l.inFlow then
      if !l.keyAllowed then throw ⟨.valueNotAllowed, mark⟩
      modify (·.openBlock mark.column none ⟨.blockMappingStart, mark⟩)
    modify (·.holdColumn)
    modify fun l => { l with keyAllowed := !l.inFlow }
  push .value mark

def keyCandidate (step : Scan PlacedToken) : Lex Unit := do
  modify (·.saveKey)
  modify (·.forbidKey)
  let t ← scan step
  modify (·.push t)

def blockScalar (style : ScalarStyle) : Lex Unit := do
  modify (·.saveKey)
  modify (·.allowKey)
  modify (·.dropContentIndents)
  let parent := (← get).indent
  let t ← scan (Scan.blockScalar style parent)
  modify (·.push t)

def quotedScalar (quote : Char) : Lex Unit := do
  modify (·.saveKey)
  modify (·.forbidKey)
  let l ← get
  let t ← scan (Scan.quotedScalar quote l.inFlow l.indent)
  skipToToken
  modify fun l => { l with adjacentValueAt := l.cursor.mark.index }
  modify (·.push t)

def plainScalar : Lex Unit := do
  modify (·.saveKey)
  modify (·.forbidKey)
  modify (·.dropContentIndents)
  let l ← get
  let t ← scan (Scan.plainScalar l.inFlow (l.indent + 1))
  if (← get).cursor.inMargin then modify (·.allowKey)
  modify (·.push t)

def isValueColon (l : Lexer) : Bool :=
  let next := l.cursor.peekAt 1
  isSeparator next
    || (l.inFlow && (isFlowIndicator next || l.cursor.mark.index == l.adjacentValueAt))

def tokenHere : Lex Unit := do
  let l ← get
  let c := l.cursor.peek
  let apart := isSeparator (l.cursor.peekAt 1)
  if c == '[' then flowStart .flowSequenceStart
  else if c.toNat == 0x7B then flowStart .flowMappingStart
  else if c == ']' then flowEnd .flowSequenceEnd
  else if c.toNat == 0x7D then flowEnd .flowMappingEnd
  else if c == ',' then flowEntry
  else if c == '-' && apart then blockEntry
  else if c == '?' && apart then keyIndicator
  else if c == ':' && isValueColon l then valueIndicator
  else if c == '*' then keyCandidate (Scan.anchor .aliasTo)
  else if c == '&' then keyCandidate (Scan.anchor .anchor)
  else if c == '!' then keyCandidate (Scan.tag l.inFlow)
  else if c == '|' && !l.inFlow then blockScalar .literal
  else if c == '>' && !l.inFlow then blockScalar .folded
  else if c == '\'' || c == '"' then quotedScalar c
  else if c == '%' || c == '@' || c.toNat == 0x60 then fail (.unexpectedCharacter c)
  else plainScalar

def next : Lex Unit := do
  if !(← get).started then streamStart
  else
    skipToToken
    dropStaleKeys
    modify fun l => l.unrollTo l.cursor.mark.column
    let l ← get
    let c := l.cursor
    if isEnd c.peek then streamEnd
    else if c.mark.column == 0 && c.peek == '%' then directive
    else if c.atDocumentMark '-' then documentIndicator .documentStart
    else if c.atDocumentMark '.' then
      documentIndicator .documentEnd
      let _ ← scan Scan.skipToLineEnd
      if !isBreakOrEnd (← get).cursor.peek then fail .contentAfterDocumentEnd
    else if (c.mark.column : Int) < l.indent then fail .invalidIndentation
    else tokenHere

def step : Lex Unit := do
  next
  dropStaleKeys

end Lex

/-- The tokens of a text, and the error that stands behind them if the text is at fault. Tokens that
an error kept undecided are not among them. -/
structure TokenStream where
  tokens : List PlacedToken
  error : Option SyntaxError

def Lexer.run : Nat → Lexer → TokenStream
  | 0, l => ⟨l.tokens.toList, none⟩
  | fuel + 1, l =>
    if l.ended then ⟨l.tokens.toList, none⟩
    else
      match Lex.step l with
      | .error e => ⟨l.tokens.toList.take l.ready, some e⟩
      | .ok (_, l) => l.run fuel

def TokenStream.ofText (text : List Char) : TokenStream :=
  Lexer.run (text.length + 3) { cursor := { rest := text } }

end ConfigReference.Yaml
