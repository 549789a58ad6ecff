import ConfigReference.Yaml.Event
import ConfigReference.Yaml.Token.Lexer

/-!
# From tokens to events

The grammar of the first document of a stream, as an automaton with a stack: a state says what may
stand next, and the stack what follows the construct under way.
-/

set_option autoImplicit false

namespace ConfigReference.Yaml

/-- What may stand next. `first` holds at the start of a collection. -/
inductive Expect where
  | node
  | documentContent
  | documentEnd
  | blockSequenceEntry (first : Bool)
  | indentlessEntry
  | blockMappingKey (first : Bool)
  | blockMappingValue
  | flowSequenceEntry (first : Bool)
  | pairKey
  | pairValue
  | pairEnd
  | flowMappingKey (first : Bool)
  | flowMappingValue (left : Bool)
  deriving DecidableEq, Inhabited, Repr

structure Grammar where
  tokens : List PlacedToken
  error : Option SyntaxError
  state : Expect := .node
  stack : List Expect := []
  /-- The numbers of the anchors, the latest first. -/
  anchors : List (String × Nat) := []
  /-- Handles with what they stand for. -/
  tags : List (String × String) := []

abbrev Parse := StateT Grammar (Except SyntaxError)

namespace Parse

def failAt {α : Type} (mark : Mark) (fault : Fault) : Parse α := throw ⟨fault, mark⟩

def peek : Parse PlacedToken := do
  let g ← get
  match g.tokens with
  | t :: _ => return t
  | [] => throw (g.error.getD ⟨.unexpectedEnd, {}⟩)

def skip : Parse Unit := modify fun g => { g with tokens := g.tokens.drop 1 }

def goTo (state : Expect) : Parse Unit := modify fun g => { g with state }

def pushState (state : Expect) : Parse Unit := modify fun g => { g with stack := state :: g.stack }

def popState : Parse Unit :=
  modify fun g => { g with state := g.stack.headD .documentEnd, stack := g.stack.drop 1 }

def emit (event : Event) (mark : Mark) : Parse PlacedEvent := return ⟨event, mark⟩

def leaveOut (state : Expect) (mark : Mark) : Parse PlacedEvent := do
  goTo state
  emit .omitted mark

def close (event : Event) (mark : Mark) : Parse PlacedEvent := do
  popState
  skip
  emit event mark

def registerAnchor (name : String) : Parse Nat := do
  let g ← get
  let number := g.anchors.length + 1
  set { g with anchors := (name, number) :: g.anchors }
  return number

def isNamedHandle (handle : String) : Bool :=
  let cs := handle.toList
  2 ≤ cs.length && cs.head? == some '!' && cs.getLast? == some '!'

def resolveTag (mark : Mark) (handle suffix : String) : Parse Tag := do
  let tags := (← get).tags
  match tags.lookup handle with
  | some base => return ⟨base, suffix⟩
  | none =>
    if handle == "!!" then return ⟨"tag:yaml.org,2002:", suffix⟩
    else if isNamedHandle handle then failAt mark .undeclaredHandle
    else return ⟨handle, suffix⟩

def properties : Parse (Option Nat × Option Tag) := do
  let t ← peek
  match t.token with
  | .anchor name =>
    skip
    let number ← registerAnchor name
    match (← peek).token with
    | .tag handle suffix =>
      skip
      return (some number, some (← resolveTag t.mark handle suffix))
    | _ => return (some number, none)
  | .tag handle suffix =>
    skip
    let tag ← resolveTag t.mark handle suffix
    match (← peek).token with
    | .anchor name =>
      skip
      return (some (← registerAnchor name), some tag)
    | _ => return (none, some tag)
  | _ => return (none, none)

def content (block indentless : Bool) (anchor : Option Nat) (tag : Option Tag) :
    Parse PlacedEvent := do
  let t ← peek
  match t.token, block, indentless with
  | .blockEntry, _, true =>
    goTo .indentlessEntry
    emit (.sequenceStart anchor tag) t.mark
  | .scalar style text, _, _ =>
    popState
    skip
    emit (.scalar text style anchor tag) t.mark
  | .flowSequenceStart, _, _ =>
    goTo (.flowSequenceEntry true)
    emit (.sequenceStart anchor tag) t.mark
  | .flowMappingStart, _, _ =>
    goTo (.flowMappingKey true)
    emit (.mappingStart anchor tag) t.mark
  | .blockSequenceStart, true, _ =>
    goTo (.blockSequenceEntry true)
    emit (.sequenceStart anchor tag) t.mark
  | .blockMappingStart, true, _ =>
    goTo (.blockMappingKey true)
    emit (.mappingStart anchor tag) t.mark
  | _, _, _ =>
    if anchor.isSome || tag.isSome then
      popState
      emit (.scalar "" .plain anchor tag) t.mark
    else failAt t.mark .nodeContent

def node (block indentless : Bool) : Parse PlacedEvent := do
  let t ← peek
  match t.token with
  | .aliasTo name =>
    popState
    skip
    match (← get).anchors.lookup name with
    | some number => emit (.aliasTo number) t.mark
    | none => failAt t.mark .unknownAnchor
  | _ =>
    let (anchor, tag) ← properties
    content block indentless anchor tag

def nodeThen (state : Expect) (block indentless : Bool) : Parse PlacedEvent := do
  pushState state
  node block indentless

def skipIf (first : Bool) : Parse Unit := do
  if first then
    let _ ← peek
    skip

def isMappingPart : Token → Bool
  | .key => true
  | .value => true
  | .blockEnd => true
  | _ => false

def blockMappingKey (first : Bool) : Parse PlacedEvent := do
  skipIf first
  let t ← peek
  match t.token with
  | .key =>
    skip
    let next ← peek
    if isMappingPart next.token then leaveOut .blockMappingValue next.mark
    else nodeThen .blockMappingValue true true
  | .value => leaveOut .blockMappingValue t.mark
  | .blockEnd => close .mappingEnd t.mark
  | _ => failAt t.mark .blockMappingKey

def blockMappingValue : Parse PlacedEvent := do
  let t ← peek
  if t.token = .value then
    skip
    let next ← peek
    if isMappingPart next.token then leaveOut (.blockMappingKey false) next.mark
    else nodeThen (.blockMappingKey false) true true
  else leaveOut (.blockMappingKey false) t.mark

def blockSequenceEntry (first : Bool) : Parse PlacedEvent := do
  skipIf first
  let t ← peek
  match t.token with
  | .blockEnd => close .sequenceEnd t.mark
  | .blockEntry =>
    skip
    let next ← peek
    if next.token = .blockEntry || next.token = .blockEnd then
      leaveOut (.blockSequenceEntry false) next.mark
    else nodeThen (.blockSequenceEntry false) true false
  | _ => failAt t.mark .blockSequenceEntry

def indentlessEntry : Parse PlacedEvent := do
  let t ← peek
  if t.token = .blockEntry then
    skip
    let next ← peek
    if next.token = .blockEntry || isMappingPart next.token then
      leaveOut .indentlessEntry next.mark
    else nodeThen .indentlessEntry true false
  else
    popState
    emit .sequenceEnd t.mark

def separator (first : Bool) (closing : Token) (fault : Fault) : Parse Unit := do
  if !first then
    let t ← peek
    if t.token = .flowEntry then skip
    else if t.token ≠ closing then failAt t.mark fault

def flowSequenceEntry (first : Bool) : Parse PlacedEvent := do
  skipIf first
  let t ← peek
  if t.token = .flowSequenceEnd then close .sequenceEnd t.mark
  else
    separator first .flowSequenceEnd .flowSequenceEntry
    let t ← peek
    match t.token with
    | .flowSequenceEnd => close .sequenceEnd t.mark
    | .key =>
      skip
      goTo .pairKey
      emit (.mappingStart none none) t.mark
    | _ => nodeThen (.flowSequenceEntry false) false false

def pairKey : Parse PlacedEvent := do
  let t ← peek
  if t.token = .value || t.token = .flowEntry || t.token = .flowSequenceEnd then
    skip
    leaveOut .pairValue t.mark
  else nodeThen .pairValue false false

def pairValue : Parse PlacedEvent := do
  let t ← peek
  if t.token = .value then
    skip
    let next ← peek
    if next.token = .flowEntry || next.token = .flowSequenceEnd then leaveOut .pairEnd next.mark
    else nodeThen .pairEnd false false
  else leaveOut .pairEnd t.mark

def flowMappingKey (first : Bool) : Parse PlacedEvent := do
  skipIf first
  let t ← peek
  if t.token = .flowMappingEnd then close .mappingEnd t.mark
  else
    separator first .flowMappingEnd .flowMappingEntry
    let here ← peek
    match here.token with
    | .key =>
      skip
      let next ← peek
      if next.token = .value || next.token = .flowEntry || next.token = .flowMappingEnd then
        leaveOut (.flowMappingValue false) next.mark
      else nodeThen (.flowMappingValue false) false false
    | .value => leaveOut (.flowMappingValue false) here.mark
    | .flowMappingEnd => close .mappingEnd t.mark
    | _ => nodeThen (.flowMappingValue true) false false

/-- The value of a flow mapping's key, `left` telling that it was left out with its colon. -/
def flowMappingValue (left : Bool) : Parse PlacedEvent := do
  let t ← peek
  if left then leaveOut (.flowMappingKey false) t.mark
  else if t.token = .value then
    skip
    let next ← peek
    if next.token = .flowEntry || next.token = .flowMappingEnd then
      leaveOut (.flowMappingKey false) t.mark
    else nodeThen (.flowMappingKey false) false false
  else leaveOut (.flowMappingKey false) t.mark

def documentContent : Parse PlacedEvent := do
  let t ← peek
  match t.token with
  | .versionDirective | .tagDirective _ _ | .documentStart | .documentEnd | .streamEnd =>
    popState
    emit .omitted t.mark
  | _ => node true false

def event : Parse PlacedEvent := do
  match (← get).state with
  | .node => node true false
  | .documentContent => documentContent
  | .blockSequenceEntry first => blockSequenceEntry first
  | .indentlessEntry => indentlessEntry
  | .blockMappingKey first => blockMappingKey first
  | .blockMappingValue => blockMappingValue
  | .flowSequenceEntry first => flowSequenceEntry first
  | .pairKey => pairKey
  | .pairValue => pairValue
  | .pairEnd =>
    goTo (.flowSequenceEntry false)
    emit .mappingEnd {}
  | .flowMappingKey first => flowMappingKey first
  | .flowMappingValue left => flowMappingValue left
  | .documentEnd => failAt {} .unexpectedEnd

/-- Read directives, in at most `fuel` steps. The tags of a later directive take the place of those
of the directives before it. -/
def directives : Nat → Bool → Parse Unit
  | 0, _ => return
  | fuel + 1, versioned => do
    let t ← peek
    match t.token with
    | .versionDirective =>
      if versioned then failAt t.mark .duplicateVersion
      modify fun g => { g with tags := [] }
      skip
      directives fuel true
    | .tagDirective handle base =>
      modify fun g => { g with tags := [(handle, base)] }
      skip
      directives fuel versioned
    | _ => return

def skipDocumentEnds : Nat → Parse Unit
  | 0 => return
  | fuel + 1 => do
    if (← peek).token = .documentEnd then
      skip
      skipDocumentEnds fuel

/-- Begin the first document. Yields whether there is one. -/
def documentStart : Parse Bool := do
  let first ← peek
  if first.token ≠ .streamStart then failAt first.mark .streamStart
  skip
  let fuel := (← get).tokens.length + 1
  skipDocumentEnds fuel
  let t ← peek
  match t.token with
  | .streamEnd => return false
  | .versionDirective | .tagDirective _ _ | .documentStart =>
    directives fuel false
    let t ← peek
    if t.token ≠ .documentStart then failAt t.mark .documentStart
    skip
    goTo .documentContent
    return true
  | _ =>
    goTo .node
    return true

/-- Finish the document: a directive may follow only an explicit end. -/
def documentEnd : Parse Unit := do
  let t ← peek
  match t.token with
  | .versionDirective | .tagDirective _ _ => failAt t.mark .directiveWithoutDocumentEnd
  | _ => return

end Parse

/-- Run the automaton until the document ends, in at most `fuel` steps, `passed` being the events
so far in reverse. -/
def Grammar.run : Nat → List PlacedEvent → Grammar → EventStream
  | 0, passed, _ => ⟨passed.reverse, none⟩
  | fuel + 1, passed, g =>
    if g.state = .documentEnd then
      match Parse.documentEnd g with
      | .ok _ => ⟨passed.reverse, none⟩
      | .error e => ⟨passed.reverse, some e⟩
    else
      match Parse.event g with
      | .ok (e, g) => g.run fuel (e :: passed)
      | .error e => ⟨passed.reverse, some e⟩

def EventStream.ofTokens (stream : TokenStream) : EventStream :=
  match Parse.documentStart { tokens := stream.tokens, error := stream.error } with
  | .ok (true, g) => g.run (8 * stream.tokens.length + 16) []
  | .ok (false, _) => ⟨[], none⟩
  | .error e => ⟨[], some e⟩

def EventStream.ofText (text : List Char) : EventStream :=
  .ofTokens (.ofText text)

end ConfigReference.Yaml
