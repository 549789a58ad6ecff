import ConfigReference.Pattern
import ConfigReference.Text.Line

/-!
# Reading patterns

The notation of patterns. The reader keeps the groups that are open on a stack; every step takes at
least one character.

Not all of the notation is here. Of the properties of characters there are those that `CharSet.named?`
and `CharSet.valued?` know: no category of other letters, of kinds of marks, punctuation or symbols,
and six scripts; patterns with others are refused. Where `(?-u)` is set, classes are those of ASCII,
but `\xFF` is still a character and not a byte, case is that of Unicode, and all complements and the
dot are refused. On the other hand there is no bound on how deep groups are nested and on how large a
pattern grows when its counts are written out, so some patterns are read that are too much in
practice.
-/

set_option autoImplicit false

namespace ConfigReference.Pattern

structure Switches where
  anyCase : Bool := false
  multiLine : Bool := false
  dotAll : Bool := false
  crlf : Bool := false
  ascii : Bool := false
  spaced : Bool := false
  deriving DecidableEq, Repr

namespace Switches

def cased (w : Switches) (s : CharSet) : CharSet := if w.anyCase then .anyCase s else s

/-- A set or its complement. Complements of ASCII sets hold bytes that are no text, and are
refused. -/
def negated? (w : Switches) (negate : Bool) (s : CharSet) : Option CharSet :=
  match negate, w.ascii with
  | false, _ => some s
  | true, false => some (.compl s)
  | true, true => none

def digits (w : Switches) : CharSet := if w.ascii then .asciiDigits else .decimals

def blanks (w : Switches) : CharSet := if w.ascii then .asciiBlanks else .blanks

def wordChars (w : Switches) : CharSet := if w.ascii then .asciiWordChars else .wordChars

def dot? (w : Switches) : Option CharSet :=
  if w.ascii then none
  else if w.dotAll then some (.compl .empty)
  else if w.crlf then some (.compl (.ofRanges [('\n', '\n'), ('\r', '\r')]))
  else some (.compl (.single '\n'))

end Switches

/-! ## Escapes -/

inductive Sign where
  | char (c : Char)
  | set (s : CharSet)
  | assertion (a : Assertion)

def isEscapable (c : Char) : Bool :=
  c.toNat < 0x80 && !c.isAlphanum && c != '<' && c != '>'

def hexValue (s : List Char) : Nat :=
  s.foldl (fun n c =>
    16 * n + (if c.isDigit then c.toNat - 0x30 else c.toLower.toNat - 0x57)) 0

def isHexDigit (c : Char) : Bool :=
  c.isDigit || ('a' ≤ c && c ≤ 'f') || ('A' ≤ c && c ≤ 'F')

def hexChar? (digits : List Char) : Option Char :=
  let n := hexValue digits
  if digits.isEmpty || !digits.all isHexDigit then none
  else if h : n.isValidChar then some (Char.ofNatAux n h) else none

/-- A character by its number: `count` digits, or any number of them in braces. -/
def readHex? (count : Nat) : List Char → Option (Char × List Char)
  | '\x7b' :: rest =>
    match rest.dropWhile (· != '\x7d') with
    | _ :: after => (hexChar? (rest.takeWhile (· != '\x7d'))).map (·, after)
    | [] => none
  | s => if s.length < count then none else (hexChar? (s.take count)).map (·, s.drop count)

/-- The spelling of a name without what does not count in it. -/
def plainName (name : List Char) : String :=
  let plain := (name.filter fun c => c.toNat < 0x80 && c != '_' && c != '-' && c != ' ').map
    Char.toLower
  .ofList (if ['i', 's'].isPrefixOf plain && plain ≠ ['i', 's', 'c'] then plain.drop 2 else plain)

def splitAt? (sign s : List Char) : Option (List Char × List Char) :=
  (List.range s.length).findSome? fun i =>
    if sign.isPrefixOf (s.drop i) then some (s.take i, s.drop (i + sign.length)) else none

def propertySet? (s : List Char) : Option CharSet :=
  let valued := fun (sides : List Char × List Char) =>
    CharSet.valued? (plainName sides.1) (plainName sides.2)
  match splitAt? ['!', '='] s with
  | some sides => (valued sides).map .compl
  | none =>
    match (splitAt? [':'] s).or (splitAt? ['='] s) with
    | some sides => valued sides
    | none => CharSet.named? (plainName s)

def readProperty? (w : Switches) (negate : Bool) (s : List Char) :
    Option (CharSet × List Char) := do
  let (set?, rest) ← match s with
    | '\x7b' :: rest =>
      match rest.dropWhile (· != '\x7d') with
      | _ :: after => some (propertySet? (rest.takeWhile (· != '\x7d')), after)
      | [] => none
    | c :: rest => some (CharSet.named? (plainName [c]), rest)
    | [] => none
  return (← w.negated? negate (w.cased (← set?)), rest)

/-- The word assertion that braces after `\b` name. Braces that hold no name are left alone. -/
def readWordAssertion? (w : Switches) (s : List Char) : Option (Assertion × List Char) :=
  let isNameChar := fun (c : Char) => c.isAlpha || c == '-'
  match s with
  | '\x7b' :: c :: rest =>
    if !isNameChar c then some (.wordEdge w.ascii, s)
    else
      match (c :: rest).dropWhile isNameChar with
      | '\x7d' :: after =>
        match String.ofList ((c :: rest).takeWhile isNameChar) with
        | "start" => some (.wordStart w.ascii, after)
        | "end" => some (.wordEnd w.ascii, after)
        | "start-half" => some (.noWordBefore w.ascii, after)
        | "end-half" => some (.noWordAfter w.ascii, after)
        | _ => none
      | _ => none
  | ['\x7b'] => none
  | _ => some (.wordEdge w.ascii, s)

def readEscape? (w : Switches) : List Char → Option (Sign × List Char)
  | [] => none
  | c :: rest =>
    let set? := fun (s? : Option CharSet) => s?.map fun s => (Sign.set s, rest)
    match c with
    | 'x' => (readHex? 2 rest).map fun r => (.char r.1, r.2)
    | 'u' => (readHex? 4 rest).map fun r => (.char r.1, r.2)
    | 'U' => (readHex? 8 rest).map fun r => (.char r.1, r.2)
    | 'p' => (readProperty? w false rest).map fun r => (.set r.1, r.2)
    | 'P' => (readProperty? w true rest).map fun r => (.set r.1, r.2)
    | 'd' => set? (w.negated? false w.digits)
    | 'D' => set? (w.negated? true w.digits)
    | 's' => set? (w.negated? false w.blanks)
    | 'S' => set? (w.negated? true w.blanks)
    | 'w' => set? (w.negated? false w.wordChars)
    | 'W' => set? (w.negated? true w.wordChars)
    | 'a' => some (.char '\x07', rest)
    | 'f' => some (.char '\x0c', rest)
    | 't' => some (.char '\t', rest)
    | 'n' => some (.char '\n', rest)
    | 'r' => some (.char '\r', rest)
    | 'v' => some (.char '\x0b', rest)
    | 'A' => some (.assertion .textStart, rest)
    | 'z' => some (.assertion .textEnd, rest)
    | 'b' => (readWordAssertion? w rest).map fun r => (.assertion r.1, r.2)
    | 'B' => some (.assertion (.noWordEdge w.ascii), rest)
    | '<' => some (.assertion (.wordStart w.ascii), rest)
    | '>' => some (.assertion (.wordEnd w.ascii), rest)
    | _ => if isEscapable c then some (.char c, rest) else none

/-! ## Blanks between signs -/

/-- The rest after blanks and comments, which count for nothing where spacing is on. -/
def skipSpacing (w : Switches) (s : List Char) : List Char :=
  if w.spaced then go s.length s else s
where
  go : Nat → List Char → List Char
    | 0, s => s
    | fuel + 1, s =>
      match s.dropWhile Text.isBlank with
      | '#' :: rest => go fuel ((rest.dropWhile (· != '\n')).drop 1)
      | rest => rest

/-! ## Sets in brackets -/

inductive SetOp where
  | inter
  | diff
  | symmDiff
  deriving DecidableEq, Repr

def SetOp.apply (op : SetOp) (w : Switches) (s t : CharSet) : CharSet :=
  let s := w.cased s
  let t := w.cased t
  match op with
  | inter => .inter s t
  | diff => .diff s t
  | symmDiff => .symmDiff s t

/-- A bracket that is open: what was read of it, an operator that waits for its right side, and the
items since. -/
structure Bracket where
  negate : Bool
  left : Option (CharSet × SetOp) := none
  items : CharSet := .empty

def Bracket.add (b : Bracket) (s : CharSet) : Bracket := { b with items := .union b.items s }

def Bracket.content (w : Switches) (b : Bracket) : CharSet :=
  match b.left with
  | none => b.items
  | some (left, op) => op.apply w left b.items

def Bracket.operate (w : Switches) (op : SetOp) (b : Bracket) : Bracket :=
  { b with left := some (b.content w, op), items := .empty }

def Bracket.close? (w : Switches) (b : Bracket) : Option CharSet :=
  w.negated? b.negate (w.cased (b.content w))

/-- Dashes at the start of a bracket stand for themselves. -/
def takeDashes (w : Switches) : Nat → Bracket → List Char → Bracket × List Char
  | fuel + 1, b, '-' :: rest => takeDashes w fuel (b.add (.single '-')) (skipSpacing w rest)
  | _, b, s => (b, s)

/-- The start of a bracket, after its `[`: a caret, dashes, and a closing bracket that stands for
itself where nothing comes before it. -/
def openBracket? (w : Switches) (s : List Char) : Option (Bracket × List Char) :=
  let s := skipSpacing w s
  let (negate, s) := match s with
    | '^' :: rest => (true, skipSpacing w rest)
    | _ => (false, s)
  match s with
  | [] => none
  | ']' :: rest => some (({ negate } : Bracket).add (.single ']'), skipSpacing w rest)
  | _ => some (takeDashes w s.length { negate } s)

def readNamedClass? : List Char → Option (CharSet × List Char)
  | ':' :: rest =>
    let (negate, rest) := match rest with
      | '^' :: r => (true, r)
      | _ => (false, rest)
    match rest.dropWhile (· != ':') with
    | ':' :: ']' :: after =>
      (CharSet.asciiNamed? (rest.takeWhile (· != ':'))).map fun s =>
        (if negate then .compl s else s, after)
    | _ => none
  | _ => none

def readSign? (w : Switches) : List Char → Option (Sign × List Char)
  | [] => none
  | '\\' :: rest => readEscape? w rest
  | c :: rest => some (.char c, rest)

def readSetItem? (w : Switches) (s : List Char) : Option (CharSet × List Char) := do
  let (sign, s) ← readSign? w s
  let s := skipSpacing w s
  let single : Option (CharSet × List Char) :=
    match sign with
    | .char c => some (.single c, s)
    | .set t => some (t, s)
    | .assertion _ => none
  match s with
  | [] => none
  | '-' :: rest =>
    let rest := skipSpacing w rest
    if rest.head? = some ']' || rest.head? = some '-' then single
    else
      match sign, ← readSign? w rest with
      | .char first, (.char last, s) =>
        if first ≤ last then some (.range first last, s) else none
      | _, _ => none
  | _ => single

def readSet? (w : Switches) : Nat → List Bracket → List Char → Option (CharSet × List Char)
  | 0, _, _ => none
  | _, [], _ => none
  | fuel + 1, b :: outer, s =>
    match skipSpacing w s with
    | [] => none
    | '[' :: rest =>
      match readNamedClass? rest with
      | some (t, rest) => readSet? w fuel (b.add (w.cased t) :: outer) rest
      | none => do
        let (inner, rest) ← openBracket? w rest
        readSet? w fuel (inner :: b :: outer) rest
    | ']' :: rest => do
      let t ← b.close? w
      match outer with
      | [] => some (t, rest)
      | around :: outer => readSet? w fuel (around.add t :: outer) rest
    | '&' :: '&' :: rest => readSet? w fuel (b.operate w .inter :: outer) rest
    | '-' :: '-' :: rest => readSet? w fuel (b.operate w .diff :: outer) rest
    | '~' :: '~' :: rest => readSet? w fuel (b.operate w .symmDiff :: outer) rest
    | s => do
      let (t, rest) ← readSetItem? w s
      readSet? w fuel (b.add t :: outer) rest

/-! ## Counts -/

def maxCount : Nat := 0xFFFFFFFF

def readCount? (s : List Char) : Option (Nat × List Char) :=
  let s := s.dropWhile Text.isBlank
  let digits := s.takeWhile Text.isAsciiDigit
  let n := Text.digitsValue digits
  if digits.isEmpty || maxCount < n then none
  else some (n, (s.dropWhile Text.isAsciiDigit).dropWhile Text.isBlank)

def readBounds? (w : Switches) (s : List Char) : Option (Nat × Option Nat × List Char) := do
  let (least, s) ← readCount? (skipSpacing w s)
  match s with
  | '\x7d' :: rest => some (least, some 0, rest)
  | ',' :: rest =>
    match skipSpacing w rest with
    | '\x7d' :: rest => some (least, none, rest)
    | rest =>
      match ← readCount? rest with
      | (most, '\x7d' :: rest) =>
        if least ≤ most then some (least, some (most - least), rest) else none
      | _ => none
  | _ => none

/-! ## Switches -/

def Switches.set? (w : Switches) (on : Bool) : Char → Option Switches
  | 'i' => some { w with anyCase := on }
  | 'm' => some { w with multiLine := on }
  | 's' => some { w with dotAll := on }
  | 'R' => some { w with crlf := on }
  | 'u' => some { w with ascii := !on }
  | 'x' => some { w with spaced := on }
  | 'U' => some w
  | _ => none

/-- The switches up to `)` or `:`, and which of the two it was. A letter may stand once, and a minus
sign once and not at the end. -/
def readSwitches? (w : Switches) (seen : List Char) (on : Bool) :
    List Char → Option (Switches × Bool × List Char)
  | [] => none
  | c :: rest =>
    if c == ')' || c == ':' then
      if seen.head? = some '-' then none else some (w, c == ':', rest)
    else if seen.contains c then none
    else if c == '-' then readSwitches? w (c :: seen) false rest
    else
      match w.set? on c with
      | some w => readSwitches? w (c :: seen) on rest
      | none => none

/-! ## Patterns -/

/-- A group that is open: the switches around it, its closed branches and the branch under way. -/
structure Group where
  outer : Switches
  branches : Option Pattern := none
  branch : List Pattern := []

def Group.closeBranch (g : Group) : Pattern :=
  let p := g.branch.foldl (fun p item => .seq item p) .empty
  match g.branches with
  | none => p
  | some q => .alt q p

/-- How far a pattern is read: the open groups, innermost first, the switches in force, the names of
groups, and whether something stands before that can be repeated. -/
structure Progress where
  group : Group
  around : List Group := []
  switches : Switches := {}
  names : List (List Char) := []
  repeatable : Bool := false

namespace Progress

def push (r : Progress) (p : Pattern) : Progress :=
  { r with group := { r.group with branch := p :: r.group.branch }, repeatable := true }

def nextBranch (r : Progress) : Progress :=
  { r with
    group := { r.group with branches := some r.group.closeBranch, branch := [] }
    repeatable := false }

def openGroup (r : Progress) (w : Switches) : Progress :=
  { r with
    group := { outer := r.switches }
    around := r.group :: r.around
    switches := w
    repeatable := false }

def closeGroup? (r : Progress) : Option Progress :=
  match r.around with
  | [] => none
  | g :: around =>
    some ({ r with group := g, around, switches := r.group.outer }.push r.group.closeBranch)

def repeatLast? (r : Progress) (least : Nat) (extra : Option Nat) : Option Progress :=
  match r.repeatable, r.group.branch with
  | true, p :: branch =>
    some { r with group := { r.group with branch := .times p least extra :: branch } }
  | _, _ => none

end Progress

def isNameStart (c : Char) : Bool := c == '_' || Text.isAlphabetic c

def isNameChar (c : Char) : Bool :=
  c == '_' || c == '.' || c == '[' || c == ']' || Text.isAlphanumeric c

def readGroup? (r : Progress) (s : List Char) : Option (Progress × List Char) :=
  let named := fun (s : List Char) =>
    let name := s.takeWhile (· != '>')
    match s.dropWhile (· != '>') with
    | _ :: rest =>
      if name.head?.any isNameStart && name.all isNameChar && !r.names.contains name then
        some ({ r with names := name :: r.names }.openGroup r.switches, rest)
      else none
    | [] => none
  match s with
  | '?' :: '=' :: _ | '?' :: '!' :: _ | '?' :: '<' :: '=' :: _ | '?' :: '<' :: '!' :: _ => none
  | '?' :: 'P' :: '<' :: rest => named rest
  | '?' :: '<' :: rest => named rest
  | '?' :: ')' :: _ => none
  | '?' :: rest => do
    let (w, isGroup, rest) ← readSwitches? r.switches [] true rest
    if isGroup then some (r.openGroup w, rest)
    else some ({ r with switches := w, repeatable := false }, rest)
  | _ => some (r.openGroup r.switches, s)

def skipLazy (w : Switches) (s : List Char) : List Char :=
  match skipSpacing w s with
  | '?' :: rest => rest
  | _ => s

def readStep? (r : Progress) : List Char → Option (Progress × List Char)
  | [] => none
  | c :: rest =>
    let w := r.switches
    let repeated := fun (least : Nat) (extra : Option Nat) (rest : List Char) =>
      (r.repeatLast? least extra).map (·, skipLazy w rest)
    match c with
    | '(' => readGroup? r (skipSpacing w rest)
    | ')' => r.closeGroup?.map (·, rest)
    | '|' => some (r.nextBranch, rest)
    | '*' => repeated 0 none rest
    | '+' => repeated 1 none rest
    | '?' => repeated 0 (some 1) rest
    | '\x7b' => do
      let (least, extra, rest) ← readBounds? w rest
      repeated least extra rest
    | '[' => do
      let (b, rest) ← openBracket? w rest
      let (s, rest) ← readSet? w (rest.length + 1) [b] rest
      some (r.push (.char s), rest)
    | '.' => w.dot?.map fun s => (r.push (.char s), rest)
    | '^' =>
      some (r.push (.assertion (if w.multiLine then .lineStart w.crlf else .textStart)), rest)
    | '$' => some (r.push (.assertion (if w.multiLine then .lineEnd w.crlf else .textEnd)), rest)
    | _ => do
      let (sign, rest) ← readSign? w (c :: rest)
      match sign with
      | .char c => some (r.push (.char (w.cased (.single c))), rest)
      | .set s => some (r.push (.char s), rest)
      | .assertion a => some (r.push (.assertion a), rest)

def readAll? : Nat → Progress → List Char → Option Pattern
  | fuel, r, s =>
    match skipSpacing r.switches s with
    | [] => if r.around.isEmpty then some r.group.closeBranch else none
    | s =>
      match fuel with
      | 0 => none
      | fuel + 1 =>
        match readStep? r s with
        | some (r, rest) => readAll? fuel r rest
        | none => none

def maxStates : Nat := 327000

def parse? (text : String) : Option Pattern :=
  match readAll? text.length { group := { outer := {} } } text.toList with
  | some p => if p.states ≤ maxStates then some p else none
  | none => none

end ConfigReference.Pattern
