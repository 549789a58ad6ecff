import ConfigReference.Decimal.Shortest
import ConfigReference.Yaml.Scalar

/-!
# The text of a scalar

A text is written plain where a reader takes it back as that text; otherwise it is quoted, or
written as a block of lines.
-/

set_option autoImplicit false

namespace ConfigReference.Yaml.ScalarText

/-- Whether digits behind a leading zero make a text that only looks like a number. -/
def isZeroPadded (s : List Char) : Bool :=
  match Scalar.dropSign s with
  | '0' :: rest => isRun rest
  | _ => false
where
  isRun (rest : List Char) : Bool := !rest.isEmpty && rest.all Char.isDigit

def isBasedInt (bound : Nat) (s : List Char) : Bool :=
  let (base, digits) := Scalar.splitBase s
  base != 10 && !digits.isEmpty && (Scalar.digitsValue? base digits).any (· < bound)

def dropPlus : List Char → List Char
  | '+' :: rest => rest
  | s => s

def looksInt (s : List Char) : Bool :=
  isBasedInt (Decimal.twoPow 128) (dropPlus s)
    || (match s with
      | '-' :: rest => isBasedInt (Decimal.twoPow 127 + 1) rest
      | _ => false)
    || Scalar.isRunOf Char.isDigit (Scalar.dropSign s)

def looksFloat (s : List Char) : Bool :=
  let unsigned := dropPlus s
  let signTwice := s.head? == some '+' && (unsigned.head?.any Scalar.isSignChar)
  !signTwice
    && (Scalar.infinityTexts.any (fun t => t.toList == unsigned || '-' :: t.toList == s)
      || Scalar.nanTexts.any (·.toList == s)
      || (Decimal.readFloat unsigned).any Float.isFinite)

def isAmbiguous (s : List Char) : Bool :=
  Scalar.nullTexts.any (·.toList == s) || Scalar.boolTexts.any (·.toList == s)
    || isZeroPadded s || looksInt s || looksFloat s

/-- Line breaks as a reader of YAML 1.1 sees them. -/
def isLineBreak (c : Char) : Bool :=
  isBreak c || c.toNat == 0x85 || c.toNat == 0x2028 || c.toNat == 0x2029

def isPrintable (c : Char) : Bool :=
  let n := c.toNat
  n == 0x0A || (0x20 ≤ n && n ≤ 0x7E) || (0xA0 ≤ n && n ≤ 0xFFFD && n != 0xFEFF) || 0x10000 ≤ n

def isBlankOrBreak (c : Char) : Bool := isGap c || isLineBreak c || isEnd c

def isIndicator (c : Char) : Bool :=
  "#,[]&*!|>'\"%@".toList.contains c || c.toNat == 0x60 || c.toNat == 0x7B || c.toNat == 0x7D

/-- Whether a plain text would be taken for structure from `s` on, `before` standing in front
of it. -/
def hasInnerIndicator (before : Char) : List Char → Bool
  | [] => false
  | c :: rest =>
    (c == ':' && isBlankOrBreak (rest.headD endMark)) || (c == '#' && isBlankOrBreak before)
      || hasInnerIndicator c rest

def hasIndicator (s : List Char) : Bool :=
  "---".toList.isPrefixOf s || "...".toList.isPrefixOf s
    || (match s with
      | [] => false
      | c :: rest =>
        isIndicator c
          || ((c == '?' || c == ':' || c == '-') && isBlankOrBreak (rest.headD endMark))
          || hasInnerIndicator c rest)

def hasPair (p q : Char → Bool) (s : List Char) : Bool :=
  (s.zip (s.drop 1)).any fun (a, b) => p a && q b

structure Shape where
  multiline : Bool
  plain : Bool
  singleQuoted : Bool
  block : Bool

def Shape.ofText (s : List Char) : Shape :=
  let isSpace (c : Char) : Bool := c == ' '
  let edge (p : Char → Bool) : Bool := s.head?.any p || s.getLast?.any p
  let special := !s.all isPrintable || hasPair isSpace isLineBreak s
  let multiline := s.any isLineBreak
  { multiline
    plain := !(edge isSpace) && !multiline && !special && !hasIndicator s
    singleQuoted := !special && !hasPair isLineBreak isSpace s
    block := !s.isEmpty && !special && !(s.getLast?.any isSpace) }

inductive Style where
  | plain
  | singleQuoted
  | doubleQuoted
  | literal
  deriving DecidableEq, Repr

def styleOf (isKey : Bool) (s : List Char) : Style :=
  let shape := Shape.ofText s
  if s.contains '\n' then
    if shape.block && !isKey then .literal else .doubleQuoted
  else if !isAmbiguous s && shape.plain && !(isKey && shape.multiline) then .plain
  else if shape.singleQuoted && !(isKey && shape.multiline) then .singleQuoted
  else .doubleQuoted

/-- A text whose lines after a break begin at column `indent`; `fresh` holds after a break. A line
feed stands for itself when `feeds` does not ask for two. -/
def breakLines (indent : Nat) (quote : Bool) : Bool → List Char → List Char
  | fresh, [] => if fresh && quote then List.replicate indent ' ' else []
  | fresh, c :: rest =>
    if isLineBreak c then
      c :: breakLines indent quote true rest
    else
      (if fresh then List.replicate indent ' ' else [])
        ++ (if quote && c == '\'' then ['\'', '\''] else [c]) ++ breakLines indent quote false rest

def hexUpper (width n : Nat) : List Char :=
  let digits := (Nat.toDigits 16 n).map Char.toUpper
  List.replicate (width - digits.length) '0' ++ digits

def shortEscapes : List (Nat × Char) :=
  [(0x00, '0'), (0x07, 'a'), (0x08, 'b'), (0x09, 't'), (0x0A, 'n'), (0x0B, 'v'), (0x0C, 'f'),
    (0x0D, 'r'), (0x1B, 'e'), (0x22, '"'), (0x5C, '\\'), (0x85, 'N'), (0xA0, '_'), (0x2028, 'L'),
    (0x2029, 'P')]

def escapeChar (c : Char) : List Char :=
  if isPrintable c && !isLineBreak c && c != '"' && c != '\\' then [c]
  else
    let n := c.toNat
    match shortEscapes.lookup n with
    | some letter => ['\\', letter]
    | none =>
      if n ≤ 0xFF then '\\' :: 'x' :: hexUpper 2 n
      else if n ≤ 0xFFFF then '\\' :: 'u' :: hexUpper 4 n
      else '\\' :: 'U' :: hexUpper 8 n

/-- The indicators behind the bar of a literal text: an indentation when its first line begins with
a blank or is empty, and how its last line ends. -/
def literalHints (s : List Char) : List Char :=
  (if s.head?.any (fun c => c == ' ' || isLineBreak c) then ['2'] else [])
    ++ (match s.reverse with
      | [] => ['-']
      | last :: before =>
        if !isLineBreak last then ['-']
        else match before with
          | [] => ['+']
          | c :: _ => if isLineBreak c then ['+'] else [])

/-- The lines of a text, a last empty one left out. -/
def textLines (s : List Char) : List (List Char) :=
  let pieces := s.splitOn '\n'
  if pieces.getLast? = some [] then pieces.dropLast else pieces

/-- The lines of a string: the first goes on where it begins, and the others hold their
indentation, which is `indent` wide. -/
def lines (isKey : Bool) (indent : Nat) (text : String) : List (List Char) :=
  let s := text.toList
  match styleOf isKey s with
  | .plain => [s]
  | .singleQuoted => ['\'' :: breakLines indent true false s ++ ['\'']]
  | .doubleQuoted => ['"' :: s.flatMap escapeChar ++ ['"']]
  | .literal => ('|' :: literalHints s) :: textLines (breakLines indent false true s)

def float (x : Float) : List Char :=
  if x.isNaN then ".nan".toList
  else if x.isInf then (if x < 0 then "-.inf" else ".inf").toList
  else Decimal.Layout.data.float x

end ConfigReference.Yaml.ScalarText
