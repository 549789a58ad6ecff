import ConfigReference.Decimal.Nearest
import ConfigReference.Yaml.Character
import ConfigReference.Yaml.Event

/-!
# Scalars of the core schema

Which kind of value a plain scalar denotes, and the number it denotes.
-/

set_option autoImplicit false

namespace ConfigReference.Yaml

inductive ScalarTag where
  | null
  | bool
  | int
  | float
  | str
  | timestamp
  deriving DecidableEq, Inhabited, Repr

def ScalarTag.name : ScalarTag → String
  | .null => "Null"
  | .bool => "Bool"
  | .int => "Int"
  | .float => "Float"
  | .str => "Str"
  | .timestamp => "Timestamp"

namespace Scalar

def nullTexts : List String := ["", "~", "null", "Null", "NULL"]

def boolTexts : List String := ["true", "True", "TRUE", "false", "False", "FALSE"]

def infinityTexts : List String := [".inf", ".Inf", ".INF"]

def nanTexts : List String := [".nan", ".NaN", ".NAN"]

def isDigitOrUnderscore (c : Char) : Bool := c.isDigit || c == '_'

def isSignChar (c : Char) : Bool := c == '+' || c == '-'

def dropSign : List Char → List Char
  | [] => []
  | c :: rest => if isSignChar c then rest else c :: rest

def isRunOf (p : Char → Bool) (s : List Char) : Bool := !s.isEmpty && s.all p

def isDecimalRun : List Char → Bool
  | [] => false
  | c :: rest => c.isDigit && rest.all isDigitOrUnderscore

def isInt (s : List Char) : Bool :=
  isDecimalRun (dropSign s)
    || (match s with
      | '0' :: 'x' :: rest => isRunOf (fun c => isHexDigit c || c == '_') rest
      | '0' :: 'o' :: rest => isRunOf (fun c => ('0' ≤ c && c ≤ '7') || c == '_') rest
      | '0' :: 'b' :: rest => isRunOf (fun c => c == '0' || c == '1' || c == '_') rest
      | _ => false)

def isExponent : List Char → Bool
  | [] => true
  | c :: rest => (c == 'e' || c == 'E') && isRunOf Char.isDigit (dropSign rest)

/-- Digits with a point in front of them, or with at most one point behind the first. -/
def isUnsignedFloat (s : List Char) : Bool :=
  match s with
  | '.' :: rest =>
    !(rest.takeWhile Char.isDigit).isEmpty && isExponent (rest.dropWhile Char.isDigit)
  | c :: _ =>
    c.isDigit
      && (match s.dropWhile isDigitOrUnderscore with
        | '.' :: rest => isExponent (rest.dropWhile isDigitOrUnderscore)
        | rest => isExponent rest)
  | [] => false

def isFloat (s : List Char) : Bool :=
  isUnsignedFloat (dropSign s)
    || infinityTexts.any (·.toList == dropSign s)
    || nanTexts.any (·.toList == s)

def takeDigits? (least most : Nat) (s : List Char) : Option (List Char) :=
  let count := ((s.take most).takeWhile Char.isDigit).length
  if least ≤ count then some (s.drop count) else none

def takeChar? (c : Char) : List Char → Option (List Char)
  | [] => none
  | d :: rest => if d == c then some rest else none

def isZone : List Char → Bool
  | ['Z'] => true
  | c :: rest =>
    isSignChar c
      && (match takeDigits? 1 2 rest with
        | some [] => true
        | some rest => ((takeChar? ':' rest).bind (takeDigits? 2 2)) == some []
        | none => false)
  | [] => false

def dropTime? (s : List Char) : Option (List Char) := do
  let s ← takeDigits? 1 2 s
  let s ← takeChar? ':' s
  let s ← takeDigits? 2 2 s
  let s ← takeChar? ':' s
  let s ← takeDigits? 2 2 s
  match s with
  | '.' :: rest => some (rest.dropWhile Char.isDigit)
  | _ => some s

def dropDate? (s : List Char) : Option (List Char) := do
  let s ← takeDigits? 4 4 s
  let s ← takeChar? '-' s
  let s ← takeDigits? 1 2 s
  let s ← takeChar? '-' s
  takeDigits? 1 2 s

def dropTimeMark? : List Char → Option (List Char)
  | [] => none
  | c :: rest =>
    if c == 'T' || c == 't' then some rest
    else if isGap c then some (rest.dropWhile isGap)
    else none

def isTimestamp (s : List Char) : Bool :=
  match dropDate? s with
  | none => false
  | some [] => true
  | some rest =>
    match (dropTimeMark? rest).bind dropTime? with
    | none => false
    | some [] => true
    | some rest => isZone (rest.dropWhile isGap)

def plainTag (text : String) : ScalarTag :=
  let s := text.toList
  if nullTexts.contains text then .null
  else if boolTexts.contains text then .bool
  else if isInt s then .int
  else if isFloat s then .float
  else if isTimestamp s then .timestamp
  else .str

def explicitTag? (tag : Tag) : Option ScalarTag :=
  if tag.handle == "!!" || tag.handle == "tag:yaml.org,2002:" then
    [("null", .null), ("bool", .bool), ("int", .int), ("float", .float), ("str", .str),
      ("binary", .str), ("timestamp", .timestamp)].lookup tag.suffix
  else none

/-- The kind of a scalar: what its tag asks for, otherwise what a plain text denotes, and text for
any other style. -/
def resolve (text : String) (style : ScalarStyle) (tag : Option Tag) : ScalarTag :=
  match tag.bind explicitTag? with
  | some t => t
  | none => if style = .plain then plainTag text else .str

def dropUnderscores (s : List Char) : List Char := s.filter (· != '_')

def digitValue? (base : Nat) (c : Char) : Option Nat :=
  let value? := if isHexDigit c then some (hexDigitValue c) else none
  value?.filter (· < base)

def digitsValue? (base : Nat) (s : List Char) : Option Nat :=
  s.foldl (fun n? c => n?.bind fun n => (digitValue? base c).map (base * n + ·)) (some 0)

/-- An integer of a base with an optional sign, if it fits in 64 bits. -/
def readWord? (base : Nat) (s : List Char) : Option Int :=
  let digits := dropSign s
  if digits.isEmpty then none
  else
    (digitsValue? base digits).bind fun n =>
      let value : Int := if s.head? == some '-' then -(n : Int) else n
      if Decimal.fitsWord value then some value else none

def splitBase : List Char → Nat × List Char
  | '0' :: 'x' :: rest => (16, rest)
  | '0' :: 'o' :: rest => (8, rest)
  | '0' :: 'b' :: rest => (2, rest)
  | s => (10, s)

/-- The integer that a scalar denotes, if its magnitude fits in 64 bits with a sign. -/
def readInt (s : List Char) : Option Int :=
  let (negative, body) := Decimal.splitSign (dropUnderscores s)
  let (base, digits) := splitBase body
  (readWord? base digits).map fun n => if negative then Decimal.negateWord n else n

def readFloat (s : List Char) : Option Float :=
  let body := dropUnderscores s
  if infinityTexts.any (·.toList == dropSign body) then
    some (Decimal.signed (body.head? == some '-') (1.0 / 0.0))
  else if nanTexts.any (·.toList == body) then some (0.0 / 0.0)
  else Decimal.readFloat body

/-- The truth value that a scalar denotes: `true` in any case, and nothing else. -/
def readBool (s : List Char) : Bool := s.map Char.toLower == "true".toList

end Scalar

end ConfigReference.Yaml
