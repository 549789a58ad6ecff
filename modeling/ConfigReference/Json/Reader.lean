import ConfigReference.Decimal.Nearest
import ConfigReference.Json.Value

/-!
# Reading JSON

A text is read when it is one JSON value between blanks, nested less deeply than `Json.maxDepth`.
A float is read in two steps: the leading digits that fit in 64 bits are rounded to a float, and the
power of ten is then multiplied or divided out.
-/

set_option autoImplicit false

namespace ConfigReference.Json

def maxDepth : Nat := 128

def isSpace (c : Char) : Bool := c == ' ' || c == '\n' || c == '\t' || c == '\r'

def skipSpace (s : List Char) : List Char := s.dropWhile isSpace

def hexValue? (c : Char) : Option Nat :=
  let n := c.toNat
  if c.isDigit then some (n - 0x30)
  else if 'a' ≤ c && c ≤ 'f' then some (n - 0x57)
  else if 'A' ≤ c && c ≤ 'F' then some (n - 0x37)
  else none

def readUnit : List Char → Option (Nat × List Char)
  | a :: b :: c :: d :: rest => do
    let a ← hexValue? a
    let b ← hexValue? b
    let c ← hexValue? c
    let d ← hexValue? d
    some (((a * 16 + b) * 16 + c) * 16 + d, rest)
  | _ => none

/-- The character of a `\u` escape whose backslash and letter are already passed. Two units that
form a pair stand for one character; a half of a pair alone is refused. -/
def readEscapedUnit (s : List Char) : Option (Char × List Char) := do
  let (unit, rest) ← readUnit s
  if 0xDC00 ≤ unit && unit ≤ 0xDFFF then none
  else if 0xD800 ≤ unit && unit ≤ 0xDBFF then
    match rest with
    | '\\' :: 'u' :: rest =>
      let (low, rest) ← readUnit rest
      if 0xDC00 ≤ low && low ≤ 0xDFFF then
        some (Char.ofNat (0x10000 + (unit - 0xD800) * 0x400 + (low - 0xDC00)), rest)
      else none
    | _ => none
  else some (Char.ofNat unit, rest)

def simpleEscape? : Char → Option Char
  | '"' => some '"'
  | '\\' => some '\\'
  | '/' => some '/'
  | 'b' => some (Char.ofNat 0x08)
  | 'f' => some (Char.ofNat 0x0C)
  | 'n' => some '\n'
  | 'r' => some '\r'
  | 't' => some '\t'
  | _ => none

/-- The rest of a quoted string, its characters collected in reverse. -/
def readQuoted : Nat → List Char → List Char → Option (String × List Char)
  | 0, _, _ => none
  | fuel + 1, passed, s =>
    match s with
    | [] => none
    | '"' :: rest => some (String.ofList passed.reverse, rest)
    | '\\' :: 'u' :: rest => do
      let (c, rest) ← readEscapedUnit rest
      readQuoted fuel (c :: passed) rest
    | '\\' :: e :: rest => do
      let c ← simpleEscape? e
      readQuoted fuel (c :: passed) rest
    | c :: rest => if c.toNat < 0x20 || c == '\\' then none else readQuoted fuel (c :: passed) rest

/-- The leading digits of `digits` whose value fits in 64 bits, and the count of the others. -/
def leadingDigits (value : Nat) : List Char → Nat × Nat
  | [] => (value, 0)
  | d :: rest =>
    let next := 10 * value + Text.digitsValue [d]
    if next < Decimal.twoPow 64 then leadingDigits next rest else (value, rest.length + 1)

def scaleByTen : Nat → Float → Int → Option Float
  | 0, x, _ => some x
  | fuel + 1, x, exponent =>
    if exponent.natAbs ≤ 308 then
      let power := Decimal.ofScientific 1 exponent.natAbs
      if 0 ≤ exponent then
        let product := x * power
        if product.isInf then none else some product
      else some (x / power)
    else if x == 0 then some x
    else if 0 ≤ exponent then none
    else scaleByTen fuel (x / Decimal.ofScientific 1 308) (exponent + 308)

def readPower (s : List Char) : Option (Int × List Char) :=
  let (negative, body) := Decimal.splitSign s
  let digits := body.takeWhile Text.isAsciiDigit
  if digits = [] then none
  else
    let power : Int := Text.digitsValue digits
    some (if negative then -power else power, body.dropWhile Text.isAsciiDigit)

/-- A number whose exponent has more digits than a 32-bit integer holds is zero, or too large. -/
def scaleSignificand (significand : Nat) (given exponent : Int) : Option Float :=
  if Decimal.twoPow 31 ≤ given.natAbs then
    if significand ≠ 0 && 0 < given then none else some 0
  else scaleByTen 10000 (Float.ofNat significand) (exponent + given)

def readMagnitude (whole : List Char) (s : List Char) : Option (Number × List Char) := do
  let (significand, dropped) := leadingDigits 0 whole
  match s with
  | '.' :: rest =>
    let fraction := rest.takeWhile Text.isAsciiDigit
    let rest := rest.dropWhile Text.isAsciiDigit
    if fraction = [] then none
    else
      let (significand, unread) := leadingDigits significand fraction
      let exponent : Int := (dropped : Int) - (fraction.length - unread : Nat)
      let (given, rest) ← match rest with
        | c :: tail => if c == 'e' || c == 'E' then readPower tail else some (0, rest)
        | [] => some (0, [])
      let x ← scaleSignificand significand given exponent
      some (.float x, rest)
  | _ =>
    let (given?, rest) ← match s with
      | c :: tail =>
        if c == 'e' || c == 'E' then (readPower tail).map fun (g, rest) => (some g, rest)
        else some (none, s)
      | [] => some (none, [])
    match given? with
    | some given =>
      let x ← scaleSignificand significand given dropped
      some (.float x, rest)
    | none =>
      if dropped = 0 then some (.int significand, rest)
      else
        let x ← scaleSignificand significand 0 dropped
        some (.float x, rest)

/-- A number with its sign. A negative integer below the 64-bit range, and minus zero, are
floats. -/
def readNumber (s : List Char) : Option (Number × List Char) := do
  let (negative, body) := match s with
    | '-' :: rest => (true, rest)
    | _ => (false, s)
  let whole := body.takeWhile Text.isAsciiDigit
  if whole = [] || (whole.length ≠ 1 && whole.head? = some '0') then none
  else
    let (magnitude, rest) ← readMagnitude whole (body.dropWhile Text.isAsciiDigit)
    if !negative then some (magnitude, rest)
    else
      match magnitude with
      | .float x => some (.float (-x), rest)
      | .int n =>
        if n = 0 || (Decimal.twoPow 63 : Int) < n then some (.float (-(Float.ofInt n)), rest)
        else some (.int (-n), rest)

def readWord (word : String) (value : Json) (s : List Char) : Option (Json × List Char) :=
  if word.toList.isPrefixOf s then some (value, s.drop word.length) else none

mutual

def readValue : Nat → Nat → List Char → Option (Json × List Char)
  | 0, _, _ => none
  | fuel + 1, depth, s =>
    match skipSpace s with
    | [] => none
    | 'n' :: rest => readWord "null" .null ('n' :: rest)
    | 't' :: rest => readWord "true" (.bool true) ('t' :: rest)
    | 'f' :: rest => readWord "false" (.bool false) ('f' :: rest)
    | '"' :: rest => (readQuoted (rest.length + 1) [] rest).map fun (s, rest) => (.string s, rest)
    | '[' :: rest =>
      if depth + 1 < maxDepth then
        match skipSpace rest with
        | ']' :: rest => some (.array [], rest)
        | rest => (readItems fuel (depth + 1) rest).map fun (items, rest) => (.array items, rest)
      else none
    | '{' :: rest =>
      if depth + 1 < maxDepth then
        match skipSpace rest with
        | '}' :: rest => some (.object [], rest)
        | rest =>
          (readMembers fuel (depth + 1) rest).map fun (members, rest) =>
            (ofMembers members, rest)
      else none
    | c :: rest => (readNumber (c :: rest)).map fun (n, rest) => (.number n, rest)

def readItems : Nat → Nat → List Char → Option (List Json × List Char)
  | 0, _, _ => none
  | fuel + 1, depth, s => do
    let (item, rest) ← readValue fuel depth s
    match skipSpace rest with
    | ',' :: rest =>
      let (items, rest) ← readItems fuel depth rest
      some (item :: items, rest)
    | ']' :: rest => some ([item], rest)
    | _ => none

def readMembers : Nat → Nat → List Char → Option (List (String × Json) × List Char)
  | 0, _, _ => none
  | fuel + 1, depth, s => do
    match skipSpace s with
    | '"' :: rest =>
      let (key, rest) ← readQuoted (rest.length + 1) [] rest
      match skipSpace rest with
      | ':' :: rest =>
        let (value, rest) ← readValue fuel depth rest
        match skipSpace rest with
        | ',' :: rest =>
          let (members, rest) ← readMembers fuel depth rest
          some ((key, value) :: members, rest)
        | '}' :: rest => some ([(key, value)], rest)
        | _ => none
      | _ => none
    | _ => none

end

def parse? (s : String) : Option Json := do
  let chars := s.toList
  let (value, rest) ← readValue (2 * chars.length + 2) 0 chars
  if skipSpace rest = [] then some value else none

end ConfigReference.Json
