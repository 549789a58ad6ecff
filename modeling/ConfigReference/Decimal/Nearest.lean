import ConfigReference.Decimal.Power
import ConfigReference.Text.Line

/-!
# Decimals to floats

The float nearest to a rational number, computed exactly, and the reading of a decimal numeral.
-/

set_option autoImplicit false

namespace ConfigReference.Decimal

/-- The quotient of `num` and `den` rounded to a whole number, a half going to the even one. -/
def roundQuotient (num den : Nat) : Nat :=
  let q := num / den
  let twice := 2 * (num % den)
  if twice < den then q
  else if den < twice then q + 1
  else if q % 2 = 0 then q else q + 1

def scaleDown (num den : Nat) (exponent : Int) : Nat × Nat :=
  if exponent < 0 then (num * twoPow exponent.natAbs, den)
  else (num, den * twoPow exponent.natAbs)

/-- The bits of the float `significand * 2 ^ exponent`, for a significand of at most 53 bits
that has all of them unless the exponent is the least one. -/
def bitsOf (significand : Nat) (exponent : Int) : Nat :=
  if 971 < exponent then 0x7FF * twoPow 52
  else if significand < twoPow 52 then significand
  else (exponent + 1075).toNat * twoPow 52 + (significand - twoPow 52)

def nearest (num den : Nat) : Float :=
  if num = 0 then 0
  else
    let guess : Int := (num.log2 : Int) - (den.log2 : Int) - 52
    let (n, d) := scaleDown num den guess
    let exponent := max (if n / d < twoPow 52 then guess - 1 else guess) (-1074)
    let (n, d) := scaleDown num den exponent
    let significand := roundQuotient n d
    let bits :=
      if significand = twoPow 53 then bitsOf (twoPow 52) (exponent + 1)
      else bitsOf significand exponent
    Float.ofBits bits.toUInt64

def ofScientific (digits : Nat) (exponent : Int) : Float :=
  let magnitude : Int := ((Nat.toDigits 10 digits).length : Int) + exponent
  if digits = 0 || magnitude < -400 then 0
  else if 400 < magnitude then 1.0 / 0.0
  else if exponent < 0 then nearest digits (tenPow exponent.natAbs)
  else nearest (digits * tenPow exponent.natAbs) 1

def signed (negative : Bool) (x : Float) : Float := if negative then -x else x

def splitSign : List Char → Bool × List Char
  | '-' :: rest => (true, rest)
  | '+' :: rest => (false, rest)
  | s => (false, s)

def readExponent (s : List Char) : Option Int :=
  let (negative, digits) := splitSign s
  if digits ≠ [] && digits.all Text.isAsciiDigit then
    some (if negative then -(Text.digitsValue digits : Int) else Text.digitsValue digits)
  else none

def readUnsigned (s : List Char) : Option Float :=
  let whole := s.takeWhile Text.isAsciiDigit
  let afterWhole := s.dropWhile Text.isAsciiDigit
  let (fraction, tail) :=
    match afterWhole with
    | '.' :: rest => (rest.takeWhile Text.isAsciiDigit, rest.dropWhile Text.isAsciiDigit)
    | _ => ([], afterWhole)
  if whole = [] && fraction = [] then none
  else
    let exponent :=
      match tail with
      | [] => some 0
      | c :: rest => if c == 'e' || c == 'E' then readExponent rest else none
    exponent.map fun e => ofScientific (Text.digitsValue (whole ++ fraction)) (e - fraction.length)

/-- A decimal numeral, or the name of an infinity or of no number in any case. -/
def readFloat (s : List Char) : Option Float :=
  let (negative, body) := splitSign s
  let named := body.map Char.toLower
  if named = "inf".toList || named = "infinity".toList then some (signed negative (1.0 / 0.0))
  else if named = "nan".toList then some (0.0 / 0.0)
  else (readUnsigned body).map (signed negative)

end ConfigReference.Decimal
