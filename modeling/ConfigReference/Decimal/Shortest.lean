import ConfigReference.Decimal.Nearest

/-!
# Floats to decimals

The fewest decimal digits that read back as a given float, and two ways to set them out.
-/

set_option autoImplicit false

namespace ConfigReference.Decimal

/-- A finite float as sign, whole significand and power of two. -/
structure Parts where
  negative : Bool
  significand : Nat
  exponent : Int

def Parts.ofFloat (x : Float) : Parts :=
  let bits := x.toBits.toNat
  let field := bits / twoPow 52 % twoPow 11
  let fraction := bits % twoPow 52
  { negative := bits / twoPow 63 = 1
    significand := if field = 0 then fraction else fraction + twoPow 52
    exponent := (max field 1 : Nat) - 1075 }

/-- The numbers that round to a float, scaled so that `grid` counts steps of `10 ^ step`: the
number `value / unit` lies between `low / unit` and `high / unit` in units of the step. -/
structure Interval where
  low : Nat
  value : Nat
  high : Nat
  unit : Nat
  closed : Bool

def Parts.interval (p : Parts) (step : Int) : Interval :=
  let above := if p.exponent < 0 then 1 else twoPow p.exponent.natAbs
  let below := if p.exponent < 0 then twoPow p.exponent.natAbs else 1
  let scale := above * (if step < 0 then tenPow step.natAbs else 1)
  let unit := 4 * below * (if step < 0 then 1 else tenPow step.natAbs)
  let halfBelow := if p.significand = twoPow 52 && -1074 < p.exponent then 1 else 2
  { low := (4 * p.significand - halfBelow) * scale
    value := 4 * p.significand * scale
    high := (4 * p.significand + 2) * scale
    unit := unit
    closed := p.significand % 2 = 0 }

def Interval.contains (i : Interval) (n : Nat) : Bool :=
  let reached := n * i.unit
  if i.closed then i.low ≤ reached && reached ≤ i.high
  else i.low < reached && reached < i.high

def Interval.nearestPoint (i : Interval) : Option Nat :=
  let below := i.value / i.unit
  let nearerFirst :=
    if 2 * (i.value % i.unit) ≤ i.unit then [below, below + 1] else [below + 1, below]
  nearerFirst.find? i.contains

/-- The position of the decimal point of a positive number: `10 ^ (point - 1)` does not exceed it
and `10 ^ point` does. -/
def Parts.point (p : Parts) : Int :=
  let scaled :=
    if p.exponent < 0 then p.significand * tenPow 400 / twoPow p.exponent.natAbs
    else p.significand * twoPow p.exponent.natAbs * tenPow 400
  ((Nat.toDigits 10 scaled).length : Int) - 400

def stripZeros : Nat → Nat → Int → Nat × Int
  | 0, digits, exponent => (digits, exponent)
  | fuel + 1, digits, exponent =>
    if digits ≠ 0 && digits % 10 = 0 then stripZeros fuel (digits / 10) (exponent + 1)
    else (digits, exponent)

/-- Digits and exponent of the shortest decimal that reads back as a finite positive float. -/
def Parts.shortest (p : Parts) : Nat × Int :=
  let point := p.point
  let found := (List.range 17).findSome? fun n =>
    let step := point - (n + 1 : Nat)
    (p.interval step).nearestPoint.map fun digits => (digits, step)
  let (digits, step) := found.getD (p.significand, 0)
  stripZeros 20 digits step

structure Layout where
  /-- The decimal point stands among or beside the digits when its position lies in this range,
  and an exponent is written otherwise. -/
  lowestPoint : Option Int
  highestPoint : Option Int
  /-- Whether a whole number ends in `.0`. -/
  wholeMark : Bool
  /-- Whether a positive exponent has a sign. -/
  plusSign : Bool

/-- Numbers of a data format: an exponent for the very large and the very small, and a mark that
tells a whole float from an integer. -/
def Layout.data : Layout := ⟨some (-4), some 16, true, false⟩

def Layout.signedData : Layout := { Layout.data with plusSign := true }

/-- Numbers in running text: no exponent, and no mark on whole numbers. -/
def Layout.running : Layout := ⟨none, none, false, false⟩

def Layout.positional (l : Layout) (point : Int) : Bool :=
  l.lowestPoint.all (· ≤ point) && l.highestPoint.all (point ≤ ·)

def Layout.render (l : Layout) (digits : List Char) (point : Int) : List Char :=
  let count : Int := digits.length
  if l.positional point then
    if point ≤ 0 then '0' :: '.' :: List.replicate (-point).toNat '0' ++ digits
    else if count ≤ point then
      digits ++ List.replicate (point - count).toNat '0' ++ (if l.wholeMark then ['.', '0'] else [])
    else digits.take point.toNat ++ '.' :: digits.drop point.toNat
  else
    let mark := if l.plusSign && 0 < point then ['e', '+'] else ['e']
    let exponent := mark ++ (toString (point - 1)).toList
    match digits with
    | [] => []
    | [d] => d :: exponent
    | d :: rest => d :: '.' :: rest ++ exponent

def Layout.float (l : Layout) (x : Float) : List Char :=
  let p := Parts.ofFloat x
  let body :=
    if p.significand = 0 then '0' :: (if l.wholeMark then ['.', '0'] else [])
    else
      let (digits, exponent) := p.shortest
      let text := Text.natDigits digits
      l.render text (text.length + exponent)
  if p.negative then '-' :: body else body

end ConfigReference.Decimal
