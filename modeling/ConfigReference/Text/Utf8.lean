/-!
# Bytes and text

UTF-8 with a replacement character for what is no text, and the base-64 form of bytes.
-/

set_option autoImplicit false

namespace ConfigReference.Text

def encode (s : String) : List UInt8 := s.toUTF8.data.toList

/-- What may follow a leading byte: the range of the next byte, and the count of further
continuation bytes. -/
structure Lead where
  low : Nat
  high : Nat
  more : Nat

def lead? (b : Nat) : Option Lead :=
  if 0xC2 ≤ b && b ≤ 0xDF then some ⟨0x80, 0xBF, 0⟩
  else if b = 0xE0 then some ⟨0xA0, 0xBF, 1⟩
  else if b = 0xED then some ⟨0x80, 0x9F, 1⟩
  else if 0xE1 ≤ b && b ≤ 0xEF then some ⟨0x80, 0xBF, 1⟩
  else if b = 0xF0 then some ⟨0x90, 0xBF, 2⟩
  else if 0xF1 ≤ b && b ≤ 0xF3 then some ⟨0x80, 0xBF, 2⟩
  else if b = 0xF4 then some ⟨0x80, 0x8F, 2⟩
  else none

def leadBits (b : Nat) : Nat := if b < 0xE0 then b % 32 else if b < 0xF0 then b % 16 else b % 8

def replacement : Char := Char.ofNat 0xFFFD

structure Partial where
  bits : Nat
  expect : Lead

/-- Decode bytes after a character under way, if any. A byte that starts no character, and the
longest start of a character that does not go on, each become one replacement character. -/
def decodeFrom (pending : Option Partial) : List UInt8 → List Char
  | [] => if pending.isSome then [replacement] else []
  | byte :: rest =>
    let b := byte.toNat
    let fresh :=
      if b < 0x80 then (some (Char.ofNat b), none)
      else match lead? b with
        | some lead => (none, some (Partial.mk (leadBits b) lead))
        | none => (some replacement, none)
    match pending with
    | none => fresh.1.toList ++ decodeFrom fresh.2 rest
    | some p =>
      if p.expect.low ≤ b && b ≤ p.expect.high then
        let bits := p.bits * 64 + b % 64
        match p.expect.more with
        | 0 => Char.ofNat bits :: decodeFrom none rest
        | more + 1 => decodeFrom (some ⟨bits, ⟨0x80, 0xBF, more⟩⟩) rest
      else replacement :: fresh.1.toList ++ decodeFrom fresh.2 rest

def decode (bytes : List UInt8) : String := String.ofList (decodeFrom none bytes)

def decode? (bytes : List UInt8) : Option String :=
  let text := decode bytes
  if encode text = bytes then some text else none

def base64Digit (n : Nat) : Char :=
  if n < 26 then Char.ofNat (0x41 + n)
  else if n < 52 then Char.ofNat (0x61 + (n - 26))
  else if n < 62 then Char.ofNat (0x30 + (n - 52))
  else if n = 62 then '+' else '/'

/-- Three bytes as four digits, a shorter last group being padded. -/
def base64Chars : List UInt8 → List Char
  | [] => []
  | [a] =>
    let n := a.toNat * 16
    [base64Digit (n / 64), base64Digit (n % 64), '=', '=']
  | [a, b] =>
    let n := (a.toNat * 256 + b.toNat) * 4
    [base64Digit (n / 4096), base64Digit (n / 64 % 64), base64Digit (n % 64), '=']
  | a :: b :: c :: rest =>
    let n := (a.toNat * 256 + b.toNat) * 256 + c.toNat
    base64Digit (n / 262144) :: base64Digit (n / 4096 % 64) :: base64Digit (n / 64 % 64)
      :: base64Digit (n % 64) :: base64Chars rest

def base64 (bytes : List UInt8) : String := String.ofList (base64Chars bytes)

example : decode [0x61, 0xE2, 0x82, 0x41, 0xE2, 0x82, 0xAC] = "a\uFFFDA€" := by decide

end ConfigReference.Text
