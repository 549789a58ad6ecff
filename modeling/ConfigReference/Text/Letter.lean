import ConfigReference.Text.LetterTable

/-!
# Letters

Character classes and lower case beyond ASCII, read off the letter tables.
-/

set_option autoImplicit false

namespace ConfigReference.Text

/-- Whether a boundary list contains `n`: an odd number of its boundaries lies at or below. -/
def inBoundaries (bounds : Array Nat) (n : Nat) : Bool :=
  bounds.foldl (fun inside b => if b ≤ n then !inside else inside) false

/-- Membership in a class whose ASCII part is known, without a look at its table. -/
def inClass (ascii : Char → Bool) (bounds : Array Nat) (c : Char) : Bool :=
  if c.toNat < 0x80 then ascii c else inBoundaries bounds c.toNat

def isAlphabetic (c : Char) : Bool := inClass Char.isAlpha LetterTable.alphabetic c

def isNumeric (c : Char) : Bool := inClass Char.isDigit LetterTable.numeric c

def isAlphanumeric (c : Char) : Bool := isAlphabetic c || isNumeric c

def isDecimal (c : Char) : Bool := inClass Char.isDigit LetterTable.decimal c

def isMark (c : Char) : Bool := inClass (fun _ => false) LetterTable.mark c

/-- The connector punctuation of Unicode, and the two join controls. -/
def isConnector (c : Char) : Bool :=
  [0x5F, 0x203F, 0x2040, 0x2054, 0xFE33, 0xFE34, 0xFE4D, 0xFE4E, 0xFE4F, 0xFF3F,
    0x200C, 0x200D].contains c.toNat

def isWordChar (c : Char) : Bool :=
  isAlphabetic c || isDecimal c || isMark c || isConnector c

def isCased (c : Char) : Bool := inClass Char.isAlpha LetterTable.cased c

def isCaseIgnorable (c : Char) : Bool :=
  inClass (fun c => ['\'', '.', ':', '^', (Char.ofNat 0x60)].contains c)
    LetterTable.caseIgnorable c

def LetterTable.CaseRun.image? (run : LetterTable.CaseRun) (n : Nat) : Option Nat :=
  if run.first ≤ n && n ≤ run.last && (n - run.first) % run.step == 0 then
    some (n + run.shift).toNat
  else none

def lowerChar (c : Char) : Char :=
  if c.toNat < 0x80 then c.toLower
  else
    match LetterTable.lowercase.findSome? (·.image? c.toNat) with
    | some n => Char.ofNat n
    | none => c

/-- A representative of the characters that differ from `c` in case only. -/
def foldCase (c : Char) : Char :=
  match LetterTable.folded.find? (·.1 == c.toNat) with
  | some (_, n) => Char.ofNat n
  | none => lowerChar c

def meetsCased (s : List Char) : Bool := (s.find? (!isCaseIgnorable ·)).any isCased

/-- Lower case with the characters already passed, latest first, at hand: a capital sigma at the
end of a word becomes the final form, and a dotted capital I keeps its dot as a mark. -/
def lowerAfter (passed : List Char) : List Char → List Char
  | [] => []
  | c :: rest =>
    let image :=
      if c.toNat == 0x130 then [Char.ofNat 0x69, Char.ofNat 0x307]
      else if c.toNat == 0x3A3 then
        if meetsCased passed && !meetsCased rest then [Char.ofNat 0x3C2] else [Char.ofNat 0x3C3]
      else [lowerChar c]
    image ++ lowerAfter (c :: passed) rest

def lower (s : List Char) : List Char := lowerAfter [] s

end ConfigReference.Text
