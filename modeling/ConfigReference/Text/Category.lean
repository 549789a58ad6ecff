import ConfigReference.Text.Blank
import ConfigReference.Text.CategoryTable
import ConfigReference.Text.Letter

/-!
# Categories of characters

The kinds of letters and signs that patterns tell apart by name.
-/

set_option autoImplicit false

namespace ConfigReference.Text

def inTable (bounds : Array Nat) (c : Char) : Bool := inClass (fun _ => false) bounds c

def isLetterNumber (c : Char) : Bool := inTable CategoryTable.letterNumber c

def isEnclosed (c : Char) : Bool := inTable CategoryTable.enclosed c

def isLetter (c : Char) : Bool :=
  isAlphabetic c && !isMark c && !isLetterNumber c && !isEnclosed c

def isTitle (c : Char) : Bool := inTable CategoryTable.title c

/-- Capitals, numbers and symbols among them. -/
def isUpper (c : Char) : Bool :=
  !isTitle c && (lowerChar c != c || inTable CategoryTable.loneCapital c
    || (isEnclosed c && isCased c && 0x10000 ≤ c.toNat))

/-- Small forms, modifiers, numbers and symbols among them. -/
def isLower (c : Char) : Bool := isCased c && !isUpper c && !isTitle c

def isCapitalLetter (c : Char) : Bool := isUpper c && isLetter c

def isSmallLetter (c : Char) : Bool :=
  isLower c && isLetter c && !inTable CategoryTable.smallModifier c

def isOtherNumber (c : Char) : Bool := isNumeric c && !isDecimal c && !isLetterNumber c

def isPunctuation (c : Char) : Bool := inBoundaries CategoryTable.punctuation c.toNat

def isSymbol (c : Char) : Bool := inBoundaries CategoryTable.symbol c.toNat

def isControl (c : Char) : Bool := c.toNat < 0x20 || (0x7F ≤ c.toNat && c.toNat < 0xA0)

def isSeparator (c : Char) : Bool := isBlank c && !isControl c

def isSpaceSeparator (c : Char) : Bool := isSeparator c && c.toNat != 0x2028 && c.toNat != 0x2029

/-- Controls, shaping characters, and what is no character at all. -/
def isOther (c : Char) : Bool :=
  !(isLetter c || isMark c || isNumeric c || isPunctuation c || isSymbol c || isSeparator c)

def isFormat (c : Char) : Bool := inTable CategoryTable.format c

end ConfigReference.Text
