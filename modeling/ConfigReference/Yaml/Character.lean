/-!
# Characters of YAML

The classes by which tokens are told apart. The end of a text is seen as the null character.
-/

set_option autoImplicit false

namespace ConfigReference.Yaml

def endMark : Char := Char.ofNat 0

def isEnd (c : Char) : Bool := c == endMark

def isBreak (c : Char) : Bool := c == '\n' || c == '\r'

def isGap (c : Char) : Bool := c == ' ' || c == '\t'

def isBreakOrEnd (c : Char) : Bool := isBreak c || isEnd c

def isSeparator (c : Char) : Bool := isGap c || isBreakOrEnd c

def isFlowIndicator (c : Char) : Bool :=
  c == ',' || c == '[' || c == ']' || c.toNat == 0x7B || c.toNat == 0x7D

def isNameChar (c : Char) : Bool := c.isAlphanum || c == '_' || c == '-'

def isHexDigit (c : Char) : Bool :=
  c.isDigit || ('a' ≤ c && c ≤ 'f') || ('A' ≤ c && c ≤ 'F')

def hexDigitValue (c : Char) : Nat :=
  if c.isDigit then c.toNat - 0x30
  else if 'a' ≤ c && c ≤ 'f' then c.toNat - 0x57
  else c.toNat - 0x37

def hexValue (digits : List Char) : Nat := digits.foldl (fun n d => 16 * n + hexDigitValue d) 0

def isUriChar (c : Char) : Bool :=
  (isNameChar c) || "#;/?:@&=+$,_.!~*'()[]%".toList.contains c

def isTagChar (c : Char) : Bool := isUriChar c && !isFlowIndicator c && c != '!'

def isAnchorChar (c : Char) : Bool :=
  !isSeparator c && !isFlowIndicator c && c.toNat != 0xFEFF

end ConfigReference.Yaml
