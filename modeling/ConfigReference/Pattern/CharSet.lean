import ConfigReference.Text.Category

/-!
# Character sets

Sets of characters as patterns write them, each with a decidable membership test.
-/

set_option autoImplicit false

namespace ConfigReference

namespace Text

/-- The characters that differ from `c` in case only, `c` among them. -/
def caseVariants (c : Char) : List Char :=
  let base := foldCase c
  let lowered := LetterTable.lowercase.toList.filterMap fun run =>
    let n := ((base.toNat : Int) - run.shift).toNat
    if run.image? n = some base.toNat then some (Char.ofNat n) else none
  let folded := LetterTable.folded.toList.filterMap fun (n, image) =>
    if image == base.toNat then some (Char.ofNat n) else none
  c :: base :: base.toUpper :: (lowered ++ folded).filter fun v => foldCase v == base

end Text

inductive CharSet where
  | empty
  | range (first last : Char)
  | decimals
  | blanks
  | wordChars
  | property (holds : Char → Bool)
  | union (s t : CharSet)
  | inter (s t : CharSet)
  | diff (s t : CharSet)
  | symmDiff (s t : CharSet)
  | compl (s : CharSet)
  /-- The set with all variants of its characters in case. -/
  | anyCase (s : CharSet)

namespace CharSet

def contains : CharSet → Char → Bool
  | empty, _ => false
  | range first last, c => first ≤ c && c ≤ last
  | decimals, c => Text.isDecimal c
  | blanks, c => Text.isBlank c
  | wordChars, c => Text.isWordChar c
  | property holds, c => holds c
  | union s t, c => s.contains c || t.contains c
  | inter s t, c => s.contains c && t.contains c
  | diff s t, c => s.contains c && !t.contains c
  | symmDiff s t, c => s.contains c != t.contains c
  | compl s, c => !s.contains c
  | anyCase s, c => (Text.caseVariants c).any s.contains

def single (c : Char) : CharSet := range c c

def ofRanges (ranges : List (Char × Char)) : CharSet :=
  ranges.foldl (fun s r => union s (range r.1 r.2)) empty

def asciiDigits : CharSet := range '0' '9'

def asciiBlanks : CharSet := ofRanges [('\t', '\r'), (' ', ' ')]

def asciiWordChars : CharSet := ofRanges [('0', '9'), ('A', 'Z'), ('_', '_'), ('a', 'z')]

def asciiNamed? (name : List Char) : Option CharSet :=
  match String.ofList name with
  | "alnum" => some (ofRanges [('0', '9'), ('A', 'Z'), ('a', 'z')])
  | "alpha" => some (ofRanges [('A', 'Z'), ('a', 'z')])
  | "ascii" => some (range '\x00' '\x7f')
  | "blank" => some (ofRanges [('\t', '\t'), (' ', ' ')])
  | "cntrl" => some (ofRanges [('\x00', '\x1f'), ('\x7f', '\x7f')])
  | "digit" => some asciiDigits
  | "graph" => some (range '!' '~')
  | "lower" => some (range 'a' 'z')
  | "print" => some (range ' ' '~')
  | "punct" => some (ofRanges [('!', '/'), (':', '@'), ('[', Char.ofNat 0x60), ('\x7b', '~')])
  | "space" => some asciiBlanks
  | "upper" => some (range 'A' 'Z')
  | "word" => some asciiWordChars
  | "xdigit" => some (ofRanges [('0', '9'), ('A', 'F'), ('a', 'f')])
  | _ => none

/-- The properties of characters that have a name, spelt without blanks, lines and case. -/
def binary? (name : String) : Option CharSet :=
  match name with
  | "any" => some (compl empty)
  | "ascii" => some (range '\x00' '\x7f')
  | "alphabetic" | "alpha" => some (property Text.isAlphabetic)
  | "uppercase" | "upper" => some (property Text.isUpper)
  | "lowercase" | "lower" => some (property Text.isLower)
  | "whitespace" | "wspace" | "space" => some blanks
  | "cased" => some (property Text.isCased)
  | "caseignorable" | "ci" => some (property Text.isCaseIgnorable)
  | _ => none

def category? (name : String) : Option CharSet :=
  match name with
  | "any" => some (compl empty)
  | "ascii" => some (range '\x00' '\x7f')
  | "l" | "letter" => some (property Text.isLetter)
  | "lu" | "uppercaseletter" => some (property Text.isCapitalLetter)
  | "ll" | "lowercaseletter" => some (property Text.isSmallLetter)
  | "lt" | "titlecaseletter" => some (property Text.isTitle)
  | "lc" | "casedletter" =>
    some (property fun c => Text.isCapitalLetter c || Text.isSmallLetter c || Text.isTitle c)
  | "m" | "mark" | "combiningmark" => some (property Text.isMark)
  | "n" | "number" => some (property Text.isNumeric)
  | "nd" | "decimalnumber" | "digit" => some decimals
  | "nl" | "letternumber" => some (property Text.isLetterNumber)
  | "no" | "othernumber" => some (property Text.isOtherNumber)
  | "p" | "punctuation" | "punct" => some (property Text.isPunctuation)
  | "s" | "symbol" => some (property Text.isSymbol)
  | "z" | "separator" => some (property Text.isSeparator)
  | "zs" | "spaceseparator" => some (property Text.isSpaceSeparator)
  | "zl" | "lineseparator" => some (single (Char.ofNat 0x2028))
  | "zp" | "paragraphseparator" => some (single (Char.ofNat 0x2029))
  | "c" | "other" => some (property Text.isOther)
  | "cc" | "control" | "cntrl" => some (property Text.isControl)
  | "cf" | "format" => some (property Text.isFormat)
  | _ => none

def script? (name : String) : Option CharSet :=
  let table := fun bounds => some (property fun c => Text.inBoundaries bounds c.toNat)
  match name with
  | "latin" | "latn" => table Text.CategoryTable.latin
  | "greek" | "grek" => table Text.CategoryTable.greek
  | "cyrillic" | "cyrl" => table Text.CategoryTable.cyrillic
  | "han" | "hani" => table Text.CategoryTable.han
  | "hiragana" | "hira" => table Text.CategoryTable.hiragana
  | "katakana" | "kana" => table Text.CategoryTable.katakana
  | _ => none

def named? (name : String) : Option CharSet :=
  ((binary? name).or (category? name)).or (script? name)

def valued? (name value : String) : Option CharSet :=
  match name with
  | "gc" | "generalcategory" => category? value
  | "sc" | "script" | "scx" | "scriptextensions" => script? value
  | _ => none

/-- About how many steps an automaton over octets takes to recognise a character of the set. -/
def steps : CharSet → Nat
  | empty => 1
  | range first last =>
    if first = last then first.utf8Size else if last.toNat < 0x80 then 1 else 3 * last.utf8Size
  | decimals => 100
  | blanks => 15
  | wordChars => 400
  | property _ => 400
  | union s t => max s.steps t.steps
  | inter s t => max s.steps t.steps
  | diff s t => max s.steps t.steps
  | symmDiff s t => max s.steps t.steps
  | compl s => s.steps + 10
  | anyCase s => s.steps

end CharSet

end ConfigReference
