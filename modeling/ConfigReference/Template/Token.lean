import ConfigReference.Decimal.Nearest
import ConfigReference.Template
import ConfigReference.Text.Blank
import ConfigReference.Text.Line

/-!
# Pieces of a template

A template's source is text, tags and comments in turn. A dash at the edge of a tag takes the blanks
of the text next to it away.
-/

set_option autoImplicit false

namespace ConfigReference.Template

/-- What a tag is made of. A word is a name, with what follows it behind dots. -/
inductive Token where
  | word (v : Variable)
  | text (s : String)
  | int (n : Int)
  | float (x : Float)
  | sign (s : String)
  deriving BEq, Inhabited

inductive Piece where
  | text (s : List Char)
  | output (tokens : List Token)
  | statement (tokens : List Token)

def isNameStart (c : Char) : Bool := c.isAlpha || c == '_'

def isNameChar (c : Char) : Bool := c.isAlphanum || c == '_'

def isTagSpace (c : Char) : Bool := c == ' ' || c == '\t' || c == '\r' || c == '\n'

def splitName (s : List Char) : String × List Char :=
  (.ofList (s.takeWhile isNameChar), s.dropWhile isNameChar)

def readPath : Nat → List Char → List String × List Char
  | fuel + 1, '.' :: c :: rest =>
    if isNameChar c then
      let (name, rest) := splitName (c :: rest)
      let (path, rest) := readPath fuel rest
      (name :: path, rest)
    else ([], '.' :: c :: rest)
  | _, s => ([], s)

/-- A number whose sign is already read. Integers have 64 bits. -/
def readNumeral? (negative : Bool) (s : List Char) : Option (Token × List Char) :=
  let whole := if s.head? = some '0' then ['0'] else s.takeWhile Text.isAsciiDigit
  let rest := s.drop whole.length
  let fraction := (rest.drop 1).takeWhile Text.isAsciiDigit
  if rest.head? = some '.' && !fraction.isEmpty then
    let digits := Text.digitsValue (whole ++ fraction)
    let x := Decimal.ofScientific digits (-(fraction.length : Int))
    some (.float (Decimal.signed negative x), rest.drop (1 + fraction.length))
  else
    let n : Int := Text.digitsValue whole
    let n := if negative then -n else n
    if Decimal.fitsWord n then some (.int n, rest) else none

/-- A text between two signs `quote`. It has no escapes. -/
def readText? (quote : Char) (s : List Char) : Option (Token × List Char) :=
  match s.dropWhile (· != quote) with
  | _ :: rest => some (.text (.ofList (s.takeWhile (· != quote))), rest)
  | [] => none

def backquote : Char := Char.ofNat 0x60

def readToken? : List Char → Option (Token × List Char)
  | '=' :: '=' :: rest => some (.sign "==", rest)
  | '!' :: '=' :: rest => some (.sign "!=", rest)
  | ':' :: ':' :: rest => some (.sign "::", rest)
  | c :: rest =>
    if c == '"' || c == '\'' || c == backquote then readText? c rest
    else if c.isDigit then readNumeral? false (c :: rest)
    else if c == '-' && (rest.head?.any Char.isDigit) then readNumeral? true rest
    else if isNameStart c then
      let (name, rest) := splitName (c :: rest)
      let (path, rest) := readPath rest.length rest
      some (.word ⟨name, path⟩, rest)
    else if "()[],=|".toList.contains c then some (.sign (.ofList [c]), rest)
    else none
  | [] => none

/-- The tokens of a tag up to its end at the sign `close` and a brace, whether a dash stands before
it, and what follows. -/
def readTag? (close : Char) : Nat → List Char → Option (List Token × Bool × List Char)
  | 0, _ => none
  | fuel + 1, s =>
    let s := s.dropWhile isTagSpace
    if ['-', close, '}'].isPrefixOf s then some ([], true, s.drop 3)
    else if [close, '}'].isPrefixOf s then some ([], false, s.drop 2)
    else do
      let (token, rest) ← readToken? s
      let (tokens, trims, rest) ← readTag? close fuel rest
      return (token :: tokens, trims, rest)

/-- What follows a comment, and whether a dash stands at its end. -/
def skipComment? : List Char → Option (Bool × List Char)
  | '-' :: '#' :: '}' :: rest => some (true, rest)
  | '#' :: '}' :: rest => some (false, rest)
  | _ :: rest => skipComment? rest
  | [] => none

def splitText : List Char → List Char × List Char
  | '{' :: c :: rest =>
    if c == '{' || c == '%' || c == '#' then ([], '{' :: c :: rest)
    else
      let (text, rest) := splitText (c :: rest)
      ('{' :: text, rest)
  | c :: rest =>
    let (text, rest) := splitText rest
    (c :: text, rest)
  | [] => ([], [])

def trimText (left right : Bool) (s : List Char) : List Char :=
  let s := if left then Text.trimStart s else s
  if right then Text.trimEnd s else s

/-- The pieces of a source; `trims` tells whether a dash stands before it. -/
def readPieces? : Nat → Bool → List Char → Option (List Piece)
  | 0, _, _ => none
  | fuel + 1, trims, s =>
    let (text, rest) := splitText s
    match rest with
    | '{' :: c :: rest => do
      let dash := rest.head? = some '-'
      let rest := if dash then rest.drop 1 else rest
      let text := Piece.text (trimText trims dash text)
      match c with
      | '{' =>
        let (tokens, trims, rest) ← readTag? '}' (rest.length + 1) rest
        return text :: .output tokens :: (← readPieces? fuel trims rest)
      | '%' =>
        let (tokens, trims, rest) ← readTag? '%' (rest.length + 1) rest
        return text :: .statement tokens :: (← readPieces? fuel trims rest)
      | _ =>
        let (trims, rest) ← skipComment? rest
        return text :: (← readPieces? fuel trims rest)
    | _ => some [.text (trimText trims false text)]

def pieces? (source : List Char) : Option (List Piece) :=
  readPieces? (source.length + 1) false source

end ConfigReference.Template
