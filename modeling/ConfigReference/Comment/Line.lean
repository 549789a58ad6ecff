import ConfigReference.Text.Blank

/-!
# Comment lines

The forms of a comment line: headers, directives and bare text. A directive and a header put their
text behind two dashes.
-/

set_option autoImplicit false

namespace ConfigReference.Comment

open Text

/-- A comment line as a block reads it. The text behind a directive has no leading blanks. -/
inductive Line where
  | raw
  | defaultText (text : List Char)
  | notationType (text : List Char)
  | sectionText (isRaw : Bool) (text : List Char)
  | sectionName (text : List Char)
  | exampleText (isRaw : Bool) (text : List Char)
  | exampleName (name : List Char) (text : List Char)
  /-- Text that goes on with what was begun. -/
  | bare (text : List Char)
  /-- No comment. -/
  | other
  deriving DecidableEq, Repr

def afterMark? (line : List Char) : Option (List Char) :=
  match trimStart line with
  | '#' :: rest => some rest
  | _ => none

def afterBlanks? (s : List Char) : Option (List Char) :=
  if (s.head?.any isBlank) then some (trimStart s) else none

def afterWord? (word s : List Char) : Option (List Char) :=
  if word.isPrefixOf s then some (s.drop word.length) else none

def singleLine? (s : List Char) : Option (List Char) := if s.contains '\n' then none else some s

def afterDashes? (s : List Char) : Option (List Char) := do
  let rest ← afterWord? ['-', '-'] s
  singleLine? (trimStart rest)

def afterSpacedDashes? (s : List Char) : Option (List Char) := do
  afterDashes? (← afterBlanks? s)

/-- The leading part of `s` that is a key, and the rest. A key has no blank outside a pair of double
quotes. `quoted` holds between two quotes. -/
def splitKey (quoted : Bool) : List Char → List Char × List Char
  | [] => ([], [])
  | c :: rest =>
    if quoted then
      let (key, rest) := splitKey (c != '"') rest
      (c :: key, rest)
    else if isBlank c || (c == '"' && !rest.contains '"') then ([], c :: rest)
    else
      let (key, rest) := splitKey (c == '"') rest
      (c :: key, rest)

/-- Key and text of a header, its key being the longest possible. -/
def readHeader? (line : List Char) : Option (List Char × List Char) := do
  let body ← afterMark? line
  let (key, rest) := splitKey false (trimStart body)
  match afterSpacedDashes? rest with
  | some text => some (key, text)
  | none => (afterSpacedDashes? body).map fun text => ([], text)

/-- The key of a header line. Directives have the form of a header whose key begins with `@`, and
are none. -/
def headerKey? (line : List Char) : Option (List Char) := do
  let (key, _) ← readHeader? line
  if key.head? = some '@' then none else some key

def directive? (name : String) (body : List Char) : Option (List Char) := do
  afterSpacedDashes? (← afterWord? name.toList body)

/-- A directive that takes an optional `@raw` behind its name. -/
def rawDirective? (name : String) (body : List Char) : Option (Bool × List Char) := do
  let rest ← afterWord? name.toList body
  let raw? := do
    let rest ← afterWord? "@raw".toList (← afterBlanks? rest)
    afterSpacedDashes? rest
  match raw? with
  | some text => some (true, text)
  | none => (afterSpacedDashes? rest).map fun text => (false, text)

/-- The shortest name in front of two dashes, and the text behind them; `passed` is the name so far
in reverse. -/
def splitName? (passed : List Char) : List Char → Option (List Char × List Char)
  | [] => none
  | c :: rest =>
    match afterDashes? (trimStart (c :: rest)) with
    | some text => some (passed.reverse, text)
    | none => if c = '\n' then none else splitName? (c :: passed) rest

def example? (body : List Char) : Option (List Char × List Char) := do
  splitName? [] (← afterBlanks? (← afterWord? "@example".toList body))

/-- The text of a bare line: at most one blank is taken off behind the mark. -/
def bareText? (line : List Char) : Option (List Char) := do
  let body ← afterMark? line
  match body with
  | [] => some []
  | c :: rest => singleLine? (if isBlank c then rest else c :: rest)

def isComment (line : List Char) : Bool := (bareText? line).isSome

def readDirective? (line : List Char) : Option Line := do
  let body := trimStart (← afterMark? line)
  if (afterWord? "@raw".toList body).any (·.all isBlank) then some .raw
  else
    ((directive? "@default" body).map Line.defaultText)
      <|> ((directive? "@notationType" body).map Line.notationType)
      <|> ((rawDirective? "@sectionDescription" body).map fun (r, t) => Line.sectionText r t)
      <|> ((directive? "@section" body).map Line.sectionName)
      <|> ((rawDirective? "@exampleDescription" body).map fun (r, t) => Line.exampleText r t)
      <|> ((example? body).map fun (n, t) => Line.exampleName n t)

def Line.read (line : List Char) : Line :=
  match readDirective? line with
  | some d => d
  | none =>
    match bareText? line with
    | some text => .bare text
    | none => .other

end ConfigReference.Comment
