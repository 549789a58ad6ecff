import ConfigReference.Ignore.Glob
import ConfigReference.Text.Blank
import ConfigReference.Text.Line

/-!
# Ignore rules

The lines of an ignore file, and what they tell about the paths below its directory.
-/

set_option autoImplicit false

namespace ConfigReference.Ignore

/-- A rule tells that what its glob accepts is ignored, or that it is kept. -/
structure Rule where
  glob : Glob
  keeps : Bool := false
  directoriesOnly : Bool := false

namespace Rule

/-- `s` without blanks at its end, unless the last of them is escaped. -/
def trimLine (s : List Char) : List Char :=
  if ['\\', ' '].isSuffixOf s then s else Text.trimEnd s

def floats (s : List Char) : Bool := ['*', '*', '/'].isPrefixOf s || s == ['*', '*']

/-- What the glob of a rule is, given its text without marks at either end. A text that has no slash
and is not anchored is found at any depth; what is inside a directory is not the directory. -/
def globText (anchored : Bool) (s : List Char) : List Char :=
  let s := if anchored || s.contains '/' || floats s then s else ['*', '*', '/'] ++ s
  if ['/', '*', '*'].isSuffixOf s then s ++ ['/', '*'] else s

def splitDirectoryMark (s : List Char) : List Char × Bool :=
  match s.reverse with
  | '/' :: '\\' :: rest => (rest.reverse, true)
  | '/' :: rest => (rest.reverse, true)
  | _ => (s, false)

/-- The marks at the start of a line: an exclamation mark for rules that keep, and a slash for rules
that are anchored. A backslash takes the meaning of a mark. -/
def splitMarks : List Char → List Char × Bool × Bool
  | '\\' :: '!' :: rest => ('!' :: rest, false, false)
  | '\\' :: '#' :: rest => ('#' :: rest, false, false)
  | '!' :: '/' :: rest => (rest, true, true)
  | '!' :: rest => (rest, true, false)
  | '/' :: rest => (rest, false, true)
  | s => (s, false, false)

def ofLine? (line : List Char) : Option Rule :=
  let line := if line.head? = some '#' then [] else trimLine line
  if line.isEmpty then none
  else
    let (s, keeps, anchored) := splitMarks line
    let (s, directoriesOnly) := splitDirectoryMark s
    (Glob.parse? (globText anchored s)).map fun glob => { glob, keeps, directoriesOnly }

/-- The lines of a file up to the first that is no text. -/
def textLines (content : List UInt8) : List (List Char) :=
  ((content.splitOn 0x0A).map Text.decode?).takeWhile (·.isSome) |>.filterMap
    (·.map fun line => Text.dropCarriageReturn line.toList)

def byteOrderMark : Char := Char.ofNat 0xFEFF

def ofFile (content : List UInt8) : List Rule :=
  match textLines content with
  | [] => []
  | first :: rest => (first.dropWhile (· == byteOrderMark) :: rest).filterMap ofLine?

def applies (r : Rule) (path : String) (isDirectory : Bool) : Bool :=
  (!r.directoriesOnly || isDirectory) && r.glob.accepts (Text.encode path)

/-- Whether a path is kept or ignored by the last rule that applies to it. -/
def verdict? (rules : List Rule) (path : String) (isDirectory : Bool) : Option Bool :=
  (rules.reverse.find? (·.applies path isDirectory)).map (·.keeps)

end Rule

end ConfigReference.Ignore
