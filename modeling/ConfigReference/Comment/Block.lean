import ConfigReference.Comment.Description
import ConfigReference.Comment.Line
import ConfigReference.Text.Letter

/-!
# Comment blocks

A block is read from its last header on. Every directive opens the field that the bare lines behind
it go to.
-/

set_option autoImplicit false

namespace ConfigReference.Comment

open Text

/-- The field that bare lines go to, and for the fields that may be raw whether they are. -/
inductive OpenField where
  | text
  | sectionText (isRaw : Bool)
  | exampleCode
  | exampleText (isRaw : Bool)
  deriving DecidableEq, Repr

/-- A block under way. Once its description is raw it stays raw. -/
structure Block where
  description : Description
  field : OpenField := .text
  rawText : Bool := false
  deriving DecidableEq, Repr

/-- Add a line to a field: raw lines keep their line breaks, and others are joined by a blank,
empty ones being left out. -/
def append (field : String) (line : List Char) (isRaw : Bool) : String :=
  if field.isEmpty then String.ofList line
  else if isRaw then field ++ "\n" ++ String.ofList line
  else if line.isEmpty then field
  else field ++ " " ++ String.ofList line

namespace Block

def addBare (b : Block) (line : List Char) : Block :=
  let d := b.description
  match b.field with
  | .text => { b with description := { d with text := append d.text line b.rawText } }
  | .sectionText isRaw =>
    { b with description := { d with sectionText := append d.sectionText line isRaw } }
  | .exampleCode =>
    { b with description := { d with exampleCode := append d.exampleCode line true } }
  | .exampleText isRaw =>
    { b with description := { d with exampleText := append d.exampleText line isRaw } }

def add (b : Block) (line : List Char) : Block :=
  let d := b.description
  match Line.read line with
  | .raw => { b with field := .text, rawText := true }
  | .defaultText t => { b with field := .text, description := { d with defaultText := .ofList t } }
  | .notationType t =>
    { b with field := .text, description := { d with notationType := .ofList t } }
  | .sectionText isRaw t =>
    { b with field := .sectionText isRaw, description := { d with sectionText := .ofList t } }
  | .sectionName t => { b with field := .text, description := { d with sectionName := .ofList t } }
  | .exampleText isRaw t =>
    { b with field := .exampleText isRaw, description := { d with exampleText := .ofList t } }
  | .exampleName name t =>
    let exampleText := if d.exampleText.isEmpty then .ofList t else d.exampleText
    { b with
      field := .exampleCode
      description := { d with exampleName := .ofList name, exampleCode := "", exampleText } }
  | .bare t => b.addBare t
  | .other => b

end Block

def splitType? (s : List Char) : Option (List Char × List Char) := do
  let body ← afterWord? ['('] s
  let label := body.takeWhile (· != ')')
  let rest ← afterWord? [')'] (body.drop label.length)
  let rest ← afterBlanks? rest
  if label.isEmpty then none else some (label, rest)

/-- The words with an `@` at the start of `s`, each with a blank behind it, and the rest; in at most
`fuel` steps. -/
def splitFlags : Nat → List Char → List (List Char) × List Char
  | 0, s => ([], s)
  | fuel + 1, s =>
    match s with
    | '@' :: body =>
      let name := body.takeWhile isWordChar
      match afterBlanks? (body.drop name.length) with
      | some rest =>
        if name.isEmpty then ([], s)
        else
          let (flags, rest) := splitFlags fuel rest
          (name :: flags, rest)
      | none => ([], s)
    | _ => ([], s)

def readHeaderText (s : List Char) : Description :=
  let (label, rest) := (splitType? s).getD ([], s)
  let (flags, text) := splitFlags rest.length rest
  let has (flag : String) : Bool := flags.contains flag.toList
  { text := .ofList text
    typeLabel := .ofList label
    hidden := has "hidden"
    required := has "required"
    deprecated := has "deprecated"
    experimental := has "experimental" }

def lastHeader? : List (List Char) → Option (List Char × List (List Char))
  | [] => none
  | line :: rest =>
    match lastHeader? rest with
    | some found => some found
    | none => if (headerKey? line).isSome then some (line, rest) else none

/-- Key and description of a block, or nothing when it has no header. The key is empty in a block
that describes the value it stands above. -/
def parse (lines : List (List Char)) : Option (String × Description) := do
  let (header, rest) ← lastHeader? lines
  let (key, text) ← readHeader? header
  let block := rest.foldl Block.add { description := readHeaderText text }
  some (String.ofList key, block.description)

end ConfigReference.Comment
