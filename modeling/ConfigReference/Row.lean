import ConfigReference.Comment.Collect
import ConfigReference.Json.Printer
import ConfigReference.KeyPath
import ConfigReference.Yaml.Data.Printer
import ConfigReference.Yaml.Node.Json

/-!
# Rows

One row of the reference for each value that is documented: the values with a description, and
those without parts unless something around them is described. The rows of a tree come in document
order, and each inherits the section that was named last.
-/

set_option autoImplicit false

namespace ConfigReference

structure Row where
  key : String := ""
  typeName : String := ""
  notationType : String := ""
  defaultText : String := ""
  /-- The default that the comment above the value gives. -/
  autoDefault : String := ""
  text : String := ""
  /-- The description in the comment above the value. -/
  autoText : String := ""
  sectionName : String := ""
  sectionText : String := ""
  /-- The section in force at the row. -/
  autoSection : String := ""
  autoSectionText : String := ""
  exampleName : String := ""
  exampleText : String := ""
  exampleCode : String := ""
  column : Nat := 0
  line : Nat := 0
  hidden : Bool := false
  required : Bool := false
  deprecated : Bool := false
  experimental : Bool := false
  deriving DecidableEq, Inhabited, Repr

namespace Row

def isDescribed (r : Row) : Bool := !r.text.isEmpty || !r.autoText.isEmpty

/-- The name that ends the inheritance of a section. -/
def resetSection : String := "@default"

/-- The section that a row without one of its own belongs to. -/
structure InForce where
  name : String := ""
  text : String := ""
  deriving DecidableEq, Inhabited, Repr

def InForce.next (s : InForce) (name text : String) : InForce :=
  if name.isEmpty then s else if name = resetSection then {} else { name, text }

inductive Shown where
  | nothing
  | data (json : Json)
  | text (s : String)
  deriving Inhabited

def inferredType (value : Yaml.Node) : String :=
  match value.resolve with
  | .mapping .. => "object"
  | .sequence .. => "list"
  | .aliasTo .. => "string"
  | .scalar _ tag _ =>
    match tag with
    | .bool => "bool"
    | .int => "int"
    | .float => "float"
    | .null | .str | .timestamp => "string"

def orElse (first other : String) : String := if first.isEmpty then other else first

/-- JSON on one line, a string without its quotes. -/
def plainJson : Json → String
  | .string s => s
  | json => json.render

def notationText (value : Yaml.Node) (notationType : String) : String :=
  if notationType = "yaml" then value.resolve.toData.render else value.resolve.text

def codeText (s : String) : String :=
  let quote := String.singleton (Char.ofNat 0x60)
  quote ++ s ++ quote

def shownDefault (value : Yaml.Node) (notationType : String) (isEmpty : Bool) : Shown → String
  | .nothing => codeText "nil"
  | .data json =>
    if notationType.isEmpty || isEmpty then codeText (plainJson json) else value.resolve.text
  | .text s => s

/-- What is said of the value at a key: by the descriptions, and by the comment above it. -/
structure Said where
  given : Option Description
  auto : Description

def said (ds : Descriptions) (key : String) (head : Option Yaml.Place) : Said where
  given := ds.get? key
  auto := head.elim {} fun p => .ofComment p.comment

def Said.isDescribed (s : Said) : Bool := s.given.isSome || !s.auto.text.isEmpty

def Said.notationType (s : Said) : String :=
  orElse s.auto.notationType (s.given.elim "" (·.notationType))

def ofValue (inForce : InForce) (key : String) (head : Option Yaml.Place) (value : Yaml.Node)
    (s : Said) (shown : Shown) (isEmpty : Bool) : Row × InForce :=
  let d := s.given.getD {}
  let auto := s.auto
  let notationType := s.notationType
  let inferred := match shown with
    | .nothing => "string"
    | _ => orElse notationType (inferredType value)
  let flags := if auto.text.isEmpty then d else auto
  let sectionName := orElse d.sectionName auto.sectionName
  let sectionText := orElse d.sectionText auto.sectionText
  let inForce := inForce.next sectionName sectionText
  ({ key
     typeName := orElse d.typeLabel (orElse auto.typeLabel inferred)
     notationType
     defaultText :=
      if d.defaultText.isEmpty && auto.defaultText.isEmpty then
        shownDefault value notationType isEmpty shown
      else d.defaultText
     autoDefault := auto.defaultText
     text := d.text
     autoText := auto.text
     sectionName
     sectionText
     autoSection := inForce.name
     autoSectionText := inForce.text
     exampleName := orElse d.exampleName auto.exampleName
     exampleText := orElse d.exampleText auto.exampleText
     exampleCode := orElse d.exampleCode auto.exampleCode
     column := head.elim 0 (·.column)
     line := head.elim 0 (·.line)
     hidden := flags.hidden
     required := flags.required
     deprecated := flags.deprecated
     experimental := flags.experimental }, inForce)

def shownContainer (value : Yaml.Node) (s : Said) : Shown :=
  if s.notationType.isEmpty then .data value.toJson
  else .text (notationText value s.notationType)

def shownScalar (value : Yaml.Node) (tag : Yaml.ScalarTag) (s : Said) : Shown :=
  if tag = .null then .nothing
  else if tag = .str && !s.notationType.isEmpty then .text (notationText value s.notationType)
  else .data value.toJson

def ofEmpty (ds : Descriptions) (inForce : InForce) (key : String) (head : Option Yaml.Place)
    (leaves : Bool) (value : Yaml.Node) (json : Json) : List Row × InForce :=
  let s := said ds key head
  if key.isEmpty || !(leaves || s.isDescribed) then ([], inForce)
  else
    let (row, inForce) := ofValue inForce key head value s (.data json) true
    ([row], inForce)

/-- The row of a container itself, if it is described. -/
def ofContainer (ds : Descriptions) (inForce : InForce) (key : String)
    (head : Option Yaml.Place) (value : Yaml.Node) : List Row × InForce :=
  let s := said ds key head
  if s.isDescribed then
    let (row, inForce) := ofValue inForce key head value s (shownContainer value s) false
    ([row], inForce)
  else ([], inForce)

def ofScalar (ds : Descriptions) (inForce : InForce) (key : String) (head : Option Yaml.Place)
    (leaves : Bool) (value : Yaml.Node) (tag : Yaml.ScalarTag) : List Row × InForce :=
  let s := said ds key head
  if leaves || s.isDescribed then
    let (row, inForce) := ofValue inForce key head value s (shownScalar value tag s) false
    ([row], inForce)
  else ([], inForce)

mutual

/-- The rows of a value and of all below it, and the section in force after them. `head` is the
place of the key, or of the item itself; `leaves` is whether values without parts get rows of
their own. -/
def flatten (ds : Descriptions) (inForce : InForce) (key : String) (head : Option Yaml.Place)
    (leaves : Bool) : Yaml.Node → List Row × InForce
  | .aliasTo _ target => flatten ds inForce key head leaves target
  | .scalar p tag text => ofScalar ds inForce key head leaves (.scalar p tag text) tag
  | .sequence p items =>
    if items.isEmpty then ofEmpty ds inForce key head leaves (.sequence p items) (.array [])
    else
      let own := ofContainer ds inForce key head (.sequence p items)
      let below := flattenItems ds own.2 key (leaves && own.1.isEmpty) 0 items
      (own.1 ++ below.1, below.2)
  | .mapping p entries =>
    if entries.isEmpty then ofEmpty ds inForce key head leaves (.mapping p entries) (.object [])
    else
      let own := ofContainer ds inForce key head (.mapping p entries)
      let below := flattenEntries ds own.2 key (leaves && own.1.isEmpty) entries
      (own.1 ++ below.1, below.2)

def flattenItems (ds : Descriptions) (inForce : InForce) (key : String) (leaves : Bool)
    (index : Nat) : List Yaml.Node → List Row × InForce
  | [] => ([], inForce)
  | item :: rest =>
    let first := flatten ds inForce (KeyPath.item key index) (some item.place) leaves item
    let others := flattenItems ds first.2 key leaves (index + 1) rest
    (first.1 ++ others.1, others.2)

def flattenEntries (ds : Descriptions) (inForce : InForce) (key : String) (leaves : Bool) :
    List (Yaml.Node × Yaml.Node) → List Row × InForce
  | [] => ([], inForce)
  | (k, value) :: rest =>
    let first := flatten ds inForce (KeyPath.child key k.text) (some k.place) leaves value
    let others := flattenEntries ds first.2 key leaves rest
    (first.1 ++ others.1, others.2)

end

end Row

/-- The kind of the root of a document that has no rows because it is no mapping. -/
structure NotAMapping where
  kind : String
  deriving DecidableEq, Repr

def Yaml.Node.rows (root : Option Yaml.Node) (ds : Descriptions) :
    Except NotAMapping (List Row) :=
  match root with
  | none => .ok []
  | some root =>
    match root.resolve with
    | .mapping p entries => .ok (Row.flatten ds {} "" none true (.mapping p entries)).1
    | other => .error ⟨other.kindName⟩

end ConfigReference
