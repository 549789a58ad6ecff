import ConfigReference.Row
import ConfigReference.Text.NaturalOrder

/-!
# Sections

The rows of a reference sorted, and filed under the sections they belong to.
-/

set_option autoImplicit false

namespace ConfigReference

/-- The order of rows: by key, or by the place of the key in its source. -/
inductive RowOrder where
  | byKey
  | byPlace
  deriving DecidableEq, Inhabited, Repr

namespace RowOrder

def parse? : String → Option RowOrder
  | "alphanum" => some byKey
  | "file" => some byPlace
  | _ => none

def errorMessage (text : String) : String := "invalid sort order: " ++ text

def ofText (text : String) : RowOrder := (parse? text).getD byKey

def le : RowOrder → Row → Row → Bool
  | byKey, a, b => decide (a.key ≤ b.key)
  | byPlace, a, b => decide (a.line < b.line ∨ (a.line = b.line ∧ a.column ≤ b.column))

end RowOrder

structure Example where
  name : String := ""
  text : String := ""
  code : String := ""
  deriving DecidableEq, Inhabited, Repr

structure Section where
  name : String := ""
  text : String := ""
  rows : List Row := []
  examples : List Example := []
  pageBreak : Bool := false
  deriving DecidableEq, Inhabited, Repr

/-- All sections of a reference. The rows that name no section have one to themselves. -/
structure Sections where
  unnamed : Section := {}
  named : List Section := []
  deriving DecidableEq, Inhabited, Repr

namespace Row

/-- The example of a row, named after its key when it has no name of its own. -/
def example? (r : Row) : Option Example :=
  if r.exampleCode.isEmpty then none
  else some { name := orElse r.exampleName r.key, text := r.exampleText, code := r.exampleCode }

def hasNoSection (r : Row) : Bool := r.sectionName.isEmpty || r.sectionName == resetSection

def inherit (r : Row) : Row :=
  { r with sectionName := r.autoSection, sectionText := r.autoSectionText }

def sort (order : RowOrder) (rows : List Row) : List Row := rows.mergeSort order.le

end Row

namespace Section

def push (s : Section) (r : Row) : Section :=
  { s with rows := s.rows ++ [r], examples := s.examples ++ r.example?.toList }

/-- File a row under the section that it names; the first row of a section gives its text. -/
def file (pageBreak : Bool) (r : Row) : List Section → List Section
  | [] => [({ name := r.sectionName, text := r.sectionText, pageBreak } : Section).push r]
  | s :: rest =>
    if s.name = r.sectionName then s.push r :: rest else s :: file pageBreak r rest

def sortRows (order : RowOrder) (s : Section) : Section := { s with rows := Row.sort order s.rows }

end Section

namespace Sections

def unnamedHeading : String := "Other Values"

def add (pageBreak : Bool) (all : Sections) (r : Row) : Sections :=
  if r.hasNoSection then { all with unnamed := all.unnamed.push r }
  else { all with named := Section.file pageBreak r all.named }

/-- Rows by section, sections and rows as they come. -/
def ofRows (pageBreak : Bool) (rows : List Row) : Sections :=
  rows.foldl (add pageBreak) { unnamed := { name := unnamedHeading, pageBreak } }

/-- The rows of every section sorted; the examples stay as they were found. -/
def sortRows (order : RowOrder) (all : Sections) : Sections where
  unnamed := all.unnamed.sortRows order
  named := all.named.map (·.sortRows order)

def sorted (all : Sections) : Sections :=
  { all with
    named := all.named.mergeSort fun a b => (Text.naturalCompare a.name b.name).isLE }

end Sections

structure Arrangement where
  order : RowOrder := .byKey
  /-- Leave out the rows that nothing describes. -/
  describedOnly : Bool := false
  /-- Rows belong to the section in force at them. -/
  inheritSections : Bool := true
  pageBreaks : Bool := true
  deriving DecidableEq, Inhabited, Repr

namespace Arrangement

def arrange (a : Arrangement) (rows : List Row) : List Row :=
  let rows := if a.describedOnly then rows.filter (·.isDescribed) else rows
  let rows := if a.inheritSections then rows.map (·.inherit) else rows
  Row.sort a.order rows

/-- The rows that a reference lists, and the same rows by section. -/
def organize (a : Arrangement) (rows : List Row) : List Row × Sections :=
  let rows := a.arrange rows
  (rows, ((Sections.ofRows a.pageBreaks rows).sortRows a.order).sorted)

end Arrangement

end ConfigReference
