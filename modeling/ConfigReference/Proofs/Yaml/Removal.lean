import ConfigReference.Proofs.Yaml.Placement
import ConfigReference.Yaml.Node.Prune

/-!
# Removal from an outline

An entry or an item goes when a mark that decides on it is the first on its line, below a comment
block that holds the word. The marks that decide are those of the events of its nodes, and these
need not stand where the entry or the item starts.
-/

set_option autoImplicit false

namespace ConfigReference.Yaml

/-- A tree without comments and without the places of its collections. -/
inductive Shape where
  | scalar (line column : Nat) (text : String)
  | aliasTo (line column : Nat)
  | sequence (items : List Shape)
  | mapping (entries : List (Shape × Shape))
  deriving Inhabited

namespace Node

mutual

/-- The shape of a tree. Copies of anchored nodes are left out of it. -/
def shape : Node → Shape
  | scalar p _ text => .scalar p.line p.column text
  | aliasTo p _ => .aliasTo p.line p.column
  | sequence _ items => .sequence (itemShapes items)
  | mapping _ entries => .mapping (entryShapes entries)

def itemShapes : List Node → List Shape
  | [] => []
  | item :: rest => item.shape :: itemShapes rest

def entryShapes : List (Node × Node) → List (Shape × Shape)
  | [] => []
  | (key, value) :: rest => (key.shape, value.shape) :: entryShapes rest

end

end Node

namespace Outline

mutual

def shape : Outline → Shape
  | scalar spot text .. => .scalar spot.mark.line (spot.mark.column + 1) text
  | aliasTo spot _ => .aliasTo spot.mark.line (spot.mark.column + 1)
  | sequence _ items _ => .sequence (itemShapes items)
  | mapping _ entries _ => .mapping (entryShapes entries)

def itemShapes : List Outline → List Shape
  | [] => []
  | item :: rest => item.shape :: itemShapes rest

def entryShapes : List (Outline × Outline) → List (Shape × Shape)
  | [] => []
  | (key, value) :: rest => (key.shape, value.shape) :: entryShapes rest

end

/-- Whether a mapping that is an item takes the comment of its first key, which is on its line. -/
def handsOver (opening : Opening) : List (Outline × Outline) → Bool
  | [] => false
  | (key, _) :: _ => key.spot.mark.line == opening.spot.mark.line

/-- Which entries and items are to be taken out. `inBlock` tells of the collection whether it is a
block, and `handed` of an entry that its key has handed its comment over. -/
structure Removal where
  entry : (inBlock handed : Bool) → (key value : Outline) → Bool
  item : (inBlock : Bool) → Outline → Bool

mutual

def without (r : Removal) (isItem : Bool) : Outline → Outline
  | scalar spot text style anchor tag => scalar spot text style anchor tag
  | aliasTo spot anchor => aliasTo spot anchor
  | sequence opening items close =>
    sequence opening (withoutItems r opening.spot.inBlock items) close
  | mapping opening entries close =>
    mapping opening
      (withoutEntries r opening.spot.inBlock (isItem && handsOver opening entries) entries) close

def withoutItems (r : Removal) (inBlock : Bool) : List Outline → List Outline
  | [] => []
  | item :: rest =>
    if r.item inBlock item then withoutItems r inBlock rest
    else item.without r true :: withoutItems r inBlock rest

def withoutEntries (r : Removal) (inBlock handed : Bool) :
    List (Outline × Outline) → List (Outline × Outline)
  | [] => []
  | (key, value) :: rest =>
    if r.entry inBlock handed key value then withoutEntries r inBlock false rest
    else (key, value.without r false) :: withoutEntries r inBlock false rest

end

/-- The marks that decide on a value: below its key a sequence has none. -/
def valueMarks (key : Outline) : Outline → List Mark
  | sequence opening .. =>
    if key.spot.mark.line < opening.spot.mark.line then [] else [opening.spot.mark]
  | value => [value.spot.mark]

/-- The marks that decide on an item: for a mapping also that of a first key on its line. -/
def itemMarks : Outline → List Mark
  | mapping opening ((key, value) :: rest) _ =>
    if handsOver opening ((key, value) :: rest) then [opening.spot.mark, key.spot.mark]
    else [opening.spot.mark]
  | item => [item.spot.mark]

end Outline

section

variable (lines : List (List Char))

/-- Whether only blanks and dashes stand in front of a mark on its line. -/
def isFirstOnLine (mark : Mark) : Bool :=
  (lines[mark.line - 1]?).any fun current => startsLine (current.take mark.column)

/-- Whether the comment block directly above a line holds the word. -/
def ignoreAbove (line : Nat) : Bool :=
  Text.contains Node.ignoreWord
    (List.intercalate ['\n'] (commentBlock (lines.take (line - 1))))

def ignoredAt (mark : Mark) : Bool := isFirstOnLine lines mark && ignoreAbove lines mark.line

namespace Outline.Removal

/-- Take out what a deciding mark stands for. -/
def byMarks : Removal where
  entry _ handed key value :=
    (!handed && ignoredAt lines key.spot.mark) || (valueMarks key value).any (ignoredAt lines)
  item _ item := (itemMarks item).any (ignoredAt lines)

/-- Take out of block collections what starts below a comment block that holds the word. -/
def byStart : Removal where
  entry inBlock handed key value :=
    if inBlock then ignoreAbove lines key.spot.start.line
    else (byMarks lines).entry inBlock handed key value
  item inBlock item :=
    if inBlock then ignoreAbove lines item.spot.start.line else (byMarks lines).item inBlock item

end Outline.Removal

/-- Whether deciding marks stand for what starts at a mark: one of them is first on that line, and
none is on another. -/
def standsFor (start : Mark) (marks : List Mark) : Bool :=
  marks.any (fun mark => mark.line == start.line && isFirstOnLine lines mark) &&
    marks.all fun mark => !isFirstOnLine lines mark || mark.line == start.line

end

namespace Outline

mutual

/-- Two ways of removal agree on every part that is not inside a removed one. -/
def Agrees (r r' : Removal) (isItem : Bool) : Outline → Prop
  | scalar .. => True
  | aliasTo .. => True
  | sequence opening items _ => AgreesOnItems r r' opening.spot.inBlock items
  | mapping opening entries _ =>
    AgreesOnEntries r r' opening.spot.inBlock (isItem && handsOver opening entries) entries

def AgreesOnItems (r r' : Removal) (inBlock : Bool) : List Outline → Prop
  | [] => True
  | item :: rest =>
    r.item inBlock item = r'.item inBlock item ∧
      (r.item inBlock item = false → item.Agrees r r' true) ∧ AgreesOnItems r r' inBlock rest

def AgreesOnEntries (r r' : Removal) (inBlock handed : Bool) : List (Outline × Outline) → Prop
  | [] => True
  | (key, value) :: rest =>
    r.entry inBlock handed key value = r'.entry inBlock handed key value ∧
      (r.entry inBlock handed key value = false → value.Agrees r r' false) ∧
      AgreesOnEntries r r' inBlock false rest

end

mutual

/-- In every block collection that is not removed, the deciding marks of an entry or item stand for
where it starts. -/
def WellMarked (lines : List (List Char)) (isItem : Bool) : Outline → Prop
  | scalar .. => True
  | aliasTo .. => True
  | sequence opening items _ => WellMarkedItems lines opening.spot.inBlock items
  | mapping opening entries _ =>
    WellMarkedEntries lines opening.spot.inBlock (isItem && handsOver opening entries) entries

def WellMarkedItems (lines : List (List Char)) (inBlock : Bool) : List Outline → Prop
  | [] => True
  | item :: rest =>
    (inBlock = true → standsFor lines item.spot.start (itemMarks item) = true) ∧
      ((Removal.byMarks lines).item inBlock item = false → item.WellMarked lines true) ∧
      WellMarkedItems lines inBlock rest

def WellMarkedEntries (lines : List (List Char)) (inBlock handed : Bool) :
    List (Outline × Outline) → Prop
  | [] => True
  | (key, value) :: rest =>
    (inBlock = true →
        standsFor lines key.spot.start (key.spot.mark :: valueMarks key value) = true) ∧
      ((Removal.byMarks lines).entry inBlock handed key value = false →
        value.WellMarked lines false) ∧
      WellMarkedEntries lines inBlock false rest

end

end Outline

end ConfigReference.Yaml
