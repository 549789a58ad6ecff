import ConfigReference.Text.Blank
import ConfigReference.Yaml.Node

/-!
# From events to nodes

A builder keeps the collections that are open, and the nodes that carry an anchor once they are
complete, so that an alias never points into a node that is still open.
-/

set_option autoImplicit false

namespace ConfigReference.Yaml

/-- A collection that is not complete: its items or entries so far, latest first. -/
inductive Frame where
  | sequence (place : Place) (anchor : Option Nat) (items : List Node)
  | mapping (place : Place) (anchor : Option Nat) (entries : List (Node × Node))
    (pending : Option Node)
  deriving Inhabited

structure Builder where
  stack : List Frame := []
  /-- The complete nodes that carry an anchor, latest first. -/
  anchors : List (Nat × Node) := []
  root : Option Node := none
  deriving Inhabited

/-- An alias to an anchor whose node is not complete, with the line of the alias. -/
structure UnresolvedAlias where
  line : Nat
  deriving DecidableEq, Repr

def UnresolvedAlias.message (e : UnresolvedAlias) : String :=
  "alias at line " ++ toString e.line ++ " refers to an unknown or enclosing anchor"

/-- Whether a node that begins behind `lead` is the first on its line: blanks and dashes may stand
in front of it. -/
def startsLine (lead : List Char) : Bool := lead.all fun c => Text.isBlank c || c == '-'

def commentBlock (above : List (List Char)) : List (List Char) :=
  ((above.reverse.map Text.trimStart).takeWhile (·.head? == some '#')).reverse

/-- The comment block above a node at `line` and `column`, when the node is the first on its
line. -/
def headComment (lines : List (List Char)) (line column : Nat) : String :=
  match lines[line - 1]? with
  | none => ""
  | some current =>
    if startsLine (current.take (column - 1)) then
      String.ofList (List.intercalate ['\n'] (commentBlock (lines.take (line - 1))))
    else ""

def placeAt (lines : List (List Char)) (mark : Mark) : Place :=
  let column := mark.column + 1
  { line := mark.line, column, comment := headComment lines mark.line column }

namespace Builder

/-- Put a complete node where it belongs: into the innermost open collection, where it is an item, a
key or the value of the key before it, or at the root. -/
def complete (b : Builder) (node : Node) (anchor : Option Nat) : Builder :=
  let b := match anchor with
    | some id => { b with anchors := (id, node) :: b.anchors }
    | none => b
  match b.stack with
  | .sequence p a items :: rest => { b with stack := .sequence p a (node :: items) :: rest }
  | .mapping p a entries (some key) :: rest =>
    { b with stack := .mapping p a ((key, node) :: entries) none :: rest }
  | .mapping p a entries none :: rest =>
    { b with stack := .mapping p a entries (some node) :: rest }
  | [] => { b with root := b.root.or (some node) }

/-- The place of the key that waits for its value, when it stands above `line`. -/
def keyAbove (b : Builder) (line : Nat) : Option Place :=
  match b.stack with
  | .mapping _ _ _ (some key) :: _ => if key.place.line < line then some key.place else none
  | _ => none

/-- A mapping that is an item of a sequence takes the column of its first key, when that stands on
its line, and the comment above that key. -/
def adoptFirstKey (item : Place) : List (Node × Node) → Place × List (Node × Node)
  | [] => (item, [])
  | (key, value) :: rest =>
    let p := key.place
    if p.line ≠ item.line then (item, (key, value) :: rest)
    else
      let comment := if item.comment.isEmpty then p.comment else item.comment
      ({ item with column := p.column, comment },
        (key.withPlace { p with comment := "" }, value) :: rest)

def step (lines : List (List Char)) (b : Builder) (e : PlacedEvent) :
    Except UnresolvedAlias Builder :=
  match e.event with
  | .scalar text style anchor tag =>
    .ok (b.complete (.scalar (placeAt lines e.mark) (Scalar.resolve text style tag) text) anchor)
  | .aliasTo id =>
    match b.anchors.lookup id with
    | some target => .ok (b.complete (.aliasTo (placeAt lines e.mark) target) none)
    | none => .error ⟨e.mark.line⟩
  | .sequenceStart anchor _ =>
    -- below its key a sequence begins at the first dash, whose comment belongs to the first item
    let place := match b.keyAbove e.mark.line with
      | some key => { key with comment := "" }
      | none => placeAt lines e.mark
    .ok { b with stack := .sequence place anchor [] :: b.stack }
  | .mappingStart anchor _ =>
    .ok { b with stack := .mapping (placeAt lines e.mark) anchor [] none :: b.stack }
  | .sequenceEnd =>
    match b.stack with
    | .sequence p anchor items :: rest =>
      .ok ({ b with stack := rest }.complete (.sequence p items.reverse) anchor)
    | _ => .ok { b with stack := b.stack.drop 1 }
  | .mappingEnd =>
    match b.stack with
    | .mapping p anchor entries _ :: rest =>
      let (p, entries) := match rest with
        | .sequence .. :: _ => adoptFirstKey p entries.reverse
        | _ => (p, entries.reverse)
      .ok ({ b with stack := rest }.complete (.mapping p entries) anchor)
    | _ => .ok { b with stack := b.stack.drop 1 }

end Builder

def Node.ofEvents (lines : List (List Char)) (events : List PlacedEvent) :
    Except UnresolvedAlias (Option Node) :=
  (events.foldlM (Builder.step lines) {}).map (·.root)

end ConfigReference.Yaml
