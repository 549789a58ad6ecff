import ConfigReference.Comment.Block
import ConfigReference.Text.Line
import ConfigReference.Yaml.Node

/-!
# Descriptions of a source

The keyed comment blocks of a whole source, and the comment above a single node.
-/

set_option autoImplicit false

namespace ConfigReference

namespace Descriptions

def record (found : Descriptions) (block : List (List Char)) : Descriptions :=
  match Comment.parse block with
  | some (key, d) => if key.isEmpty then found else found.insert key d
  | none => found

def opensBlock (line : List Char) : Bool := (Comment.headerKey? line).any (· ≠ [])

/-- Read lines into `found`, `block` being the lines of the block under way in reverse. A block
runs from a header with a key to the first line that is no comment. -/
def collectLines (found : Descriptions) (block : List (List Char)) :
    List (List Char) → Descriptions
  | [] => found.record block.reverse
  | line :: rest =>
    if block.isEmpty then collectLines found (if opensBlock line then [line] else []) rest
    else if Comment.isComment line then collectLines found (line :: block) rest
    else collectLines (found.record block.reverse) [] rest

def collect (source : String) : Descriptions := collectLines .empty [] (Text.lines source.toList)

end Descriptions

/-- The description that a comment gives for what it stands above: a block without a key. -/
def Description.ofComment (comment : String) : Description :=
  let s := comment.toList
  if !Text.contains ['-', '-'] s then {}
  else
    match Comment.parse (Text.lines s) with
    | some (key, d) => if key.isEmpty then d else {}
    | none => {}

def Yaml.Node.description (n : Yaml.Node) : Description := .ofComment n.place.comment

end ConfigReference
