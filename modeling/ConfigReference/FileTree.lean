import ConfigReference.KeyedMap
import ConfigReference.Path
import ConfigReference.Text.Utf8

/-!
# File trees

A tree of directories, files and symbolic links, and what is read and written in it through paths.
A path is followed piece by piece from the working directory; links lead on to their targets, a
bounded number of them.

Names are texts here. A name that is none has to be taken for some text of its own; what is shown of
it is another matter.
-/

set_option autoImplicit false

namespace ConfigReference

/-- The entries of a directory are in name order, each name once. -/
inductive FileTree where
  | file (content : List UInt8)
  | directory (entries : List (String × FileTree))
  | link (target : String)
  deriving Inhabited

inductive FileFault where
  | notFound
  | notADirectory
  | isADirectory
  | tooManyLinks
  deriving DecidableEq, Repr

def FileFault.message : FileFault → String
  | notFound => "No such file or directory (os error 2)"
  | notADirectory => "Not a directory (os error 20)"
  | isADirectory => "Is a directory (os error 21)"
  | tooManyLinks => "Too many levels of symbolic links (os error 40)"

namespace FileTree

def entry? (t : FileTree) (name : String) : Option FileTree :=
  match t with
  | directory entries => entries.lookup name
  | _ => none

def at? (t : FileTree) : List String → Option FileTree
  | [] => some t
  | name :: rest => (t.entry? name).bind (·.at? rest)

def put (node : FileTree) : List String → FileTree → FileTree
  | [], _ => node
  | name :: rest, t =>
    let entries := match t with
      | directory entries => entries
      | _ => []
    directory (insertKeyed name (put node rest ((entries.lookup name).getD (directory []))) entries)

def erase : List String → FileTree → FileTree
  | [], t => t
  | [name], directory entries => directory (entries.filter (·.1 ≠ name))
  | name :: rest, directory entries =>
    directory (entries.map fun e => if e.1 = name then (e.1, erase rest e.2) else e)
  | _, t => t

/-! ## Following paths -/

/-- Where a path leads: to a node, or to a free name in a directory. Both are given by the names
from the root. -/
inductive Spot where
  | node (names : List String) (t : FileTree)
  | vacant (names : List String)
  deriving Inhabited

/-- Follow pieces of a path from the directory at `here`. A link is followed by `follow` unless it
is the last piece and `last` is not set. -/
def walk (root : FileTree) (last : Bool)
    (follow : List String → List String → Except FileFault Spot) (here : List String) :
    List String → Except FileFault Spot
  | [] =>
    match root.at? here with
    | some t => .ok (.node here t)
    | none => .error .notFound
  | piece :: rest =>
    match root.at? here with
    | some (directory entries) =>
      if piece = "" || piece = "." then walk root last follow here rest
      else if piece = ".." then walk root last follow here.dropLast rest
      else
        match entries.lookup piece with
        | none => if rest.isEmpty then .ok (.vacant (here ++ [piece])) else .error .notFound
        | some (link target) =>
          if rest.isEmpty && !last then .ok (.node (here ++ [piece]) (link target))
          else
            let start := if Path.isAbsolute target then [] else here
            follow start (Path.pieces target ++ rest)
        | some _ => walk root last follow (here ++ [piece]) rest
    | some _ => .error .notADirectory
    | none => .error .notFound

def walkLinks (root : FileTree) (last : Bool) :
    Nat → List String → List String → Except FileFault Spot
  | 0 => fun _ _ => .error .tooManyLinks
  | links + 1 => walk root last (walkLinks root last links)

def maxLinks : Nat := 40

end FileTree

structure Workspace where
  root : FileTree
  cwd : List String := []
  deriving Inhabited

namespace Workspace

def cwdText (w : Workspace) : String := "/" ++ "/".intercalate w.cwd

/-- Where a path leads. A link at its end is followed if `last` is set. -/
def locate (w : Workspace) (last : Bool) (path : String) : Except FileFault FileTree.Spot :=
  if path.isEmpty then .error .notFound
  else
    let start := if Path.isAbsolute path then [] else w.cwd
    FileTree.walkLinks w.root last (FileTree.maxLinks + 1) start (Path.pieces path)

def find? (w : Workspace) (path : String) : Option (List String × FileTree) :=
  match w.locate true path with
  | .ok (.node names t) => some (names, t)
  | _ => none

def pathExists (w : Workspace) (path : String) : Bool := (w.find? path).isSome

def isFile (w : Workspace) (path : String) : Bool :=
  match w.find? path with
  | some (_, .file _) => true
  | _ => false

def isDirectory (w : Workspace) (path : String) : Bool :=
  match w.find? path with
  | some (_, .directory _) => true
  | _ => false

def read (w : Workspace) (path : String) : Except FileFault (List UInt8) := do
  match ← w.locate true path with
  | .node _ (.file content) => return content
  | .node _ (.directory _) => throw .isADirectory
  | _ => throw .notFound

def readText? (w : Workspace) (path : String) : Option String :=
  match w.read path with
  | .ok content => Text.decode? content
  | .error _ => none

def write (w : Workspace) (path : String) (content : List UInt8) :
    Except FileFault Workspace := do
  match ← w.locate true path with
  | .node _ (.directory _) => throw .isADirectory
  | .node names _ | .vacant names =>
    return { w with root := FileTree.put (.file content) names w.root }

/-- Bytes laid over a content from an offset on. A gap in front of them is filled with zeros. -/
def overlay (offset : Nat) (bytes content : List UInt8) : List UInt8 :=
  content.take offset ++ List.replicate (offset - content.length) 0 ++ bytes ++
    content.drop (offset + bytes.length)

/-- Write bytes from an offset on into a file that is open. A file that is open is named by the path
under which it was opened, for nothing is moved or taken away while it is. -/
def writeAt (w : Workspace) (path : String) (offset : Nat) (bytes : List UInt8) : Workspace :=
  match w.read path with
  | .ok content => (w.write path (overlay offset bytes content)).toOption.getD w
  | .error _ => w

def remove (w : Workspace) (path : String) : Workspace :=
  match w.locate false path with
  | .ok (.node names _) => { w with root := w.root.erase names }
  | _ => w

end Workspace

end ConfigReference
