import ConfigReference.FileTree
import ConfigReference.Listing.Glob
import ConfigReference.Text.Line
import ConfigReference.Yaml.Data.Printer

/-!
# Listings

The files below a directory, known by their paths when the listing was made. Contents are read when
they are first wanted and kept from then on; all listings made from one share what is kept.
-/

set_option autoImplicit false

namespace ConfigReference

namespace FileTree

mutual

/-- The regular files of a tree with their paths, in name order. `path` leads to the tree, and
`names` do from the root. What `skips` tells to skip is left out with all below it. -/
def filesAt (skips : List String → String → Bool → Bool) (names : List String) (path : String) :
    FileTree → List (List String × String)
  | file _ => [(names, path)]
  | directory entries => filesIn skips names path entries
  | link _ => []

def filesIn (skips : List String → String → Bool → Bool) (names : List String) (path : String) :
    List (String × FileTree) → List (List String × String)
  | [] => []
  | (name, t) :: rest =>
    let isDirectory := match t with
      | directory _ => true
      | _ => false
    let here := (names ++ [name], Path.join path name)
    let found := if skips here.1 here.2 isDirectory then [] else filesAt skips here.1 here.2 t
    found ++ filesIn skips names path rest

end

end FileTree

/-- The regular files below a path, links not being followed, except one at the path itself that
leads to a directory. -/
def Workspace.filesBelow (w : Workspace) (skips : List String → String → Bool → Bool)
    (path : String) : List (List String × String) :=
  match w.locate false path with
  | .ok (.node _ (.link _)) =>
    match w.find? path with
    | some (names, .directory entries) => FileTree.filesIn skips names path entries
    | _ => []
  | .ok (.node names t) => t.filesAt skips names path
  | _ => []

/-- Files by the keys they are asked for, which are their paths with slashes alone. -/
structure Listing where
  base : String := ""
  found : KeyedMap String := .empty
  deriving Inhabited

namespace Listing

abbrev Contents := KeyedMap (List UInt8)

def slashed (path : String) : String :=
  .ofList (path.toList.map fun c => if c = '\\' then '/' else c)

def ofDirectory (w : Workspace) (base : String) : Listing where
  base
  found := .ofList ((w.filesBelow (fun _ _ _ => false) base).map fun (_, path) =>
    (slashed path, path))

def size (l : Listing) : Nat := l.found.size

def isEmpty (l : Listing) : Bool := l.found.isEmpty

def keyOf (l : Listing) (name : String) : String := slashed (Path.join l.base name)

def names (l : Listing) : List String :=
  l.found.values.map fun path => slashed (Path.relativeTo l.base path)

/-- The bytes of a key: those that are kept, or those that are read and kept now. A file that cannot
be read is empty. -/
def content (l : Listing) (w : Workspace) (kept : Contents) (key : String) :
    List UInt8 × Contents :=
  match kept.get? key with
  | some bytes => (bytes, kept)
  | none =>
    match l.found.get? key with
    | none => ([], kept)
    | some path =>
      let bytes := (w.read path).toOption.getD []
      (bytes, kept.insert key bytes)

def lines (l : Listing) (w : Workspace) (kept : Contents) (name : String) :
    List String × Contents :=
  let key := l.keyOf name
  if l.found.contains key then
    let (bytes, kept) := l.content w kept key
    (((Text.decode bytes).toList.splitOn '\n').map String.ofList, kept)
  else ([], kept)

def globText (l : Listing) (pattern : String) : List Char :=
  ((Glob.escape (slashed l.base).toList).reverse.dropWhile (· == '/')).reverse ++
    '/' :: pattern.toList

def glob (l : Listing) (pattern : String) : Listing :=
  { l with found := match Glob.parse? (l.globText pattern) with
      | some g => l.found.filter fun key _ => g.accepts key.toList
      | none => .empty }

def contentsByName (w : Workspace) (kept : Contents) (encode : List UInt8 → String) (l : Listing) :
    KeyedMap String × Contents :=
  l.found.entries.foldl
    (fun (texts, kept) (key, path) =>
      let (bytes, kept) := l.content w kept key
      (texts.insert ((Path.fileName? path).getD "") (encode bytes), kept))
    (.empty, kept)

def mappingText (w : Workspace) (kept : Contents) (encode : List UInt8 → String) (l : Listing) :
    String × Contents :=
  if l.isEmpty then ("", kept)
  else
    let (texts, kept) := contentsByName w kept encode l
    let members := texts.entries.map fun (name, text) => (name, Json.string text)
    ((Yaml.Data.ofJson (.object members)).renderTrimmed, kept)

def configText (l : Listing) (w : Workspace) (kept : Contents) : String × Contents :=
  mappingText w kept Text.decode l

def secretsText (l : Listing) (w : Workspace) (kept : Contents) : String × Contents :=
  mappingText w kept Text.base64 l

end Listing

end ConfigReference
