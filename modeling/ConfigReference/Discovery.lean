import ConfigReference.Failure
import ConfigReference.Ignore.Rule
import ConfigReference.Listing

/-!
# Discovery of inputs

The YAML files at or below a path. Ignore files stand in any directory from the entry upwards; the
one of the working directory counts for all entries.
-/

set_option autoImplicit false

namespace ConfigReference

def isYamlPath (path : String) : Bool :=
  Path.extension? path = some "yaml" || Path.extension? path = some "yml"

namespace Workspace

def rulesIn (w : Workspace) (ignoreFile : String) (names : List String) : List Ignore.Rule :=
  match w.read (Path.join ("/" ++ "/".intercalate names) ignoreFile) with
  | .ok content => Ignore.Rule.ofFile content
  | .error _ => []

/-- The verdict of the nearest ignore file that has one, beginning with that of the directory whose
names from the root are given in reverse. `rest` leads on from that directory. -/
def verdictAbove? (w : Workspace) (ignoreFile : String) (isDirectory : Bool)
    (rest : List String) : List String → Option Bool
  | [] => Ignore.Rule.verdict? (w.rulesIn ignoreFile []) ("/".intercalate rest) isDirectory
  | name :: above =>
    (Ignore.Rule.verdict? (w.rulesIn ignoreFile (name :: above).reverse)
      ("/".intercalate rest) isDirectory).or
      (verdictAbove? w ignoreFile isDirectory (name :: rest) above)

/-- What a path is called to the ignore file of the working directory. -/
def plainPath (path : String) : String :=
  let s := path.toList
  let s := if ['.', '/'].isPrefixOf s then s.drop 2 else s
  .ofList (if s.head? = some '/' then s.drop 1 else s)

def ignores (w : Workspace) (ignoreFile : String) (names : List String) (path : String)
    (isDirectory : Bool) : Bool :=
  let above? := match names.reverse with
    | [] => none
    | name :: above => w.verdictAbove? ignoreFile isDirectory [name] above
  let verdict? := above?.or
    (Ignore.Rule.verdict? (w.rulesIn ignoreFile w.cwd) (plainPath path) isDirectory)
  verdict? = some false

def directoryOf (path : String) : String :=
  match Path.parent? path with
  | some parent => if parent.isEmpty then "." else parent
  | none => "."

/-- The file at a path, unless it is ignored or no YAML or the path leads to it through a link. -/
def ownInput (w : Workspace) (ignoreFile path : String) : List String :=
  match w.find? (directoryOf path), Path.fileName? path with
  | some (names, .directory entries), some name =>
    let here := Path.join (directoryOf path) name
    match entries.lookup name with
    | some (.file _) =>
      if isYamlPath here && !w.ignores ignoreFile (names ++ [name]) here false then [path] else []
    | _ => []
  | _, _ => []

def inputs (w : Workspace) (ignoreFile path : String) : Except Failure (List String) :=
  let found :=
    if w.isFile path then w.ownInput ignoreFile path
    else ((w.filesBelow (w.ignores ignoreFile) path).map (·.2)).filter isYamlPath
  if found.isEmpty then .error (.noInput path) else .ok found

end Workspace

end ConfigReference
