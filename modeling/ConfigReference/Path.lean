import ConfigReference.Text.Line

/-!
# Paths

Paths as texts: parts separated by slashes. Empty parts and single dots count for nothing, a dot at
the start of a relative path apart.
-/

set_option autoImplicit false

namespace ConfigReference.Path

def isAbsolute (path : String) : Bool := path.toList.head? = some '/'

def pieces (path : String) : List String := (path.toList.splitOn '/').map String.ofList

def parts (path : String) : List String := (pieces path).filter fun p => p ≠ "" && p ≠ "."

/-- The name of what a path leads to, unless it ends in a dot or two. -/
def fileName? (path : String) : Option String :=
  match (parts path).getLast? with
  | some name => if name = ".." then none else some name
  | none => none

/-- The name of what a path leads to, or the path itself where it has none. -/
def baseName (path : String) : String := (fileName? path).getD path

/-- Drop a last part of a path, given in reverse, with the slashes and single dots after it. -/
def dropEndDots : List Char → List Char
  | '/' :: rest => dropEndDots rest
  | ['.'] => ['.']
  | '.' :: '/' :: rest => dropEndDots rest
  | s => s

def parent? (path : String) : Option String :=
  let reversed := dropEndDots path.toList.reverse
  if reversed.isEmpty then none
  else
    let before := reversed.dropWhile (· != '/')
    let trimmed := (dropEndDots before).reverse
    some (.ofList (if trimmed.isEmpty && !before.isEmpty then ['/'] else trimmed))

/-- The part of a name after its last dot, which must not be its first character. -/
def extension? (path : String) : Option String := do
  let name ← fileName? path
  let reversed := name.toList.reverse
  match reversed.dropWhile (· != '.') with
  | [] | ['.'] => none
  | _ => return .ofList (reversed.takeWhile (· != '.')).reverse

def join (base name : String) : String :=
  if isAbsolute name then name
  else if base.isEmpty || base.toList.getLast? = some '/' then base ++ name
  else base ++ "/" ++ name

/-- What is left of a path after the path of a directory around it. -/
def relativeTo (base path : String) : String :=
  if base.toList.isPrefixOf path.toList then
    .ofList ((path.toList.drop base.toList.length).dropWhile (· == '/'))
  else path

/-- Exactly two slashes stand at the start of a path, which then is not taken for one with a single
slash. -/
def hasTwoSlashes (path : String) : Bool :=
  ['/', '/'].isPrefixOf path.toList && !(['/', '/', '/'].isPrefixOf path.toList)

/-- The path from the root directory, seen from the directory at `cwd`. A slash at the end stays. -/
def absolute (cwd path : String) : String :=
  let base := if isAbsolute path then [] else parts cwd
  let all := base ++ parts path
  let text := (if hasTwoSlashes path then "//" else "/") ++ "/".intercalate all
  if path.toList.getLast? = some '/' && !all.isEmpty then text ++ "/" else text

end ConfigReference.Path
