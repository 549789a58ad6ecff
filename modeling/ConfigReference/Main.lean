import ConfigReference.CommandLine.Run

/-!
# Program

The program around `CommandLine.run`. It reads the files that the options lead to into a file tree,
runs, and writes what has changed. Nothing is decided here.
-/

set_option autoImplicit false

namespace ConfigReference.Program

def maxDepth : Nat := 256

def pathText (names : List String) : String := "/" ++ "/".intercalate names

/-! ## Reading files -/

def readContent (names : List String) : IO (List UInt8) := do
  try return (← IO.FS.readBinFile (pathText names)).data.toList
  catch _ => return []

def kindAt? (names : List String) : IO (Option IO.FS.FileType) := do
  let entry : IO.FS.DirEntry := { root := pathText names, fileName := "" }
  try return some (← entry.root.symlinkMetadata).type
  catch _ => return none

/-- Where a link leads, as names from the root directory on. A broken link leads to itself. -/
def linkTarget (names : List String) : IO (List String) := do
  try return Path.parts (← IO.FS.realPath (pathText names)).toString
  catch _ => return names

/-- The entries of a directory with all below it, as deep as the number tells. -/
def readDirectory (names : List String) : Nat → IO (List (String × FileTree))
  | 0 => return []
  | depth + 1 => do
    let entries ← try (← IO.FS.realPath (pathText names)).readDir catch _ => return []
    let found ← entries.toList.filterMapM fun entry => do
      let here := names ++ [entry.fileName]
      match ← kindAt? here with
      | some .file => return some (entry.fileName, FileTree.file (← readContent here))
      | some .dir => return some (entry.fileName, .directory (← readDirectory here depth))
      | some .symlink => return some (entry.fileName, .link (pathText (← linkTarget here)))
      | _ => return none
    return (KeyedMap.ofList found).entries

def readNode (root : FileTree) (names : List String) : IO FileTree := do
  match ← kindAt? names with
  | some .file => return FileTree.put (.file (← readContent names)) names root
  | some .dir => return if (root.at? names).isSome then root else .put (.directory []) names root
  | _ => return root

/-- Read what the pieces of a path lead through, from the directory at `here`. The names of where
they lead are returned with the tree. -/
def readAlong (root : FileTree) (here : List String) :
    List String → IO (FileTree × List String)
  | [] => return (root, here)
  | piece :: rest => do
    if piece = "" || piece = "." then readAlong root here rest
    else if piece = ".." then readAlong root here.dropLast rest
    else
      let names := here ++ [piece]
      match ← kindAt? names with
      | some .symlink =>
        let target ← linkTarget names
        let root ← readNode (FileTree.put (.link (pathText target)) names root) target
        readAlong root target rest
      | _ => readAlong (← readNode root names) names rest

def readPath (cwd : List String) (root : FileTree) (path : String) : IO FileTree := do
  let start := if Path.isAbsolute path then [] else cwd
  return (← readAlong root start (Path.pieces path)).1

def readBelow (cwd : List String) (root : FileTree) (path : String) : IO FileTree := do
  let start := if Path.isAbsolute path then [] else cwd
  let (root, names) ← readAlong root start (Path.pieces path)
  match root.at? names with
  | some (.directory _) =>
    return FileTree.put (.directory (← readDirectory names maxDepth)) names root
  | _ => return root

def ignorePaths (ignoreFile : String) (names : List String) : List String :=
  (List.range (names.length + 1)).map fun n => Path.join (pathText (names.take n)) ignoreFile

def readWorkspace (cwd : List String) (s : CommandLine.Settings) : IO Workspace := do
  let roots := (s.searchRoot.toList ++ s.configFiles).map (Path.absolute (pathText cwd))
  let mut root ← readNode (.directory []) cwd
  for path in roots do
    let (along, names) ← readAlong root [] (Path.pieces path)
    root := along
    for directory in [path, Workspace.directoryOf path] do
      if directory = path || (root.at? names matches some (.file _)) then
        root ← readBelow cwd root directory
    for place in ignorePaths s.ignoreFile names do
      root ← readPath cwd root place
  for path in Path.join (pathText cwd) s.ignoreFile :: s.headerFile :: s.templateFiles do
    root ← readPath cwd root path
  for path in roots do
    root ← readPath cwd root (s.renderOptions.outputPath path)
  root ← readPath cwd root s.outputFile
  return { root, cwd }

/-! ## Writing files -/

def filesOf (w : Workspace) : List (List String × List UInt8) :=
  (w.filesBelow (fun _ _ _ => false) "/").filterMap fun (names, path) =>
    (w.read path).toOption.map fun content => (names, content)

def writeChanges (before after : Workspace) : IO Unit := do
  let old := filesOf before
  for (names, content) in filesOf after do
    if old.lookup names ≠ some content then
      IO.FS.writeBinFile (pathText names) ⟨content.toArray⟩

/-! ## The program -/

def readEnvironment : IO (List (String × String)) :=
  CommandLine.optionRules.filterMapM fun r => do
    return (← IO.getEnv r.variable).map fun value => (r.variable, value)

def settings? (i : CommandLine.Invocation) : Option CommandLine.Settings :=
  match CommandLine.read i.args i.environment with
  | .ok given => some (.ofGiven given)
  | .error _ => none

def main (args : List String) : IO UInt32 := do
  let invocation : CommandLine.Invocation := { args, environment := ← readEnvironment }
  let cwd := Path.parts (← IO.currentDir).toString
  let before ← match settings? invocation with
    | some s => readWorkspace cwd s
    | none => pure { root := .directory [], cwd }
  let outcome := CommandLine.run before invocation
  IO.print outcome.printed
  for record in outcome.log do
    IO.eprintln record.line
  writeChanges before outcome.workspace
  match outcome.ending with
  | .refused r => IO.eprintln ("Error: " ++ r.message)
  | .stopped .misuse => IO.eprintln "error: invalid arguments; see --help"
  | _ => pure ()
  return UInt32.ofNat outcome.ending.status

end ConfigReference.Program

def main (args : List String) : IO UInt32 := ConfigReference.Program.main args
