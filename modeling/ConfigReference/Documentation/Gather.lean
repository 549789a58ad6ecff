import ConfigReference.Audit
import ConfigReference.Comment.Collect
import ConfigReference.Discovery
import ConfigReference.Documentation
import ConfigReference.Log
import ConfigReference.Yaml.Node.Load
import ConfigReference.Yaml.Node.Prune

/-!
# Gathering documentation

From the files at a path to what is documented in them.
-/

set_option autoImplicit false

namespace ConfigReference

/-- What a file holds. Its comments count even where its values cannot be read. -/
structure ScannedFile where
  values : Option Yaml.Node
  descriptions : Descriptions
  /-- Why the values cannot be read. -/
  fault : Option Yaml.LoadError := none

namespace ScannedFile

def ofSource (source : String) : ScannedFile :=
  let descriptions := Descriptions.collect source
  match Yaml.Node.load source with
  | .ok values => { values := values.map (·.prune), descriptions }
  | .error e => { values := none, descriptions, fault := some e }

/-- Bytes that are no text are replaced, and line ends of two characters are one. -/
def ofBytes (content : List UInt8) : ScannedFile :=
  ofSource (.ofList (Text.unifyLineEnds (Text.decode content).toList))

end ScannedFile

def Workspace.scan (w : Workspace) (path : String) : Except Failure ScannedFile :=
  match w.read path with
  | .ok content => .ok (.ofBytes content)
  | .error e => .error (.unreadable path e.message)

namespace Documentation

def scanLog (path : String) : Except Failure ScannedFile → Log
  | .error f =>
    [⟨.warning, "Error occurred in reading configuration file " ++ path ++ ", skipping: "
      ++ f.message⟩]
  | .ok scanned =>
    match scanned.fault with
    | some e =>
      [⟨.warning, "Error parsing values from file " ++ path ++ ": "
        ++ (Failure.malformed path e).message⟩]
    | none => []

/-- What several files document together, a later one laid over an earlier one. -/
def ofFiles (configPath : String) (files : List ScannedFile) : Documentation where
  configPath
  values := some (Yaml.Node.mergeAll (files.filterMap (·.values)))
  descriptions := unionDescriptions (files.map (·.descriptions))

def audit (policy : Audit.Policy) (d : Documentation) : Except Failure Unit :=
  match policy.strict, d.values with
  | true, some values => Audit.check policy values d.descriptions
  | _, _ => .ok ()

/-- The documentation of the configuration at a path, and the records about its files. Files that
cannot be read are left out. -/
def gather (w : Workspace) (policy : Audit.Policy) (ignoreFile path : String) :
    Log × Except Failure Documentation :=
  match w.inputs ignoreFile path with
  | .error f => ([], .error f)
  | .ok paths =>
    let scans := paths.map fun p => (p, w.scan p)
    let d := ofFiles path (scans.filterMap (·.2.toOption))
    (scans.flatMap fun (p, scan) => scanLog p scan, (d.audit policy).map fun _ => d)

end Documentation

end ConfigReference
