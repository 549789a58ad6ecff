import ConfigReference.Template.Fault
import ConfigReference.Yaml.Node.Load

/-!
# Failures

Why a configuration is not documented.
-/

set_option autoImplicit false

namespace ConfigReference

inductive Failure where
  | unreadable (path cause : String)
  | malformed (path : String) (e : Yaml.LoadError)
  /-- No input file was found below a path. -/
  | noInput (path : String)
  /-- Values that have to be described and are not. -/
  | undocumented (paths : List String)
  /-- The root of a document is no mapping but a node of this kind. -/
  | notAMapping (kind : String)
  | invalidPattern (pattern : String)
  | template (fault : Template.Fault)
  | unwritable (path cause : String)
  deriving DecidableEq, Repr

namespace Failure

def message : Failure → String
  | unreadable path cause => "failed to read " ++ path ++ ": " ++ cause
  | malformed path e => e.message ++ " - " ++ path
  | noInput path => "No YAML files were found in the path - " ++ path
  | undocumented paths => "values without documentation: \n" ++ "\n".intercalate paths
  | notAMapping kind => "values file must resolve to a map (was " ++ kind ++ ")"
  | invalidPattern pattern => "invalid regex '" ++ pattern ++ "'"
  | template fault => "template error: " ++ fault.message
  | unwritable path cause => "failed to write " ++ path ++ ": " ++ cause

/-- A fatal failure ends the whole run; after another only its input is left out. -/
def isFatal : Failure → Bool
  | undocumented _ | invalidPattern _ => true
  | _ => false

/-- The crash that a failure stands for: the program does not live to report it. -/
def crash? : Failure → Option Crash
  | template fault => fault.crash?
  | _ => none

end Failure

end ConfigReference
