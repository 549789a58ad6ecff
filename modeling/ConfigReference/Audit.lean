import ConfigReference.Comment.Description
import ConfigReference.Failure
import ConfigReference.KeyPath
import ConfigReference.Pattern.Reader
import ConfigReference.Text.Blank

/-!
# Audit

The values that no description is given for. Here the parts of a path are joined by dots as they
are, the items of a sequence being parts such as `[0]`.
-/

set_option autoImplicit false

namespace ConfigReference.Audit

structure Policy where
  /-- Whether a configuration is audited at all. -/
  strict : Bool := false
  allowedPaths : List String := []
  allowedPatterns : List Pattern := []

def trimmed (s : String) : String := .ofList (Text.trim s.toList)

/-- The policy of a list of paths and a list of patterns, as they were given. Blank ones do not
count; the first pattern that cannot be read is an error. -/
def Policy.ofTexts (strict : Bool) (paths patterns : List String) : Except Failure Policy := do
  let patterns := (patterns.map trimmed).filter (!·.isEmpty)
  let allowedPatterns ← patterns.mapM fun text =>
    match Pattern.parse? text with
    | some p => .ok p
    | none => .error (.invalidPattern text)
  return { strict, allowedPaths := (paths.map trimmed).filter (!·.isEmpty), allowedPatterns }

def Policy.allows (policy : Policy) (path : String) : Bool :=
  policy.allowedPaths.contains path || policy.allowedPatterns.any (·.occursIn path)

def pathText (parts : List String) : String := ".".intercalate parts

def indexPart (index : Nat) : String := .ofList (KeyPath.itemChars [] index)

def missing (ds : Descriptions) (parts : List String) : List String :=
  if ds.contains (pathText parts) then [] else [pathText parts]

mutual

/-- The paths below a node that are not described, in document order, each before those below
it. -/
def undocumentedBelow (ds : Descriptions) (parts : List String) : Yaml.Node → List String
  | .scalar .. => []
  | .sequence _ items => undocumentedItems ds parts 0 items
  | .mapping _ entries => undocumentedEntries ds parts entries
  | .aliasTo _ target => undocumentedBelow ds parts target

def undocumentedItems (ds : Descriptions) (parts : List String) (index : Nat) :
    List Yaml.Node → List String
  | [] => []
  | item :: rest =>
    let here := parts ++ [indexPart index]
    missing ds here ++ undocumentedBelow ds here item
      ++ undocumentedItems ds parts (index + 1) rest

def undocumentedEntries (ds : Descriptions) (parts : List String) :
    List (Yaml.Node × Yaml.Node) → List String
  | [] => []
  | (key, value) :: rest =>
    let here := parts ++ [key.text]
    missing ds here ++ undocumentedBelow ds here value ++ undocumentedEntries ds parts rest

end

def undocumented (root : Yaml.Node) (ds : Descriptions) : List String :=
  undocumentedBelow ds [] root

/-- Fails with all paths that are neither described nor allowed to lack a description. -/
def check (policy : Policy) (root : Yaml.Node) (ds : Descriptions) : Except Failure Unit :=
  match (undocumented root ds).filter (!policy.allows ·) with
  | [] => .ok ()
  | paths => .error (.undocumented paths)

end ConfigReference.Audit
