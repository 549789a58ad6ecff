import ConfigReference.Comment.Description
import ConfigReference.Yaml.Node.Merge

/-!
# Documentation of a configuration

What is known of one configuration, or of several together.
-/

set_option autoImplicit false

namespace ConfigReference

structure Documentation where
  configPath : String := ""
  /-- The values, unless there are none at all. -/
  values : Option Yaml.Node := none
  descriptions : Descriptions := .empty
  deriving Inhabited

namespace Documentation

def unionDescriptions (maps : List Descriptions) : Descriptions := maps.foldl .union .empty

def join (infos : List (String × Documentation)) : Documentation where
  configPath := ", ".intercalate (infos.map (·.1))
  values := some (Yaml.Node.mergeAll (infos.filterMap (·.2.values)))
  descriptions := unionDescriptions (infos.map (·.2.descriptions))

/-- The configurations of a run as one, in path order. A single one is taken as it is. -/
def combine (infos : KeyedMap Documentation) : Documentation :=
  match infos.entries with
  | [(_, info)] => info
  | entries => join entries

end Documentation

end ConfigReference
