import ConfigReference.Path
import ConfigReference.Section

/-!
# Render options

Everything that shapes a rendered reference and says where it goes.
-/

set_option autoImplicit false

namespace ConfigReference

structure RenderOptions where
  templateFiles : List String := []
  outputFile : String := "README.md"
  /-- The name of a reference that has a file to itself, `%s` standing for its configuration. -/
  outputPattern : String := "README-%s.md"
  /-- Whether each configuration gets a reference of its own. -/
  separateFiles : Bool := false
  headerFile : String := ""
  skipVersionFooter : Bool := false
  skipContents : Bool := false
  dryRun : Bool := false
  arrangement : Arrangement := {}
  deriving DecidableEq, Inhabited, Repr

def RenderOptions.outputPath (o : RenderOptions) (configPath : String) : String :=
  if o.separateFiles then
    .ofList (Text.replaceAll ['%', 's'] (Path.baseName configPath).toList o.outputPattern.toList)
  else o.outputFile

end ConfigReference
