import ConfigReference.Failure
import ConfigReference.Reference.Functions
import ConfigReference.Template.BuiltIn
import ConfigReference.Template.Render

/-!
# Engines

What makes texts of templates. The program hands the source of a template, its own functions and the
data over to an engine and gets a text back, or a failure, or it breaks down. Runs are about any
engine. The one that is spelled out here, `Engine.standard`, has the part of the notation that
`Template` has.
-/

set_option autoImplicit false

namespace ConfigReference

namespace Reference

def templateName : String := "yaml-docs.documentation"

/-- The templates for a source, which may insert the built-in ones. Every template that it imports
macros from has to be there. -/
def library (source : String) : Except Template.Fault Template.Library :=
  match Template.parse? source with
  | none => .error (.malformed templateName)
  | some t =>
    let library := (templateName, t) :: Template.BuiltIn.library
    match t.imports.find? fun (imported, _) => (library.lookup imported).isNone with
    | some (imported, _) => .error (.missingImport templateName imported)
    | none => .ok library

def fill (w : Workspace) (l : Listing) (library : Template.Library) (data : Json)
    (chance : Int → Int → Int := fun _ _ => 0) : Except Failure String :=
  (library.render (functions chance w l) templateName data).mapError .template

/-- What makes the source of a template ready, and then shows data among files. An engine is a
function of what it is given in one run. So it stands for all that the texts of this run depend on
beyond that: the clock, chance, the environment, and how far other references are written when a
file is read. Another run may have another engine. -/
structure Engine where
  load : String → Except Failure (Workspace → Listing → Json → Except Failure String)

/-- The engine of `Template`, with numbers drawn by `chance`. -/
def Engine.standard (chance : Int → Int → Int := fun _ _ => 0) : Engine where
  load source := do
    let library ← (library source).mapError .template
    return fun w l data => fill w l library data chance

end Reference

end ConfigReference
