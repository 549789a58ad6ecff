import ConfigReference.Log
import ConfigReference.Markdown.Spacing
import ConfigReference.Reference.Data
import ConfigReference.Reference.Engine
import ConfigReference.WorkerPool.Shared

/-!
# Publishing a reference

From the documentation of a configuration to the text of its reference, and to where it goes. Where
several references are published at a time, the turns of `publishing` are what can come between each
other.
-/

set_option autoImplicit false

namespace ConfigReference

namespace Reference

/-- The source of the template: the files together, and the built-in one where a file is missing or
none is given. -/
def templateSource (w : Workspace) (files : List String) : String :=
  let texts := files.map w.readText?
  let given := "".intercalate (texts.filterMap id)
  if texts.all (·.isSome) && !texts.isEmpty then given
  else given ++ Template.BuiltIn.defaultText

/-- The files around a configuration: those of the directory that it is or stands in. -/
def filesAround (w : Workspace) (configPath : String) : Listing :=
  if w.isDirectory configPath then .ofDirectory w configPath
  else
    match Path.parent? configPath, w.isFile configPath with
    | some parent, true => .ofDirectory w parent
    | _, _ => {}

def render (w : Workspace) (options : RenderOptions) (version : String) (info : Documentation)
    (engine : Engine := .standard) : Except Failure String := do
  let show? ← engine.load (templateSource w options.templateFiles)
  let reference ← (ofDocumentation options version info).mapError fun e => .notAMapping e.kind
  let text ← show? w (filesAround w info.configPath) reference.toJson
  return Markdown.format text

structure Published where
  workspace : Workspace
  printed : String := ""
  log : Log := []

def put (w : Workspace) (options : RenderOptions) (configPath text : String) :
    Except Failure Published :=
  if options.dryRun then .ok { workspace := w, printed := text }
  else
    let path := options.outputPath configPath
    match w.write path (Text.encode text) with
    | .ok workspace => .ok { workspace }
    | .error e => .error (.unwritable path e.message)

def announcement (info : Documentation) : Log.Record :=
  ⟨.info, "Generating README Documentation for: " ++ info.configPath⟩

def publish (w : Workspace) (options : RenderOptions) (version : String) (info : Documentation)
    (engine : Engine := .standard) : Except Failure Published := do
  put w options info.configPath (← render w options version info engine)

/-! ## Turn by turn -/

/-- The pieces in which the reference of a configuration is written. -/
structure Cut where
  pieces : String → List UInt8 → List (List UInt8)
  flatten_pieces : ∀ configPath content, (pieces configPath content).flatten = content

def Cut.whole : Cut where
  pieces _ content := [content]
  flatten_pieces _ _ := List.flatten_singleton

/-- Write the pieces of a content into an open file, the first one at the offset. -/
def writing (path text : String) :
    Nat → List (List UInt8) → Work Published (Except Failure String)
  | _, [] => .done (.ok text)
  | offset, piece :: rest =>
    .turn (fun p => { p with workspace := p.workspace.writeAt path offset piece }) fun _ =>
      writing path text (offset + piece.length) rest

/-- Open a file, which empties it, and write a text in pieces. -/
def storing (cut : List UInt8 → List (List UInt8)) (path text : String) :
    Work Published (Except Failure String) :=
  .turn (fun p => { p with workspace := (p.workspace.write path []).toOption.getD p.workspace })
    fun p =>
      match p.workspace.write path [] with
      | .ok _ => writing path text 0 (cut (Text.encode text))
      | .error e => .done (.error (.unwritable path e.message))

/-- Announce the reference of a configuration, render it, and write or print the text. A text is
printed in one turn. It is also rendered in one: what an engine makes of the files in it may as well
be what they make when they change between two readings. -/
def publishing (engine : Engine) (cut : Cut) (options : RenderOptions) (version : String)
    (info : Documentation) : Work Published (Except Failure String) :=
  .turn (fun p => { p with log := p.log ++ [announcement info] }) fun _ =>
    .turn id fun p =>
      match render p.workspace options version info engine with
      | .ok text =>
        if options.dryRun then
          .turn (fun p => { p with printed := p.printed ++ text }) fun _ => .done (.ok text)
        else storing (cut.pieces info.configPath) (options.outputPath info.configPath) text
      | .error f =>
        match f.crash? with
        | some c => .crash c
        | none => .done (.error f)

end Reference

end ConfigReference
