import ConfigReference.Listing
import ConfigReference.Template.Filter

/-!
# Functions of templates

What templates can call to read files: any file by its path, and the files of a listing. The texts
that a rendering shows do not depend on what was read before, so no contents are kept.

Of the functions that come with the engine there is the one that draws a number. The numbers are a
parameter: nothing that a program can know determines them.
-/

set_option autoImplicit false

namespace ConfigReference.Reference

open Template (Args Cause)

def textArg (function argument : String) (args : Args) : Except Cause String :=
  match args.lookup argument with
  | some (.string s) => .ok s
  | _ => .error (.expectsTextArgument function argument)

def texts (ss : List String) : Json := .array (ss.map .string)

/-- The text of a file without a line feed at its end, or nothing if it cannot be read. -/
def includedText (w : Workspace) (path : String) : String :=
  let text := ((w.readText? path).getD "").toList
  .ofList (if text.getLast? = some '\n' then text.dropLast else text)

def chosen (l : Listing) (args : Args) : Listing :=
  match args.lookup "pattern" with
  | some (.string pattern) => l.glob pattern
  | _ => l

def function? (w : Workspace) (l : Listing) (name : String) :
    Option (Args → Except Cause Json) :=
  match name with
  | "include_file" => some fun args =>
    (textArg name "path" args).map fun path => .string (includedText w path)
  | "files_get" => some fun args =>
    (textArg name "name" args).map fun file =>
      .string (Text.decode (l.content w .empty (l.keyOf file)).1)
  | "files_get_bytes" => some fun args =>
    (textArg name "name" args).map fun file =>
      .array ((l.content w .empty (l.keyOf file)).1.map fun b => .nat b.toNat)
  | "files_glob" => some fun args =>
    (textArg name "pattern" args).map fun pattern => texts (l.glob pattern).names
  | "files_as_config" => some fun args =>
    .ok (.string ((chosen l args).configText w .empty).1)
  | "files_as_secrets" => some fun args =>
    .ok (.string ((chosen l args).secretsText w .empty).1)
  | "files_lines" => some fun args =>
    (textArg name "path" args).map fun file => texts (l.lines w .empty file).1
  | _ => none

def numberArg? (function argument : String) (args : Args) : Except Cause (Option Int) :=
  match args.lookup argument with
  | none => .ok none
  | some (.number (.int n)) =>
    if Decimal.fitsWord n then .ok (some n)
    else .error (.expectsNumber function argument (Json.int n).render)
  | some other => .error (.expectsNumber function argument other.render)

/-- A number from `start` on and below `end`, drawn by `chance`. Where there is none, the program
panics. -/
def random (chance : Int → Int → Int) : Args → Except Cause Json := fun args => do
  let start := ((← numberArg? "get_random" "start" args)).getD 0
  match ← numberArg? "get_random" "end" args with
  | none => throw (.missingEnd "get_random")
  | some bound =>
    if start < bound then return .int (start + chance start bound % (bound - start))
    else throw (.crash .panicked)

def functions (chance : Int → Int → Int) (w : Workspace) (l : Listing) (name : String) :
    Option (Args → Except Cause Json) :=
  if name = "get_random" then some (random chance) else function? w l name

end ConfigReference.Reference
