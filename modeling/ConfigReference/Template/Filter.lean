import ConfigReference.Json.Printer
import ConfigReference.Json.Reader
import ConfigReference.Markdown.Anchor
import ConfigReference.Template.Fault
import ConfigReference.Yaml.Data.Printer

/-!
# Filters and tests

The functions that stand behind a value in a template: the filters of the program, and of those that
come with the engine the two filters that cut a text off the ends of another and the two tests that
look for one there.
-/

set_option autoImplicit false

namespace ConfigReference.Template

abbrev Args := List (String × Json)

abbrev Filter := Json → Args → Except Cause Json

def textFilter (name : String) (f : String → String) : Filter := fun value _ =>
  match value with
  | .string s => .ok (.string (f s))
  | _ => .error (.expectsText name)

def codeBlock (s : String) : String := "```yaml\n" ++ s ++ "\n```"

/-- A JSON text set out on lines. Other text stays as it is. -/
def prettyJson (s : String) : String :=
  match Json.parse? s with
  | some j => j.pretty
  | none => s

/-- `s` without copies of `part` at its start. -/
def dropCopies (part : List Char) : Nat → List Char → List Char
  | 0, s => s
  | fuel + 1, s =>
    if !part.isEmpty && part.isPrefixOf s then dropCopies part fuel (s.drop part.length) else s

def trimStartCopies (part s : List Char) : List Char := dropCopies part s.length s

def trimEndCopies (part s : List Char) : List Char :=
  (trimStartCopies part.reverse s.reverse).reverse

/-- Line feeds and tabs may be written with a backslash in the pattern of a filter. -/
def patternChars (pattern : String) : List Char :=
  Text.replaceAll ['\\', 't'] ['\t'] (Text.replaceAll ['\\', 'n'] ['\n'] pattern.toList)

def patternFilter (name : String) (f : List Char → List Char → List Char) : Filter :=
  fun value args =>
    match value with
    | .string s =>
      match args.lookup "pat" with
      | some (.string pattern) => .ok (.string (.ofList (f (patternChars pattern) s.toList)))
      | some other => .error (.wrongArgument name "pat" other.render)
      | none => .error (.missingPattern name)
    | other => .error (.wrongSubject name other.render)

def filter? (name : String) : Option Filter :=
  match name with
  | "to_yaml" => some fun value _ => .ok (.string (Yaml.Data.ofJson value).renderTrimmed)
  | "trim_lead" => some (textFilter name fun s => .ofList (Text.trimStart s.toList))
  | "to_yaml_code_block" => some (textFilter name codeBlock)
  | "to_markdown_link" => some (textFilter name Markdown.link)
  | "to_pretty_json" => some (textFilter name prettyJson)
  | "trim_start_matches" => some (patternFilter name trimStartCopies)
  | "trim_end_matches" => some (patternFilter name trimEndCopies)
  | _ => none

abbrev Test := Option Json → List Json → Except Cause Bool

def textTest (name : String) (f : List Char → List Char → Bool) : Test := fun value? args =>
  if 1 < args.length then .error (.testArguments name args.length 1)
  else
    match value?, args with
    | none, _ => .error (.testUndefined name)
    | some (.string s), [.string part] => .ok (f part.toList s.toList)
    | some (.string _), _ => .error (.testNotText name "with a parameter")
    | some _, _ => .error (.testNotText name "on a variable")

def test? (name : String) : Option Test :=
  match name with
  | "starting_with" => some (textTest name List.isPrefixOf)
  | "ending_with" => some (textTest name List.isSuffixOf)
  | _ => none

end ConfigReference.Template
