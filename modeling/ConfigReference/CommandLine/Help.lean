import ConfigReference.CommandLine.Arguments

/-!
# Help

What the program tells about itself when it is asked to.
-/

set_option autoImplicit false

namespace ConfigReference.CommandLine

def version : String := "0.1.0"

def OptionRule.helpLines (environment : List (String × String)) (r : OptionRule) : String :=
  let letter := match r.letter with
    | some c => "-" ++ .ofList [c] ++ ", "
    | none => "    "
  let value := if r.kind = .flag then "" else " <" ++ capitalName r.name ++ ">"
  let inForce := (environment.lookup r.variable).getD ""
  let inEnvironment := " [env: " ++ r.variable ++ "=" ++ inForce ++ "]"
  let defaults :=
    if r.defaults.isEmpty then "" else " [default: " ++ " ".intercalate r.defaults ++ "]"
  "  " ++ letter ++ "--" ++ r.name ++ value ++ "\n          " ++ r.help ++ inEnvironment
    ++ defaults ++ "\n"

def Stop.printed (environment : List (String × String)) : Stop → String
  | misuse => ""
  | version => "yaml-docs " ++ CommandLine.version ++ "\n"
  | help =>
    "Generate markdown documentation from annotated YAML configuration files\n\n"
      ++ "Usage: yaml-docs [OPTIONS]\n\nOptions:\n"
      ++ String.join (optionRules.map (·.helpLines environment))
      ++ "  -h, --help\n          Print help\n  -V, --version\n          Print version\n"

end ConfigReference.CommandLine
