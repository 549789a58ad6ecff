import ConfigReference.KeyedMap

/-!
# Arguments

The options of the command line, and how arguments and the environment give them values. An option
on the command line hides the environment's.
-/

set_option autoImplicit false

namespace ConfigReference.CommandLine

/-- How often an option is given, and with what. -/
inductive OptionKind where
  | flag
  | single
  /-- Values with commas between them, each time the option is given. -/
  | list
  deriving DecidableEq, Repr

structure OptionRule where
  name : String
  letter : Option Char := none
  kind : OptionKind
  /-- Whether a value is a path, which must not be empty. -/
  isPath : Bool := false
  /-- The values of an option that is not given. -/
  defaults : List String := []
  help : String

def optionRules : List OptionRule := [
  { name := "config-search-root", letter := some 'c', kind := .single, isPath := true
    help := "Directory searched recursively for YAML files. Exclusive with --config-file" },
  { name := "config-file", letter := some 'f', kind := .list, isPath := true
    help := "YAML file(s) to document, each as its own root" },
  { name := "template-files", letter := some 't', kind := .list, isPath := true
    defaults := ["README.md.tera"]
    help := "Template files, rendered in order. Missing files fall back to the built-in template" },
  { name := "output-file", letter := some 'o', kind := .single, defaults := ["README.md"]
    help := "Markdown file path the documentation is written to" },
  { name := "output-file-prefix", letter := some 'p', kind := .single
    defaults := ["README-%s.md"]
    help := "Output name format for --multiple-output-files; %s is the input's file name" },
  { name := "multiple-output-files", kind := .flag
    help := "Render one document per --config-file input" },
  { name := "header-file", letter := some 'H', kind := .single
    defaults := [".document-header.md"]
    help := "Markdown file prepended to the document, when present" },
  { name := "ignore-file", letter := some 'i', kind := .single, defaults := [".yamldocsignore"]
    help := "Per-directory ignore file name" },
  { name := "sort-values-order", letter := some 's', kind := .single, defaults := ["alphanum"]
    help := "Row order: alphanum or file" },
  { name := "documentation-strict-mode", letter := some 'x', kind := .flag
    help := "Fail when a value has no documentation" },
  { name := "documentation-strict-ignore-absent", letter := some 'y', kind := .list
    defaults := ["service.type", "image.repository", "image.tag"]
    help := "Value paths allowed to be undocumented in strict mode" },
  { name := "documentation-strict-ignore-absent-regex", letter := some 'z', kind := .list
    defaults := [".*service\\.type", ".*image\\.repository", ".*image\\.tag"]
    help := "Regexes of value paths allowed to be undocumented in strict mode" },
  { name := "ignore-non-descriptions", kind := .flag
    help := "Leave out values that have no description" },
  { name := "disable-section-inheritance", kind := .flag
    help := "Undocumented values do not inherit the section of the previous value" },
  { name := "skip-version-footer", kind := .flag
    help := "Omit the version footer from the default template" },
  { name := "skip-toc", kind := .flag
    help := "Omit the table of contents" },
  { name := "no-section-page-breaks", kind := .flag
    help := "Separate sections with rules instead of HTML page breaks" },
  { name := "dry-run", letter := some 'd', kind := .flag
    help := "Print the documentation to stdout instead of writing files" },
  { name := "log-level", letter := some 'l', kind := .single, defaults := ["info"]
    help := "panic, fatal, error, warn, info, debug or trace" }]

def capitalName (name : String) : String :=
  .ofList (name.toList.map fun c => if c = '-' then '_' else c.toUpper)

def OptionRule.variable (r : OptionRule) : String :=
  "YAML_DOCS_" ++ capitalName r.name

/-- Why no values are read: the arguments are wrong, or they ask for something else. -/
inductive Stop where
  | misuse
  | help
  | version
  deriving DecidableEq, Repr

abbrev Given := KeyedMap (List String)

def splitCommas (value : String) : List String :=
  (value.toList.splitOn ',').map String.ofList

/-- Give a value to an option. Flags and single values are given once. -/
def OptionRule.give (r : OptionRule) (given : Given) (value : String) : Except Stop Given :=
  let values := if r.kind = .list then splitCommas value else [value]
  if r.isPath && values.any (·.isEmpty) then .error .misuse
  else if r.kind = .flag && value ≠ "true" && value ≠ "false" then .error .misuse
  else
    match given.get? r.name with
    | none => .ok (given.insert r.name values)
    | some before =>
      if r.kind = .list then .ok (given.insert r.name (before ++ values)) else .error .misuse

/-- What an argument leaves: the values given so far, and an option that waits for its value. -/
abbrev Read := Except Stop (Given × Option OptionRule)

def readName (given : Given) (s : List Char) : Read :=
  let name := String.ofList (s.takeWhile (· != '='))
  let value? := match s.dropWhile (· != '=') with
    | _ :: value => some (String.ofList value)
    | [] => none
  match optionRules.find? (·.name = name), value? with
  | some r, some value =>
    if r.kind = .flag then .error .misuse else (r.give given value).map (·, none)
  | some r, none =>
    if r.kind = .flag then (r.give given "true").map (·, none) else .ok (given, some r)
  | none, _ =>
    if s = "help".toList then .error .help
    else if s = "version".toList then .error .version
    else .error .misuse

/-- Options by their letters. The rest of the letters is the value of an option that takes one. -/
def readLetters (given : Given) : List Char → Read
  | [] => .ok (given, none)
  | c :: rest =>
    match optionRules.find? (·.letter = some c) with
    | some r =>
      if r.kind = .flag then do readLetters (← r.give given "true") rest
      else
        match rest with
        | [] => .ok (given, some r)
        | '=' :: value => (r.give given (.ofList value)).map (·, none)
        | value => (r.give given (.ofList value)).map (·, none)
    | none =>
      if c = 'h' then .error .help else if c = 'V' then .error .version else .error .misuse

def looksLikeOption (arg : String) : Bool :=
  match arg.toList with
  | '-' :: _ :: _ => true
  | _ => false

/-- The values that arguments give. `waiting` is an option whose value comes next. -/
def readArguments (given : Given) (waiting : Option OptionRule) :
    List String → Except Stop Given
  | [] => if waiting.isSome then .error .misuse else .ok given
  | arg :: rest =>
    match waiting with
    | some r => do
      if looksLikeOption arg then throw .misuse
      readArguments (← r.give given arg) none rest
    | none =>
      match arg.toList with
      | ['-', '-'] => if rest.isEmpty then .ok given else .error .misuse
      | '-' :: '-' :: s => do
        let (given, waiting) ← readName given s
        readArguments given waiting rest
      | '-' :: c :: s => do
        let (given, waiting) ← readLetters given (c :: s)
        readArguments given waiting rest
      | _ => .error .misuse

def readVariable (environment : List (String × String)) (given : Given) (r : OptionRule) :
    Except Stop Given :=
  match given.get? r.name, environment.lookup r.variable with
  | none, some value => r.give given value
  | _, _ => .ok given

def read (args : List String) (environment : List (String × String)) : Except Stop Given := do
  optionRules.foldlM (readVariable environment) (← readArguments .empty none args)

end ConfigReference.CommandLine
