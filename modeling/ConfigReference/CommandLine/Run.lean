import ConfigReference.CommandLine.Help
import ConfigReference.CommandLine.Settings
import ConfigReference.Documentation.Gather
import ConfigReference.Reference.Publish

/-!
# Runs of the program

What a command does to the files around it, what it prints, and how it ends. Several references are
published by the workers of a pool, whose turns may come in any order. A run that fails changes no
file and prints nothing; one that crashes may have published some references.
-/

set_option autoImplicit false

namespace ConfigReference.CommandLine

/-- What a run meets that neither its arguments nor the files around it tell. -/
structure Circumstances where
  engine : Reference.Engine := .standard
  /-- The workers in the order of their turns at publishing. -/
  turns : List Nat := []
  cut : Reference.Cut := .whole
  /-- How the path of a configuration is shown. What is in it that is no text is lost, so that two
  paths may be shown alike. -/
  display : String → String := id

/-- What a program is started with. Arguments and names of files are taken for texts; where one is
none, a text of its own stands for it here, and `display` tells how it is shown. -/
structure Invocation where
  args : List String
  environment : List (String × String) := []
  processors : Nat := 1
  circumstances : Circumstances := {}

inductive Refusal where
  | unknownLevel (name : String)
  | noRoot
  | twoKindsOfRoots
  | missingRoot (path : String)
  | badPolicy
  /-- As many roots have failed their audit. -/
  | auditFailed (count : Nat)
  deriving DecidableEq, Repr

def Refusal.message : Refusal → String
  | unknownLevel name => "invalid log level: " ++ name
  | noRoot => "one of --config-search-root or --config-file is required"
  | twoKindsOfRoots => "--config-search-root and --config-file cannot be used together"
  | missingRoot path => "config path does not exist: " ++ path
  | badPolicy => "error parsing the strict mode configuration"
  | auditFailed count => "documentation check failed for " ++ toString count ++ " config path(s)"

inductive Ending where
  | done
  | refused (r : Refusal)
  | stopped (s : Stop)
  | crashed (c : Crash)
  deriving DecidableEq, Repr

def Ending.status : Ending → Nat
  | done => 0
  | refused _ => 1
  | stopped .misuse => 2
  | stopped _ => 0
  | crashed c => c.status

structure Outcome extends Reference.Published where
  ending : Ending := .done

def lowerName (s : String) : String := .ofList (s.toList.map Char.toLower)

namespace Settings

def level (s : Settings) : Except Refusal Log.Level :=
  match Log.Level.ofName? (lowerName s.logLevel) with
  | some level => .ok level
  | none => .error (.unknownLevel (lowerName s.logLevel))

/-- The roots as absolute paths. All of them have to be there. -/
def roots (s : Settings) (w : Workspace) : Except Refusal (List String) :=
  let absolute (roots : List String) : Except Refusal (List String) := roots.mapM fun root =>
    let path := Path.absolute w.cwdText root
    if w.pathExists path then .ok path else .error (.missingRoot path)
  match s.searchRoot, s.configFiles with
  | some _, _ :: _ => .error .twoKindsOfRoots
  | none, [] => .error .noRoot
  | some root, [] => absolute [root]
  | none, files => absolute files

def policy (s : Settings) : Except Refusal Audit.Policy :=
  (Audit.Policy.ofTexts s.strict s.allowedPaths s.allowedPatterns).mapError fun _ => .badPolicy

def orderLog (s : Settings) : Log :=
  if (RowOrder.parse? s.sortOrder).isSome then []
  else [⟨.warning, "Invalid sort order provided " ++ s.sortOrder ++ ", defaulting to alphanum"⟩]

end Settings

/-! ## Gathering -/

structure Gathered where
  root : String
  log : Log
  result : Except Failure Documentation

def Gathered.failureLog (g : Gathered) : Log :=
  match g.result with
  | .ok _ => []
  | .error f =>
    if f.isFatal then [⟨.error, g.root ++ ": " ++ f.message⟩]
    else [⟨.warning, "Error parsing information for config path " ++ g.root ++ ", skipping: "
      ++ f.message⟩]

def Gathered.isFatal (g : Gathered) : Bool :=
  match g.result with
  | .ok _ => false
  | .error f => f.isFatal

/-- The path of a configuration is from here on what is shown of it. -/
def Gathered.shown (display : String → String) (g : Gathered) : Gathered where
  root := display g.root
  log := g.log
  result := g.result.map fun d => { d with configPath := display d.configPath }

def gatherAll (w : Workspace) (policy : Audit.Policy) (ignoreFile : String) (workers : Nat)
    (roots : List String) : List Gathered :=
  let results := WorkerPool.run (Documentation.gather w policy ignoreFile) workers roots
  (roots.zip results).map fun (root, log, result) => ⟨root, log, result⟩

def documented (gathered : List Gathered) : KeyedMap Documentation :=
  .ofList (gathered.filterMap fun g => g.result.toOption.map fun d => (d.configPath, d))

/-! ## Publishing -/

def failureRecord (info : Documentation) (f : Failure) : Log.Record :=
  ⟨.warning, "Error generating documentation for " ++ info.configPath ++ ": " ++ f.message⟩

def failureLog (infos : List Documentation) (results : List (Except Failure String)) : Log :=
  (infos.zip results).filterMap fun (info, result) =>
    match result with
    | .ok _ => none
    | .error f => some (failureRecord info f)

/-- The end of a run that has published references with these results, or has crashed at it. -/
def Outcome.ofPublished (infos : List Documentation) (p : Reference.Published) :
    Except Crash (List (Except Failure String)) → Outcome
  | .ok results => { p with log := p.log ++ failureLog infos results }
  | .error c => { p with ending := .crashed c }

def publishOne (c : Circumstances) (options : RenderOptions) (w : Workspace)
    (info : Documentation) : Outcome :=
  let (p, result) :=
    (Reference.publishing c.engine c.cut options version info).alone { workspace := w }
  .ofPublished [info] p (result.map ([·]))

def publishEach (c : Circumstances) (options : RenderOptions) (workers : Nat) (w : Workspace)
    (infos : List Documentation) : Outcome :=
  let jobs := infos.map (Reference.publishing c.engine c.cut options version)
  let (p, results) := SharedPool.run c.turns workers jobs { workspace := w }
  .ofPublished infos p results

def publishAll (c : Circumstances) (options : RenderOptions) (workers : Nat) (w : Workspace)
    (infos : KeyedMap Documentation) : Outcome :=
  if infos.isEmpty then
    { workspace := w
      log := [⟨.warning, "No YAML files were found, documentation will not be created."⟩] }
  else if options.separateFiles then publishEach c options workers w infos.values
  else publishOne c options w (.combine infos)

/-! ## The whole run -/

def runSettings (w : Workspace) (processors : Nat) (c : Circumstances) (s : Settings) : Outcome :=
  let prepared := do
    let roots ← s.roots w
    return (roots, ← s.policy)
  match prepared with
  | .error r => { workspace := w, ending := .refused r }
  | .ok (roots, policy) =>
    let workers := WorkerPool.workerCount processors s.dryRun
    let gathered := (gatherAll w policy s.ignoreFile workers roots).map (·.shown c.display)
    let log := s.orderLog ++ gathered.flatMap (·.log) ++ gathered.flatMap (·.failureLog)
    let fatal := gathered.countP (·.isFatal)
    if 0 < fatal then { workspace := w, log, ending := .refused (.auditFailed fatal) }
    else
      let o := publishAll c s.renderOptions workers w (documented gathered)
      { o with log := log ++ o.log }

def run (w : Workspace) (i : Invocation) : Outcome :=
  match read i.args i.environment with
  | .error stop =>
    { workspace := w, printed := stop.printed i.environment, ending := .stopped stop }
  | .ok given =>
    let s := Settings.ofGiven given
    match s.level with
    | .error r => { workspace := w, ending := .refused r }
    | .ok level =>
      let o := runSettings w i.processors i.circumstances s
      { o with log := o.log.upTo level }

end ConfigReference.CommandLine
