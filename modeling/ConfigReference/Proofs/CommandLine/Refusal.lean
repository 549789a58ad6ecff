import ConfigReference.Proofs.Reference.Publishing
import ConfigReference.Proofs.WorkerPool.Accounting
import Mathlib.Data.List.Basic

/-!
# Runs that fail

All that can make a run fail is found before the first reference is published. A run that fails
therefore leaves the files as they are and prints nothing, unless it crashes and has other
references published already. When it fails because of the audit, all roots have been gathered, and the log has an error for each root whose audit
failed, with the paths that lack a description.
-/

set_option autoImplicit false

namespace ConfigReference

/-! ## What is gathered at a root -/

/-- What the files at a path document, whatever an audit says of it. -/
def Workspace.documentation? (w : Workspace) (ignoreFile path : String) : Option Documentation :=
  (w.inputs ignoreFile path).toOption.map fun paths =>
    .ofFiles path (paths.filterMap fun p => (w.scan p).toOption)

namespace Documentation

def lacking (policy : Audit.Policy) (d : Documentation) : List String :=
  if policy.strict then
    (d.values.elim [] fun root => Audit.undocumented root d.descriptions).filter
      (!policy.allows ·)
  else []

theorem audit_eq (policy : Audit.Policy) (d : Documentation) :
    d.audit policy =
      if d.lacking policy = [] then .ok () else .error (.undocumented (d.lacking policy)) := by
  rw [audit, lacking]
  cases hStrict : policy.strict with
  | false => simp
  | true =>
    cases hValues : d.values with
    | none => simp
    | some root =>
      simp only [Option.elim_some, Audit.check, if_true]
      split
      · rename_i hNone
        rw [if_pos hNone]
      · rename_i hSome
        rw [if_neg hSome]

theorem gather_eq (w : Workspace) (policy : Audit.Policy) (ignoreFile path : String) :
    (gather w policy ignoreFile path).2 =
      match w.documentation? ignoreFile path with
      | none => .error (.noInput path)
      | some d =>
        if d.lacking policy = [] then .ok d else .error (.undocumented (d.lacking policy)) := by
  rw [gather, Workspace.documentation?]
  cases hInputs : w.inputs ignoreFile path with
  | error f =>
    have hNone : Failure.noInput path = f := by
      unfold Workspace.inputs at hInputs
      extract_lets found at hInputs
      split at hInputs
      · exact Except.error.inj hInputs
      · cases hInputs
    rw [← hNone]
    rfl
  | ok paths =>
    have hScans : (paths.map fun p => (p, w.scan p)).filterMap (·.2.toOption) =
        paths.filterMap fun p => (w.scan p).toOption := by
      rw [List.filterMap_map]
      rfl
    change ((ofFiles path ((paths.map fun p => (p, w.scan p)).filterMap (·.2.toOption))).audit
      policy).map _ = if lacking policy (ofFiles path (paths.filterMap _)) = [] then _ else _
    rw [hScans, audit_eq]
    split <;> rfl

end Documentation

namespace CommandLine

def lackingAt (w : Workspace) (policy : Audit.Policy) (ignoreFile root : String) : List String :=
  (w.documentation? ignoreFile root).elim [] (·.lacking policy)

def auditRecord? (w : Workspace) (policy : Audit.Policy) (ignoreFile : String)
    (display : String → String) (root : String) : Option Log.Record :=
  let paths := lackingAt w policy ignoreFile root
  if paths = [] then none
  else some ⟨.error, display root ++ ": " ++ (Failure.undocumented paths).message⟩

def gatheredAt (w : Workspace) (policy : Audit.Policy) (ignoreFile : String)
    (display : String → String) (root : String) : Gathered :=
  let gathered := Documentation.gather w policy ignoreFile root
  Gathered.shown display ⟨root, gathered.1, gathered.2⟩

theorem result_gatheredAt (w : Workspace) (policy : Audit.Policy) (ignoreFile : String)
    (display : String → String) (root : String) :
    (gatheredAt w policy ignoreFile display root).result =
      match w.documentation? ignoreFile root with
      | none => .error (.noInput root)
      | some d =>
        if d.lacking policy = [] then .ok { d with configPath := display d.configPath }
        else .error (.undocumented (d.lacking policy)) := by
  rw [gatheredAt, Gathered.shown, Documentation.gather_eq]
  cases w.documentation? ignoreFile root with
  | none => rfl
  | some d => by_cases hLacking : d.lacking policy = [] <;> simp [hLacking, Except.map]

theorem isFatal_gatheredAt (w : Workspace) (policy : Audit.Policy) (ignoreFile : String)
    (display : String → String) (root : String) :
    (gatheredAt w policy ignoreFile display root).isFatal =
      (auditRecord? w policy ignoreFile display root).isSome := by
  rw [Gathered.isFatal, result_gatheredAt, auditRecord?, lackingAt]
  cases w.documentation? ignoreFile root with
  | none => rfl
  | some d => by_cases hLacking : d.lacking policy = [] <;> simp [hLacking, Failure.isFatal]

theorem failureLog_gatheredAt (w : Workspace) (policy : Audit.Policy) (ignoreFile : String)
    (display : String → String) (root : String) :
    (gatheredAt w policy ignoreFile display root).failureLog.filter (·.level = .error) =
      (auditRecord? w policy ignoreFile display root).toList := by
  have hRoot : (gatheredAt w policy ignoreFile display root).root = display root := rfl
  rw [Gathered.failureLog, result_gatheredAt, hRoot, auditRecord?, lackingAt]
  cases w.documentation? ignoreFile root with
  | none => rfl
  | some d => by_cases hLacking : d.lacking policy = [] <;> simp [hLacking, Failure.isFatal]

theorem level_scanLog {path : String} {scan : Except Failure ScannedFile} {r : Log.Record}
    (h : r ∈ Documentation.scanLog path scan) : r.level = .warning := by
  cases scan with
  | error f =>
    rw [List.mem_singleton.mp h]
  | ok scanned =>
    rw [Documentation.scanLog] at h
    split at h
    · rw [List.mem_singleton.mp h]
    · cases h

theorem level_log_gatheredAt {w : Workspace} {policy : Audit.Policy} {ignoreFile root : String}
    {display : String → String} {r : Log.Record}
    (h : r ∈ (gatheredAt w policy ignoreFile display root).log) : r.level = .warning := by
  rw [gatheredAt, Gathered.shown, Documentation.gather] at h
  cases hInputs : w.inputs ignoreFile root with
  | error f => simp [hInputs] at h
  | ok paths =>
    simp only [hInputs] at h
    obtain ⟨⟨path, scan⟩, -, hScan⟩ := List.mem_flatMap.mp h
    exact level_scanLog hScan

theorem level_orderLog {s : Settings} {r : Log.Record} (h : r ∈ s.orderLog) :
    r.level = .warning := by
  rw [Settings.orderLog] at h
  split at h
  · cases h
  · rw [List.mem_singleton.mp h]

/-! ## How a run ends -/

/-- What a run goes on with when its arguments are in order. -/
structure Prepares (w : Workspace) (i : Invocation) (s : Settings) (level : Log.Level)
    (roots : List String) (policy : Audit.Policy) : Prop where
  settings : (read i.args i.environment).map Settings.ofGiven = .ok s
  level : s.level = .ok level
  roots : s.roots w = .ok roots
  policy : s.policy = .ok policy

def gatheredLog (w : Workspace) (s : Settings) (policy : Audit.Policy)
    (display : String → String) (roots : List String) : Log :=
  let gathered := roots.map (gatheredAt w policy s.ignoreFile display)
  s.orderLog ++ gathered.flatMap (·.log) ++ gathered.flatMap (·.failureLog)

/-- All ways in which a run can end. -/
inductive Course (w : Workspace) (i : Invocation) : Outcome → Prop where
  | stopped (stop : Stop) :
    Course w i { workspace := w, printed := stop.printed i.environment, ending := .stopped stop }
  | refused (r : Refusal) (h : ∀ count, r ≠ .auditFailed count) :
    Course w i { workspace := w, ending := .refused r }
  | auditFailed (s : Settings) (level : Log.Level) (roots : List String) (policy : Audit.Policy)
    (h : Prepares w i s level roots policy) (count : Nat)
    (hCount : count = (roots.filterMap
      (auditRecord? w policy s.ignoreFile i.circumstances.display)).length)
    (hFailed : 0 < count) :
    Course w i {
      workspace := w
      log := (gatheredLog w s policy i.circumstances.display roots).upTo level
      ending := .refused (.auditFailed count) }
  | crashed (s : Settings) (hSettings : (read i.args i.environment).map Settings.ofGiven = .ok s)
    (o : Outcome) (c : Crash) (h : o.ending = .crashed c)
    (hSingle : s.separateFiles = false → o.workspace = w ∧ o.printed = "") : Course w i o
  | done (o : Outcome) (h : o.ending = .done) : Course w i o

theorem publishOne_eq (c : Circumstances) (options : RenderOptions) (w : Workspace)
    (info : Documentation) :
    publishOne c options w info =
      match Reference.render w options version info c.engine with
      | .error f =>
        match f.crash? with
        | some crash =>
          { workspace := w, log := [Reference.announcement info], ending := .crashed crash }
        | none =>
          { workspace := w, log := [Reference.announcement info, failureRecord info f] }
      | .ok text =>
        match Reference.put w options info.configPath text with
        | .ok p => { p with log := [Reference.announcement info] }
        | .error f =>
          { workspace := w, log := [Reference.announcement info, failureRecord info f] } := by
  rw [publishOne, Reference.alone_publishing]
  cases Reference.render w options version info c.engine with
  | error f => cases hCrash : f.crash? <;> simp [hCrash, Outcome.ofPublished, failureLog, Except.map]
  | ok text =>
    cases hPut : Reference.put w options info.configPath text <;>
      simp [hPut, Outcome.ofPublished, failureLog, Except.map]

/-- A run that publishes one reference and crashes at it leaves nothing of it. -/
theorem ending_publishAll (c : Circumstances) (options : RenderOptions) (workers : Nat)
    (w : Workspace) (infos : KeyedMap Documentation) :
    let o := publishAll c options workers w infos
    o.ending = .done ∨ ∃ crash, o.ending = .crashed crash ∧
      (options.separateFiles = false → o.workspace = w ∧ o.printed = "") := by
  dsimp only
  rw [publishAll]
  split
  · exact Or.inl rfl
  · split
    · rename_i hSeparate
      rw [publishEach]
      obtain ⟨p, results⟩ := SharedPool.run c.turns workers (infos.values.map
        (Reference.publishing c.engine c.cut options version)) { workspace := w }
      cases results with
      | ok results => exact Or.inl rfl
      | error crash =>
        refine Or.inr ⟨crash, rfl, fun hSingle => ?_⟩
        rw [hSingle] at hSeparate
        cases hSeparate
    · rw [publishOne_eq]
      cases Reference.render w options version (.combine infos) c.engine with
      | error f =>
        cases hCrash : f.crash? with
        | none => simp [hCrash]
        | some crash => simp [hCrash]
      | ok text =>
        cases hPut : Reference.put w options (Documentation.combine infos).configPath text <;>
          simp [hPut]

theorem level_ne_auditFailed {s : Settings} {r : Refusal} (h : s.level = .error r) (count : Nat) :
    r ≠ .auditFailed count := by
  rw [Settings.level] at h
  split at h
  · cases h
  · cases h
    simp

theorem exists_of_mapM_eq_error {α β ε : Type} {f : α → Except ε β} {items : List α} {e : ε}
    (h : items.mapM f = .error e) : ∃ item ∈ items, f item = .error e := by
  induction items with
  | nil => cases h
  | cons item items ih =>
    rw [List.mapM_cons] at h
    cases hHere : f item with
    | error first =>
      rw [hHere] at h
      cases h
      exact ⟨item, List.mem_cons_self, hHere⟩
    | ok b =>
      cases hRest : items.mapM f with
      | error later =>
        rw [hHere, hRest] at h
        cases h
        obtain ⟨other, hMem, hOther⟩ := ih hRest
        exact ⟨other, List.mem_cons_of_mem _ hMem, hOther⟩
      | ok bs =>
        rw [hHere, hRest] at h
        cases h

theorem roots_ne_auditFailed {s : Settings} {w : Workspace} {r : Refusal}
    (h : s.roots w = .error r) (count : Nat) : r ≠ .auditFailed count := by
  unfold Settings.roots at h
  extract_lets absolute at h
  split at h
  · cases h
    simp
  · cases h
    simp
  all_goals
    obtain ⟨root, -, hRoot⟩ := exists_of_mapM_eq_error h
    extract_lets path at hRoot
    split at hRoot
    · cases hRoot
    · cases hRoot
      simp

theorem policy_ne_auditFailed {s : Settings} {r : Refusal} (h : s.policy = .error r)
    (count : Nat) : r ≠ .auditFailed count := by
  rw [Settings.policy] at h
  cases hTexts : Audit.Policy.ofTexts s.strict s.allowedPaths s.allowedPatterns with
  | ok policy => rw [hTexts] at h; cases h
  | error f => rw [hTexts] at h; cases h; simp

theorem gatherAll_gatheredAt (w : Workspace) (policy : Audit.Policy) (ignoreFile : String)
    (display : String → String) (workers : Nat) (roots : List String) :
    (gatherAll w policy ignoreFile workers roots).map (·.shown display) =
      roots.map (gatheredAt w policy ignoreFile display) := by
  rw [gatherAll_eq, List.map_map]
  rfl

theorem countP_isFatal (w : Workspace) (policy : Audit.Policy) (ignoreFile : String)
    (display : String → String) (roots : List String) :
    (roots.map (gatheredAt w policy ignoreFile display)).countP (·.isFatal) =
      (roots.filterMap (auditRecord? w policy ignoreFile display)).length := by
  rw [List.countP_map, List.length_filterMap_eq_countP]
  exact List.countP_congr fun root _ => by simp [isFatal_gatheredAt]

/-- Everything that can make a run fail is found before anything is published. -/
theorem run_course (w : Workspace) (i : Invocation) : Course w i (run w i) := by
  rw [run]
  -- The cases are the checks of a run, in their order, and each that fails ends it.
  cases hRead : read i.args i.environment with
  | error stop => exact .stopped stop
  | ok given =>
    cases hLevel : (Settings.ofGiven given).level with
    | error r =>
      simp only [hLevel]
      exact .refused r (level_ne_auditFailed hLevel)
    | ok level =>
      simp only [hLevel]
      rw [runSettings]
      cases hRoots : (Settings.ofGiven given).roots w with
      | error r =>
        exact .refused r (roots_ne_auditFailed hRoots)
      | ok roots =>
        cases hPolicy : (Settings.ofGiven given).policy with
        | error r =>
          exact .refused r (policy_ne_auditFailed hPolicy)
        | ok policy =>
          have hPrepares : Prepares w i (.ofGiven given) level roots policy :=
            ⟨by rw [hRead]; rfl, hLevel, hRoots, hPolicy⟩
          simp only [bind, Except.bind, pure, Except.pure, gatherAll_gatheredAt, countP_isFatal]
          split
          · rename_i hFailed
            exact .auditFailed (.ofGiven given) level roots policy hPrepares _ rfl hFailed
          · rcases ending_publishAll i.circumstances (Settings.ofGiven given).renderOptions _ w
              (documented _) with hDone | ⟨c, hCrashed, hSingle⟩
            · exact .done _ hDone
            · exact .crashed (.ofGiven given) hPrepares.settings _ c hCrashed hSingle

theorem errors_upTo (level : Log.Level) (log : Log) :
    (log.upTo level).filter (·.level = .error) = log.filter (·.level = .error) := by
  rw [Log.upTo, List.filter_filter]
  refine List.filter_congr fun r _ => ?_
  cases hLevel : r.level <;> simp [Log.Level.rank]

theorem errors_gatheredLog (w : Workspace) (s : Settings) (policy : Audit.Policy)
    (display : String → String) (roots : List String) :
    (gatheredLog w s policy display roots).filter (·.level = .error) =
      roots.filterMap (auditRecord? w policy s.ignoreFile display) := by
  have hOrder : s.orderLog.filter (·.level = .error) = [] :=
    List.filter_eq_nil_iff.mpr fun r hr => by simp [level_orderLog hr]
  have hScans : (roots.flatMap fun root =>
      (gatheredAt w policy s.ignoreFile display root).log).filter (·.level = .error) = [] := by
    refine List.filter_eq_nil_iff.mpr fun r hr => ?_
    obtain ⟨root, -, hRoot⟩ := List.mem_flatMap.mp hr
    simp [level_log_gatheredAt hRoot]
  rw [gatheredLog]
  simp only [List.filter_append, List.flatMap_map]
  rw [hOrder, hScans, List.filter_flatMap, List.nil_append, List.nil_append]
  simp only [failureLog_gatheredAt]
  exact (List.filterMap_eq_flatMap_toList _ _).symm

/-- A run that fails, and does not crash at one of several references, leaves the files as they are
and prints nothing. When it fails because of the audit, all roots have been gathered: the log has the records of all, as far as
they are wanted, and its errors are one for each root whose audit failed, in the order of the roots,
with the paths that lack a description. -/
theorem failed_run_leaves_all_as_it_was (w : Workspace) (i : Invocation)
    (hFailed : (run w i).ending.status ≠ 0)
    (hAlone : ∀ c s, (run w i).ending = .crashed c →
      (read i.args i.environment).map Settings.ofGiven = .ok s → s.separateFiles = false) :
    (run w i).workspace = w ∧ (run w i).printed = "" ∧
    ∀ count, (run w i).ending = .refused (.auditFailed count) →
      ∃ s level roots policy, Prepares w i s level roots policy ∧
        let display := i.circumstances.display
        (run w i).log = (gatheredLog w s policy display roots).upTo level ∧
        (run w i).log.filter (·.level = .error) =
          roots.filterMap (auditRecord? w policy s.ignoreFile display) ∧
        count = (roots.filterMap (auditRecord? w policy s.ignoreFile display)).length ∧
        0 < count := by
  have hCourse := run_course w i
  generalize run w i = o at hFailed hAlone hCourse ⊢
  cases hCourse with
  | stopped stop =>
    cases stop with
    | misuse => exact ⟨rfl, rfl, by simp⟩
    | help => exact absurd rfl hFailed
    | version => exact absurd rfl hFailed
  | refused r hOther =>
    refine ⟨rfl, rfl, ?_⟩
    intro count hCount
    exact absurd (Ending.refused.inj hCount) (hOther count)
  | auditFailed s level roots policy hPrepares failed hCount hPos =>
    refine ⟨rfl, rfl, ?_⟩
    intro count hEnding
    cases hEnding
    exact ⟨s, level, roots, policy, hPrepares, rfl,
      (errors_upTo level _).trans (errors_gatheredLog w s policy _ roots), hCount, hPos⟩
  | crashed s hSettings o c hCrashed hSingle =>
    obtain ⟨hWorkspace, hPrinted⟩ := hSingle (hAlone c s hCrashed hSettings)
    refine ⟨hWorkspace, hPrinted, ?_⟩
    intro count hCount
    rw [hCrashed] at hCount
    cases hCount
  | done o hDone => rw [hDone] at hFailed; exact absurd rfl hFailed

def draftShelf : Workspace where
  root := .directory [("a.yaml", .file (Text.encode "k: 1\n")),
    ("b.yaml", .file (Text.encode "# k -- text\nk: 1\n")),
    ("c.yaml", .file (Text.encode "m:\n  n: 1\n")), ("d.txt", .file [])]

def strictCall : Invocation where
  args := ["-f", "a.yaml,d.txt,b.yaml,c.yaml", "-x", "-z", ""]

theorem failed_run_leaves_drafts :
    (run draftShelf strictCall).ending = .refused (.auditFailed 2) ∧
      (run draftShelf strictCall).workspace = draftShelf ∧
      (run draftShelf strictCall).printed = "" ∧
      (run draftShelf strictCall).log.filter (·.level = .error) =
        [⟨.error, "/a.yaml: values without documentation: \nk"⟩,
          ⟨.error, "/c.yaml: values without documentation: \nm\nm.n"⟩] := by
  have hRun : (run draftShelf strictCall).ending = .refused (.auditFailed 2) ∧
      (run draftShelf strictCall).log.filter (·.level = .error) =
        [⟨.error, "/a.yaml: values without documentation: \nk"⟩,
          ⟨.error, "/c.yaml: values without documentation: \nm\nm.n"⟩] := by
    decide +kernel
  have hFailed : (run draftShelf strictCall).ending.status ≠ 0 := by
    rw [hRun.1]
    decide
  obtain ⟨hWorkspace, hPrinted, -⟩ := failed_run_leaves_all_as_it_was _ _ hFailed (by
    rw [hRun.1]
    simp)
  exact ⟨hRun.1, hWorkspace, hPrinted, hRun.2⟩

/-- Two configurations, and a template that shows their paths, and for the second one draws a number
where there is none. -/
def brokenShelf : Workspace where
  root := .directory [("a.yaml", .file (Text.encode "k: 1\n")),
    ("b.yaml", .file (Text.encode "k: 1\n")),
    ("t", .file (Text.encode ("\x7b% if ConfigPath is ending_with(\"b.yaml\") %\x7d"
      ++ "\x7b\x7b get_random(end=0) \x7d\x7d\x7b% endif %\x7d\x7b\x7b ConfigPath \x7d\x7d\n")))]

def brokenCall : Invocation where
  args := ["-f", "a.yaml,b.yaml", "--multiple-output-files", "-t", "t"]

/-- A run that crashes at its second reference has published the first one: it is printed on a dry
run and otherwise written. -/
theorem crashed_run_has_published :
    (let o := run brokenShelf { brokenCall with args := brokenCall.args ++ ["-d"] }
    o.ending = .crashed .panicked ∧ o.ending.status ≠ 0 ∧ o.printed = "/a.yaml\n") ∧
    (let o := run brokenShelf brokenCall
    o.ending = .crashed .panicked ∧ o.ending.status ≠ 0 ∧
      (brokenShelf.readText? "README-a.yaml.md" = none ∧
        o.workspace.readText? "README-a.yaml.md" = some "/a.yaml\n")) := by
  decide +kernel

end CommandLine

end ConfigReference
