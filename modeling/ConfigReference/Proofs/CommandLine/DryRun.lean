import ConfigReference.Proofs.CommandLine.Documented
import ConfigReference.Proofs.CommandLine.Reading
import ConfigReference.Proofs.FileTree.Writing
import ConfigReference.Proofs.WorkerPool.Finishing

/-!
# Dry runs

A dry run differs from the run that it stands for in the last step alone: the text of the reference
is printed and not written.
-/

set_option autoImplicit false

namespace ConfigReference.CommandLine

/-! ## The flag among the arguments -/

/-- The values on the left are those on the right with the flag for a dry run. -/
structure AddsDryRun (given other : Given) : Prop where
  here : given.get? "dry-run" = some ["true"]
  others : ∀ name, name ≠ "dry-run" → given.get? name = other.get? name

theorem kind_dryRun : ∀ r ∈ optionRules, r.name = "dry-run" → r.kind = .flag := by
  decide

theorem give_again {given : Given} {r : OptionRule} (hKind : r.kind ≠ .list)
    (hGiven : (given.get? r.name).isSome) (value : String) :
    r.give given value = .error .misuse := by
  obtain ⟨values, hValues⟩ := Option.isSome_iff_exists.mp hGiven
  rw [OptionRule.give, hValues]
  simp [hKind]

theorem give_cases (given : Given) (r : OptionRule) (value : String) :
    (∃ values, r.give given value = .ok (given.insert r.name values)) ∨
      r.give given value = .error .misuse := by
  unfold OptionRule.give
  extract_lets values
  split
  · exact Or.inr rfl
  · split
    · exact Or.inr rfl
    · split
      · exact Or.inl ⟨_, rfl⟩
      · split
        · exact Or.inl ⟨_, rfl⟩
        · exact Or.inr rfl

theorem readArguments_dryRun (given : Given) (after : List String) :
    readArguments given none ("--dry-run" :: after) =
      match given.get? "dry-run" with
      | none => readArguments (given.insert "dry-run" ["true"]) none after
      | some _ => .error .misuse := by
  cases hGiven : given.get? "dry-run" <;>
    simp [readArguments, readName, optionRules, OptionRule.give, hGiven, Except.map, bind,
      Except.bind]

namespace AddsDryRun

variable {given other : Given}

theorem insert_right (h : AddsDryRun given other) (values : List String) :
    AddsDryRun given (other.insert "dry-run" values) := by
  refine ⟨h.here, fun name hName => ?_⟩
  rw [KeyedMap.get?_insert, if_neg hName]
  exact h.others name hName

theorem insert (h : AddsDryRun given other) {name : String} (hName : name ≠ "dry-run")
    (values : List String) : AddsDryRun (given.insert name values) (other.insert name values) := by
  refine ⟨?_, fun other hOther => ?_⟩
  · rw [KeyedMap.get?_insert, if_neg hName.symm]
    exact h.here
  · rw [KeyedMap.get?_insert, KeyedMap.get?_insert, h.others other hOther]

theorem isKept : IsKept AddsDryRun := by
  intro r hr value given other h
  by_cases hName : r.name = "dry-run"
  · rw [give_again (by rw [kind_dryRun r hr hName]; decide) (by rw [hName, h.here]; rfl)]
    exact .misuse _
  · exact follows_give value (h.others r.name hName) (h.insert hName)

theorem of_insert (given : Given) : AddsDryRun (given.insert "dry-run" ["true"]) given := by
  constructor
  · rw [KeyedMap.get?_insert, if_pos rfl]
  · intro name hName
    rw [KeyedMap.get?_insert, if_neg hName]

/-- The flag put between arguments. It is an argument of its own, or the reading fails. -/
theorem readArguments (before after : List String) {given : Given} {waiting : Option OptionRule}
    (hWaiting : ∀ r ∈ waiting, r ∈ optionRules) :
    Follows AddsDryRun (readArguments given waiting (before ++ "--dry-run" :: after))
      (readArguments given waiting (before ++ after)) := by
  refine isKept_eq.readArguments_append before (by simp) ?_ hWaiting rfl
  rintro given _ waiting - rfl
  cases waiting with
  | some r =>
    rw [CommandLine.readArguments]
    exact .misuse _
  | none =>
    rw [readArguments_dryRun]
    cases given.get? "dry-run" with
    | none => exact isKept.readArguments after (by simp) (of_insert given)
    | some _ => exact .misuse _

theorem readVariable (h : AddsDryRun given other) (r : OptionRule)
    (environment : List (String × String)) :
    Follows (fun other given => AddsDryRun given other) (readVariable environment other r)
      (readVariable environment given r) := by
  by_cases hName : r.name = "dry-run"
  · rw [CommandLine.readVariable.eq_def environment given, hName, h.here, CommandLine.readVariable]
    split
    · rename_i value _ _
      rcases give_cases other r value with ⟨values, hGive⟩ | hGive
      · rw [hGive, hName]
        exact .ok (h.insert_right values)
      · rw [hGive]
        exact .misuse _
    · exact .ok h
  · have hHere := h.others r.name hName
    refine follows_readVariable environment (by rw [hHere]) h fun value => ?_
    exact follows_give value hHere.symm (h.insert hName)

end AddsDryRun

/-- A command that is no misuse with the flag gives, with it, the same values and the flag's. -/
theorem follows_read_dryRun {before after : List String} {environment : List (String × String)}
    (hDry : read (before ++ "--dry-run" :: after) environment ≠ .error .misuse) :
    Follows (fun given flagged => AddsDryRun flagged given) (read (before ++ after) environment)
      (read (before ++ "--dry-run" :: after) environment) := by
  have hArguments : Follows AddsDryRun
      (CommandLine.readArguments .empty none (before ++ "--dry-run" :: after)) _ :=
    AddsDryRun.readArguments before after (by simp)
  rw [read] at hDry
  rw [read, read]
  cases hFlagged : CommandLine.readArguments .empty none (before ++ "--dry-run" :: after) with
  | error stop =>
    rw [hFlagged] at hDry
    have hStop : stop ≠ .misuse := fun hMisuse => hDry (congrArg Except.error hMisuse)
    rw [hArguments.asks hFlagged hStop]
    exact .stop stop
  | ok flagged =>
    obtain ⟨plain, hPlain, hAdds⟩ := hArguments.yields hFlagged
    rw [hPlain]
    exact follows_foldlM (fun r _ _ _ h => h.readVariable r environment) hAdds

theorem ending_of_read_error {w : Workspace} {i : Invocation} {stop : Stop}
    (h : read i.args i.environment = .error stop) : (run w i).ending = .stopped stop := by
  rw [run, h]

/-- With the flag among its arguments, a command that can be read is a dry run. -/
theorem dryRun_of_read {before after : List String} {environment : List (String × String)}
    {flagged : Given} (hRead : read (before ++ "--dry-run" :: after) environment = .ok flagged) :
    (Settings.ofGiven flagged).dryRun = true := by
  have hArguments : Follows AddsDryRun
      (CommandLine.readArguments .empty none (before ++ "--dry-run" :: after)) _ :=
    AddsDryRun.readArguments before after (by simp)
  rw [read] at hRead
  cases hGiven : CommandLine.readArguments .empty none (before ++ "--dry-run" :: after) with
  | error stop =>
    rw [hGiven] at hRead
    cases hRead
  | ok given =>
    obtain ⟨plain, -, hAdds⟩ := hArguments.yields hGiven
    have hSelf : AddsDryRun given given := ⟨hAdds.here, fun _ _ => rfl⟩
    have hEnvironment : Follows (fun other given => AddsDryRun given other)
        (optionRules.foldlM (CommandLine.readVariable environment) given)
        (optionRules.foldlM (CommandLine.readVariable environment) given) :=
      follows_foldlM (fun r _ _ _ h => h.readVariable r environment) hSelf
    rw [hGiven] at hRead
    obtain ⟨other, hOther, hEnd⟩ := hEnvironment.yields hRead
    have hHere : other.get? "dry-run" = some ["true"] := hEnd.here
    have hSame : other = flagged := Except.ok.inj (hOther.symm.trans hRead)
    rw [hSame] at hHere
    simp [Settings.ofGiven, hHere]

/-! ## The flag among the settings -/

namespace Settings

def dry (s : Settings) : Settings := { s with dryRun := true }

theorem ofGiven_of_addsDryRun {flagged given : Given} (h : AddsDryRun flagged given) :
    ofGiven flagged = (ofGiven given).dry := by
  simp [ofGiven, dry, h.here, h.others]

/-- What comes of rendering the one reference of a run with these settings, if there is anything to
document. -/
def rendered? (s : Settings) (w : Workspace) (c : Circumstances) :
    Option (Except Failure String) := do
  let infos ← (s.infos w c.display).toOption
  if infos.isEmpty then none
  else some (Reference.render w s.renderOptions version (.combine infos) c.engine)

def reference? (s : Settings) (w : Workspace) (c : Circumstances) : Option String :=
  (s.rendered? w c).bind (·.toOption)

/-- How a run ends that has nothing to document or has a reference rendered. -/
def endingOf : Option (Except Failure String) → Ending
  | some (.error f) => (f.crash?.map .crashed).getD .done
  | _ => .done

/-- What a run does with its one text, if it makes any: the files that it leaves, and what it
prints. -/
def effect (s : Settings) (w : Workspace) (text? : Option String) : Workspace × String :=
  match text? with
  | none => (w, "")
  | some text =>
    if s.dryRun then (w, text)
    else
      match w.write s.outputFile (Text.encode text) with
      | .ok after => (after, "")
      | .error _ => (w, "")

variable {s : Settings}

theorem render_dry (s : Settings) (w : Workspace) (info : Documentation)
    (engine : Reference.Engine) :
    Reference.render w s.dry.renderOptions version info engine =
      Reference.render w s.renderOptions version info engine := by
  rw [Reference.render, Reference.render, Reference.ofDocumentation, Reference.ofDocumentation]
  cases Yaml.Node.rows info.values info.descriptions <;> rfl

theorem rendered?_dry (s : Settings) (w : Workspace) (c : Circumstances) :
    s.dry.rendered? w c = s.rendered? w c := by
  rw [rendered?, rendered?]
  simp only [render_dry]
  rfl

theorem effect_dry (s : Settings) (w : Workspace) (text? : Option String) :
    s.dry.effect w text? = (w, text?.getD "") := by
  cases text? <;> rfl

theorem outcome_eq_effect (hSingle : s.separateFiles = false) (w : Workspace) (processors : Nat)
    (c : Circumstances) :
    let o := s.outcome w processors c
    (o.workspace, o.printed) = s.effect w (s.reference? w c) ∧
      o.ending =
        match s.infos w c.display with
        | .error r => .refused r
        | .ok _ => endingOf (s.rendered? w c) := by
  have hTogether : s.renderOptions.separateFiles = false := hSingle
  have hFile : s.renderOptions.outputFile = s.outputFile := rfl
  have hDry : s.renderOptions.dryRun = s.dryRun := rfl
  dsimp only
  rw [outcome, reference?, rendered?]
  cases s.infos w c.display with
  | error r => exact ⟨rfl, rfl⟩
  | ok infos =>
    dsimp only [Except.toOption, Option.bind_eq_bind, Option.bind_some]
    rw [publishAll, hTogether, if_neg Bool.false_ne_true]
    split
    · exact ⟨rfl, rfl⟩
    · rw [publishOne_eq]
      cases Reference.render w s.renderOptions version (.combine infos) c.engine with
      | error f => cases hCrash : f.crash? <;> simp [endingOf, hCrash, effect]
      | ok text =>
        dsimp only [Option.bind_some]
        rw [Reference.put, RenderOptions.outputPath, hTogether, if_neg Bool.false_ne_true, hFile,
          hDry, effect]
        cases s.dryRun with
        | true => simp [endingOf]
        | false =>
          cases hWrite : w.write s.outputFile (Text.encode text) <;> simp [hWrite, endingOf]

theorem dry_outcome (hSingle : s.separateFiles = false) (w : Workspace) (processors others : Nat)
    (c : Circumstances) :
    let dry := s.dry.outcome w others c
    (dry.workspace, dry.printed) = (w, (s.reference? w c).getD "") ∧
      dry.ending = (s.outcome w processors c).ending := by
  have hDrySingle : s.dry.separateFiles = false := hSingle
  have hInfos : s.dry.infos w c.display = s.infos w c.display := rfl
  have hReference : s.dry.reference? w c = s.reference? w c := by
    rw [reference?, reference?, rendered?_dry]
  obtain ⟨hEffect, hEnding⟩ := outcome_eq_effect hDrySingle w others c
  rw [hReference, effect_dry] at hEffect
  rw [hInfos, rendered?_dry] at hEnding
  exact ⟨hEffect, hEnding.trans (outcome_eq_effect hSingle w processors c).2.symm⟩

/-- A run with these settings makes a text and writes it to the output file. -/
structure Writes (s : Settings) (w : Workspace) (c : Circumstances) (text : String) : Prop where
  notDry : s.dryRun = false
  made : s.reference? w c = some text
  written : ∃ after, w.write s.outputFile (Text.encode text) = .ok after

theorem Writes.write_eq {w : Workspace} {c : Circumstances} {text : String}
    (h : s.Writes w c text) :
    w.write s.outputFile (Text.encode text) = .ok (s.effect w (s.reference? w c)).1 := by
  obtain ⟨after, hAfter⟩ := h.written
  rw [h.made, effect]
  simp [h.notDry, hAfter]

theorem effect_of_not_writes {w : Workspace} {c : Circumstances} (h : ∀ text, ¬s.Writes w c text) :
    (s.effect w (s.reference? w c)).1 = w := by
  cases hMade : s.reference? w c with
  | none => rfl
  | some text =>
    delta effect
    cases hDry : s.dryRun with
    | true => rfl
    | false =>
      cases hWrite : w.write s.outputFile (Text.encode text) with
      | ok after => exact absurd ⟨hDry, hMade, after, hWrite⟩ (h text)
      | error e => simp [hWrite]

end Settings

theorem publishAll_dry {options : RenderOptions} (hDry : options.dryRun = true) (c : Circumstances)
    (workers : Nat) (w : Workspace) (infos : KeyedMap Documentation) :
    (publishAll c options workers w infos).workspace = w := by
  rw [publishAll]
  split
  · rfl
  · split
    · have hJobs : ∀ job ∈ infos.values.map
          (Reference.publishing c.engine c.cut options version),
          job.Makes fun s t => t.workspace = s.workspace := by
        intro job hJob
        obtain ⟨info, -, rfl⟩ := List.mem_map.mp hJob
        exact Reference.makes_publishing_dry hDry
      have hRun : (SharedPool.run c.turns workers (infos.values.map
          (Reference.publishing c.engine c.cut options version)) { workspace := w }).1.workspace =
          w := by
        refine SharedPool.run_makes ?_ ?_ hJobs
        · exact fun _ => rfl
        · exact fun s t u hHere hNext => hNext.trans hHere
      rw [publishEach]
      generalize SharedPool.run c.turns workers _ _ = r at hRun ⊢
      obtain ⟨p, results⟩ := r
      cases results <;> exact hRun
    · rw [publishOne_eq]
      cases Reference.render w options version (.combine infos) c.engine with
      | error f => cases hCrash : f.crash? <;> simp [hCrash]
      | ok text => simp [Reference.put, hDry]

/-- A run with the flag for a dry run leaves all files as they are, whatever comes of it. -/
theorem workspace_dry_run (before after : List String) (environment : List (String × String))
    (processors : Nat) (c : Circumstances) (w : Workspace) :
    (run w { args := before ++ "--dry-run" :: after, environment, processors
             circumstances := c }).workspace = w := by
  cases hRead : read (before ++ "--dry-run" :: after) environment with
  | error stop => rw [run, hRead]
  | ok flagged =>
    have hDry : (Settings.ofGiven flagged).renderOptions.dryRun = true := dryRun_of_read hRead
    rw [(agrees_run hRead).workspace, Settings.outcome]
    cases (Settings.ofGiven flagged).infos w _ with
    | error r => rfl
    | ok infos => exact publishAll_dry hDry c _ w infos

/-- A dry run is one with the settings of the run without the flag. -/
theorem agrees_dry_run {before after : List String} {environment : List (String × String)}
    {given : Given} (hReal : read (before ++ after) environment = .ok given)
    (hDry : read (before ++ "--dry-run" :: after) environment ≠ .error .misuse)
    (hSingle : (Settings.ofGiven given).separateFiles = false) {c d : Circumstances}
    (hEngine : c.engine = d.engine) (hDisplay : c.display = d.display) (w : Workspace)
    (processors : Nat) :
    (run w { args := before ++ "--dry-run" :: after, environment, processors
             circumstances := d }).Agrees
      ((Settings.ofGiven given).dry.outcome w processors c) := by
  obtain ⟨flagged, hFlagged, hAdds⟩ := (follows_read_dryRun hDry).yields hReal
  have hDrySingle : (Settings.ofGiven given).dry.separateFiles = false := hSingle
  rw [Settings.outcome_single hDrySingle hEngine hDisplay w processors processors,
    ← Settings.ofGiven_of_addsDryRun hAdds]
  exact agrees_run hFlagged

/-- A dry run writes nothing. It ends as the run without the flag does, if there is one reference for
all configurations, neither command is a misuse, and templates make the same of the same in both
runs. When the other run writes its output file, the dry run then prints just the text that is in the
file; when it does not, it leaves all files as they are, too. The flag may stand anywhere among the
arguments but where it would be taken for the value of an option, and whatever the environment says
of dry runs. -/
theorem dry_run_prints_what_run_writes (before after : List String)
    (environment : List (String × String)) (c d : Circumstances) (w : Workspace)
    (processors others : Nat) :
    let real := run w { args := before ++ after, environment, processors, circumstances := c }
    let dry := run w { args := before ++ "--dry-run" :: after, environment, processors := others
                       circumstances := d }
    dry.workspace = w ∧
    (read (before ++ after) environment ≠ .error .misuse →
      read (before ++ "--dry-run" :: after) environment ≠ .error .misuse →
      (∀ given, read (before ++ after) environment = .ok given →
        (Settings.ofGiven given).separateFiles = false) →
      c.engine = d.engine → c.display = d.display →
      dry.ending = real.ending ∧
      ∀ given, read (before ++ after) environment = .ok given →
        let s := Settings.ofGiven given
        (∀ text, s.Writes w c text →
          dry.printed = text ∧ w.write s.outputFile (Text.encode text) = .ok real.workspace ∧
          real.workspace.read s.outputFile = .ok (Text.encode text)) ∧
        ((∀ text, ¬s.Writes w c text) → real.workspace = w)) := by
  intro real dry
  refine ⟨workspace_dry_run before after environment others d w, ?_⟩
  intro hRead hDry hSingle hEngine hDisplay
  cases hReal : read (before ++ after) environment with
  | error stop =>
    have hStop : stop ≠ .misuse := fun hMisuse => hRead (by rw [hReal, hMisuse])
    have hFlagged := (follows_read_dryRun hDry).asks hReal hStop
    have hRealEnding : real.ending = .stopped stop := ending_of_read_error hReal
    have hDryEnding : dry.ending = .stopped stop := ending_of_read_error hFlagged
    exact ⟨hDryEnding.trans hRealEnding.symm, by simp⟩
  | ok given =>
    have hSingle := hSingle given hReal
    have hRealAgrees : real.Agrees ((Settings.ofGiven given).outcome w processors c) :=
      agrees_run hReal
    have hDryAgrees : dry.Agrees ((Settings.ofGiven given).dry.outcome w others c) :=
      agrees_dry_run hReal hDry hSingle hEngine hDisplay w others
    obtain ⟨hDryEffect, hDryEnding⟩ := Settings.dry_outcome hSingle w processors others c
    refine ⟨hDryAgrees.ending.trans (hDryEnding.trans hRealAgrees.ending.symm), ?_⟩
    rintro _ ⟨⟩ s
    have hWorkspace : real.workspace = (s.effect w (s.reference? w c)).1 := by
      rw [hRealAgrees.workspace, ← (Settings.outcome_eq_effect hSingle w processors c).1]
    constructor
    · intro text hWrites
      have hWritten := hWrites.write_eq
      rw [← hWorkspace] at hWritten
      refine ⟨?_, hWritten, Workspace.read_write_self hWritten⟩
      rw [hDryAgrees.printed, (Prod.mk.inj hDryEffect).2, hWrites.made, Option.getD_some]
    · intro hNone
      rw [hWorkspace, Settings.effect_of_not_writes hNone]

def desk : Workspace where
  root := .directory [("a.yaml", .file (Text.encode "k: 1\n")),
    ("t", .file (Text.encode "\x7b\x7b ConfigPath \x7d\x7d\n"))]

theorem dry_run_prints_path :
    (run desk { args := ["-f", "a.yaml", "--dry-run", "-t", "t"] }).printed = "/a.yaml\n" ∧
      (run desk { args := ["-f", "a.yaml", "-t", "t"] }).workspace.read "README.md" =
        .ok (Text.encode "/a.yaml\n") := by
  have hFacts : ∃ given ∈ (read (["-f", "a.yaml"] ++ ["-t", "t"]) []).toOption,
      let s := Settings.ofGiven given
      s.separateFiles = false ∧ s.dryRun = false ∧ s.outputFile = "README.md" ∧
        s.reference? desk {} = some "/a.yaml\n" := by
    decide +kernel
  have hFlagged : ∃ flagged,
      (read (["-f", "a.yaml"] ++ "--dry-run" :: ["-t", "t"]) []).toOption = some flagged :=
    Option.isSome_iff_exists.mp (by decide +kernel)
  obtain ⟨given, hGiven, hSingle, hNotDry, hFile, hMade⟩ := hFacts
  obtain ⟨flagged, hFlagged⟩ := hFlagged
  have hDry : read (["-f", "a.yaml"] ++ "--dry-run" :: ["-t", "t"]) [] ≠ .error .misuse := by
    rw [eq_ok_of_mem_toOption hFlagged]
    simp
  have hRead := eq_ok_of_mem_toOption hGiven
  have hReal : read (["-f", "a.yaml"] ++ ["-t", "t"]) [] ≠ .error .misuse := by
    rw [hRead]
    simp
  have hSame : ∀ other, read (["-f", "a.yaml"] ++ ["-t", "t"]) [] = .ok other →
      (Settings.ofGiven other).separateFiles = false := by
    intro other hOther
    rw [hRead] at hOther
    rwa [← Except.ok.inj hOther]
  obtain ⟨-, hRuns⟩ :=
    dry_run_prints_what_run_writes ["-f", "a.yaml"] ["-t", "t"] [] {} {} desk 1 1
  obtain ⟨-, hBoth⟩ := hRuns hReal hDry hSame rfl rfl
  obtain ⟨hWrites, -⟩ := hBoth given hRead
  have hWritten : ∃ after,
      desk.write (Settings.ofGiven given).outputFile (Text.encode "/a.yaml\n") = .ok after := by
    rw [hFile]
    exact ⟨_, rfl⟩
  obtain ⟨hPrinted, -, hRead⟩ := hWrites _ ⟨hNotDry, hMade, hWritten⟩
  rw [hFile] at hRead
  simp only [List.cons_append, List.nil_append] at hPrinted hRead
  exact ⟨hPrinted, hRead⟩

def lottery : Workspace where
  root := .directory [("a.yaml", .file (Text.encode "k: 1\n")),
    ("t", .file (Text.encode "\x7b\x7b get_random(end=9) \x7d\x7d\n"))]

/-- A dry run draws numbers of its own. And a value of the environment that is none stops a run, but
not if the flag hides it. -/
theorem dry_run_differs_by_chance_or_misuse :
    (let real := run lottery
      { args := ["-f", "a.yaml", "-t", "t"]
        circumstances := { engine := .standard fun _ _ => 1 } }
    let dry := run lottery
      { args := ["-f", "a.yaml", "-t", "t", "--dry-run"]
        circumstances := { engine := .standard fun _ _ => 2 } }
    real.workspace.readText? "README.md" = some "1\n" ∧ dry.printed = "2\n") ∧
    (let real := run desk
      { args := ["-f", "a.yaml", "-t", "t"], environment := [("YAML_DOCS_DRY_RUN", "maybe")] }
    let dry := run desk
      { args := ["-f", "a.yaml", "-t", "t", "--dry-run"]
        environment := [("YAML_DOCS_DRY_RUN", "maybe")] }
    real.ending.status = 2 ∧ dry.ending.status = 0) := by
  decide +kernel

end ConfigReference.CommandLine
