import ConfigReference.Proofs.CommandLine.Refusal

/-!
# What a run documents

The part of a run before it publishes anything, as a function of its settings and of how paths are
shown: what it has to document, or why it fails. How many workers there are and what is logged on
the way do not count; they do not count for a single reference either.
-/

set_option autoImplicit false

namespace ConfigReference.CommandLine

namespace Settings

def infosAt (s : Settings) (w : Workspace) (display : String → String) (policy : Audit.Policy)
    (roots : List String) : Except Refusal (KeyedMap Documentation) :=
  let gathered := roots.map (gatheredAt w policy s.ignoreFile display)
  let failed := gathered.countP (·.isFatal)
  if 0 < failed then .error (.auditFailed failed) else .ok (documented gathered)

/-- What a run with these settings documents, or why it fails. -/
def infos (s : Settings) (w : Workspace) (display : String → String) :
    Except Refusal (KeyedMap Documentation) := do
  let _ ← s.level
  let roots ← s.roots w
  s.infosAt w display (← s.policy) roots

/-- A run with these settings, without its log. -/
def outcome (s : Settings) (w : Workspace) (processors : Nat) (c : Circumstances) : Outcome :=
  match s.infos w c.display with
  | .error r => { workspace := w, ending := .refused r }
  | .ok infos =>
    publishAll c s.renderOptions (WorkerPool.workerCount processors s.dryRun) w infos

end Settings

/-- Two runs that end alike and leave the same files and the same prints. -/
structure Outcome.Agrees (o p : Outcome) : Prop where
  workspace : o.workspace = p.workspace
  printed : o.printed = p.printed
  ending : o.ending = p.ending

namespace Outcome.Agrees

variable {o p q : Outcome}

theorem symm (h : o.Agrees p) : p.Agrees o :=
  ⟨h.workspace.symm, h.printed.symm, h.ending.symm⟩

theorem trans (h : o.Agrees p) (hNext : p.Agrees q) : o.Agrees q :=
  ⟨h.workspace.trans hNext.workspace, h.printed.trans hNext.printed, h.ending.trans hNext.ending⟩

end Outcome.Agrees

theorem agrees_runSettings {s : Settings} {level : Log.Level} (hLevel : s.level = .ok level)
    (w : Workspace) (processors : Nat) (c : Circumstances) :
    (runSettings w processors c s).Agrees (s.outcome w processors c) := by
  rw [runSettings, Settings.outcome, Settings.infos, hLevel]
  cases s.roots w with
  | error r => exact ⟨rfl, rfl, rfl⟩
  | ok roots =>
    cases s.policy with
    | error r => exact ⟨rfl, rfl, rfl⟩
    | ok policy =>
      simp only [bind, Except.bind, pure, Except.pure, gatherAll_gatheredAt, Settings.infosAt]
      split
      · exact ⟨rfl, rfl, rfl⟩
      · exact ⟨rfl, rfl, rfl⟩

theorem agrees_run {w : Workspace} {i : Invocation} {given : Given}
    (hRead : read i.args i.environment = .ok given) :
    (run w i).Agrees ((Settings.ofGiven given).outcome w i.processors i.circumstances) := by
  rw [run, hRead]
  dsimp only
  cases hLevel : (Settings.ofGiven given).level with
  | error r =>
    rw [Settings.outcome, Settings.infos, hLevel]
    exact ⟨rfl, rfl, rfl⟩
  | ok level =>
    have hSettings := agrees_runSettings hLevel w i.processors i.circumstances
    exact ⟨hSettings.workspace, hSettings.printed, hSettings.ending⟩

/-! ## A single reference -/

theorem publishAll_single {c d : Circumstances} {options : RenderOptions}
    (hSingle : options.separateFiles = false) (hEngine : c.engine = d.engine)
    (workers others : Nat) (w : Workspace) (infos : KeyedMap Documentation) :
    publishAll c options workers w infos = publishAll d options others w infos := by
  rw [publishAll, publishAll, hSingle, if_neg Bool.false_ne_true, if_neg Bool.false_ne_true,
    publishOne_eq, publishOne_eq, hEngine]

theorem Settings.outcome_single {s : Settings} (hSingle : s.separateFiles = false)
    {c d : Circumstances} (hEngine : c.engine = d.engine) (hDisplay : c.display = d.display)
    (w : Workspace) (processors others : Nat) :
    s.outcome w processors c = s.outcome w others d := by
  rw [outcome, outcome, hDisplay]
  cases s.infos w d.display with
  | error r => rfl
  | ok infos => exact publishAll_single hSingle hEngine _ _ w infos

end ConfigReference.CommandLine
