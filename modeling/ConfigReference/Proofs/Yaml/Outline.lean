import ConfigReference.Yaml.Event.Grammar

/-!
# Outlines

The syntax tree of a document with the marks of its steps. Drafting an outline takes one step after
the other, and a finished outline spells out just the steps it was drafted from.
-/

set_option autoImplicit false

namespace ConfigReference.Yaml

/-- Where a step is taken. `start` is the mark of the first token there, such as the dash of an item
or the token in front of a key, and `mark` that of the event; `inBlock` holds if what stands next is
part of a block collection. -/
structure Spot where
  start : Mark
  mark : Mark
  inBlock : Bool
  deriving DecidableEq, Inhabited, Repr

structure Step where
  spot : Spot
  event : Event
  deriving DecidableEq, Inhabited, Repr

def Step.placed (s : Step) : PlacedEvent := ⟨s.event, s.spot.mark⟩

structure Opening where
  spot : Spot
  anchor : Option Nat
  tag : Option Tag
  deriving DecidableEq, Inhabited, Repr

inductive Outline where
  | scalar (spot : Spot) (text : String) (style : ScalarStyle) (anchor : Option Nat)
    (tag : Option Tag)
  | aliasTo (spot : Spot) (anchor : Nat)
  | sequence (opening : Opening) (items : List Outline) (close : Spot)
  | mapping (opening : Opening) (entries : List (Outline × Outline)) (close : Spot)
  deriving Inhabited

namespace Outline

def spot : Outline → Spot
  | scalar spot .. => spot
  | aliasTo spot _ => spot
  | sequence opening .. => opening.spot
  | mapping opening .. => opening.spot

mutual

/-- The steps that an outline is read in. -/
def steps : Outline → List Step
  | scalar spot text style anchor tag => [⟨spot, .scalar text style anchor tag⟩]
  | aliasTo spot anchor => [⟨spot, .aliasTo anchor⟩]
  | sequence opening items close =>
    ⟨opening.spot, .sequenceStart opening.anchor opening.tag⟩ ::
      (itemSteps items ++ [⟨close, .sequenceEnd⟩])
  | mapping opening entries close =>
    ⟨opening.spot, .mappingStart opening.anchor opening.tag⟩ ::
      (entrySteps entries ++ [⟨close, .mappingEnd⟩])

def itemSteps : List Outline → List Step
  | [] => []
  | item :: rest => item.steps ++ itemSteps rest

def entrySteps : List (Outline × Outline) → List Step
  | [] => []
  | (key, value) :: rest => key.steps ++ (value.steps ++ entrySteps rest)

end

theorem steps_ne_nil (t : Outline) : t.steps ≠ [] := by
  cases t <;> simp [steps]

theorem itemSteps_append (items more : List Outline) :
    itemSteps (items ++ more) = itemSteps items ++ itemSteps more := by
  induction items with
  | nil => rfl
  | cons item items ih => rw [List.cons_append, itemSteps, itemSteps, ih, List.append_assoc]

theorem entrySteps_append (entries more : List (Outline × Outline)) :
    entrySteps (entries ++ more) = entrySteps entries ++ entrySteps more := by
  induction entries with
  | nil => rfl
  | cons entry entries ih =>
    rw [List.cons_append, entrySteps, entrySteps, ih, List.append_assoc, List.append_assoc]

/-- A collection that is not complete: its parts so far, latest first. -/
inductive Open where
  | sequence (opening : Opening) (items : List Outline)
  | mapping (opening : Opening) (entries : List (Outline × Outline)) (pending : Option Outline)
  deriving Inhabited

def Open.steps : Open → List Step
  | .sequence opening items =>
    ⟨opening.spot, .sequenceStart opening.anchor opening.tag⟩ :: itemSteps items.reverse
  | .mapping opening entries pending =>
    ⟨opening.spot, .mappingStart opening.anchor opening.tag⟩ ::
      (entrySteps entries.reverse ++ pending.elim [] Outline.steps)

def Open.add (node : Outline) : Open → Open
  | .sequence opening items => .sequence opening (node :: items)
  | .mapping opening entries none => .mapping opening entries (some node)
  | .mapping opening entries (some key) => .mapping opening ((key, node) :: entries) none

theorem Open.steps_add (node : Outline) (o : Open) :
    (o.add node).steps = o.steps ++ node.steps := by
  cases o with
  | sequence opening items =>
    simp [Open.add, Open.steps, itemSteps_append, itemSteps]
  | mapping opening entries pending =>
    cases pending with
    | none => simp [Open.add, Open.steps]
    | some key => simp [Open.add, Open.steps, entrySteps_append, entrySteps]

theorem Open.add_inj {t u : Outline} {o p : Open} (h : o.add t = p.add u) : t = u := by
  cases o with
  | sequence opening items =>
    cases p with
    | sequence => cases h; rfl
    | mapping _ _ pending => cases pending <;> cases h
  | mapping opening entries pending =>
    cases p with
    | sequence => cases pending <;> cases h
    | mapping _ _ other => cases pending <;> cases other <;> cases h <;> rfl

theorem Open.steps_add_ne (o : Open) (t : Outline) (s : Step) : (o.add t).steps ≠ [s] := by
  intro h
  rw [Open.steps_add, List.append_eq_singleton_iff] at h
  rcases h with ⟨hNone, -⟩ | ⟨-, hNone⟩
  · cases o <;> cases hNone
  · exact t.steps_ne_nil hNone

end Outline

open Outline

/-- An outline in the making. The innermost collection comes first. -/
structure Draft where
  stack : List Open := []
  root : Option Outline := none
  deriving Inhabited

namespace Draft

def complete (node : Outline) : List Open → Draft
  | [] => { root := some node }
  | innermost :: rest => { stack := innermost.add node :: rest }

def advance (stack : List Open) (s : Step) : Option Draft :=
  match s.event with
  | .scalar text style anchor tag => some (complete (.scalar s.spot text style anchor tag) stack)
  | .aliasTo anchor => some (complete (.aliasTo s.spot anchor) stack)
  | .sequenceStart anchor tag => some { stack := .sequence ⟨s.spot, anchor, tag⟩ [] :: stack }
  | .mappingStart anchor tag => some { stack := .mapping ⟨s.spot, anchor, tag⟩ [] none :: stack }
  | .sequenceEnd =>
    match stack with
    | .sequence opening items :: rest =>
      some (complete (.sequence opening items.reverse s.spot) rest)
    | _ => none
  | .mappingEnd =>
    match stack with
    | .mapping opening entries none :: rest =>
      some (complete (.mapping opening entries.reverse s.spot) rest)
    | _ => none

/-- Take a step, if it is one that an unfinished outline can go on with. -/
def step (d : Draft) (s : Step) : Option Draft :=
  if d.root.isSome then none else advance d.stack s

theorem step_eq_some {d d' : Draft} {s : Step} :
    d.step s = some d' ↔ d.root = none ∧ advance d.stack s = some d' := by
  rw [step, Option.ite_none_left_eq_some]
  simp

def steps (d : Draft) : List Step :=
  d.stack.reverse.flatMap Open.steps ++ d.root.elim [] Outline.steps

theorem steps_complete (node : Outline) (stack : List Open) :
    (complete node stack).steps = stack.reverse.flatMap Open.steps ++ node.steps := by
  cases stack with
  | nil => rfl
  | cons innermost rest => simp [complete, steps, Open.steps_add]

/-- What a step does: it reads a node, opens a collection, or completes the innermost one. -/
theorem advance_cases {stack : List Open} {d : Draft} {s : Step} (h : advance stack s = some d) :
    (∃ node, node.steps = [s] ∧ d = complete node stack) ∨
      (∃ innermost, innermost.steps = [s] ∧ d = { stack := innermost :: stack }) ∨
      ∃ innermost rest node, stack = innermost :: rest ∧
        node.steps = innermost.steps ++ [s] ∧ d = complete node rest := by
  obtain ⟨spot, event⟩ := s
  unfold advance at h
  cases event with
  | scalar text style anchor tag =>
    cases h
    exact .inl ⟨_, rfl, rfl⟩
  | aliasTo anchor =>
    cases h
    exact .inl ⟨_, rfl, rfl⟩
  | sequenceStart anchor tag =>
    cases h
    exact .inr (.inl ⟨_, rfl, rfl⟩)
  | mappingStart anchor tag =>
    cases h
    exact .inr (.inl ⟨_, rfl, rfl⟩)
  | sequenceEnd =>
    dsimp only at h
    split at h
    · cases h
      exact .inr (.inr ⟨_, _, _, rfl, rfl, rfl⟩)
    · cases h
  | mappingEnd =>
    dsimp only at h
    split at h
    · cases h
      exact .inr (.inr ⟨_, _, _, rfl, by simp [Outline.steps, Open.steps], rfl⟩)
    · cases h

theorem steps_step {d d' : Draft} {s : Step} (h : d.step s = some d') :
    d'.steps = d.steps ++ [s] := by
  obtain ⟨hRoot, hAdvance⟩ := step_eq_some.mp h
  obtain ⟨node, hNode, rfl⟩ | ⟨innermost, hOpen, rfl⟩ |
    ⟨innermost, rest, node, hStack, hNode, rfl⟩ := advance_cases hAdvance
  · rw [steps_complete, hNode, steps, hRoot]
    simp
  · simp [steps, hOpen, hRoot]
  · rw [steps_complete, hNode, steps, hRoot, hStack]
    simp

theorem stack_complete {node : Outline} {stack : List Open}
    (hRoot : (complete node stack).root.isSome = true) : (complete node stack).stack = [] := by
  cases stack with
  | nil => rfl
  | cons innermost rest => cases hRoot

theorem stack_step {d d' : Draft} {s : Step} (h : d.step s = some d')
    (hRoot : d'.root.isSome = true) : d'.stack = [] := by
  obtain ⟨-, hAdvance⟩ := step_eq_some.mp h
  obtain ⟨node, -, rfl⟩ | ⟨innermost, -, rfl⟩ | ⟨innermost, rest, node, -, -, rfl⟩ :=
    advance_cases hAdvance
  · exact stack_complete hRoot
  · cases hRoot
  · exact stack_complete hRoot

def run (d : Draft) (steps : List Step) : Option Draft := steps.foldlM step d

theorem steps_run {d d' : Draft} {all : List Step} (h : d.run all = some d') :
    d'.steps = d.steps ++ all := by
  induction all generalizing d with
  | nil =>
    cases h
    simp
  | cons s rest ih =>
    obtain ⟨next, hStep, hRest⟩ := Option.bind_eq_some_iff.mp h
    rw [ih hRest, steps_step hStep, List.append_assoc, List.singleton_append]

theorem stack_run {d d' : Draft} {all : List Step} (h : d.run all = some d')
    (hStart : d.root.isSome = true → d.stack = []) (hRoot : d'.root.isSome = true) :
    d'.stack = [] := by
  induction all generalizing d with
  | nil =>
    cases h
    exact hStart hRoot
  | cons s rest ih =>
    obtain ⟨next, hStep, hRest⟩ := Option.bind_eq_some_iff.mp h
    exact ih hRest (stack_step hStep)

theorem steps_of_root {d : Draft} {all : List Step} {t : Outline} (h : run {} all = some d)
    (hRoot : d.root = some t) : all = t.steps := by
  have hSteps := steps_run h
  have hStack : d.stack = [] := stack_run h (by simp) (by rw [hRoot]; rfl)
  rw [steps, hStack, hRoot] at hSteps
  exact hSteps.symm

theorem run_append {d next : Draft} {before : List Step} (h : d.run before = some next)
    (after : List Step) : d.run (before ++ after) = next.run after := by
  rw [run, List.foldlM_append]
  exact congrArg (fun found => Option.bind found (run · after)) h

mutual

theorem run_steps : ∀ (t : Outline) (stack : List Open),
    run { stack } t.steps = some (complete t stack)
  | .scalar .., _ => rfl
  | .aliasTo .., _ => rfl
  | .sequence opening items close, stack => by
    have hItems := run_itemSteps items opening [] stack
    show run { stack := .sequence opening [] :: stack } (itemSteps items ++ _) = _
    rw [run_append hItems]
    show some (complete (.sequence opening (items.reverse ++ []).reverse close) stack) = _
    rw [List.append_nil, List.reverse_reverse]
  | .mapping opening entries close, stack => by
    have hEntries := run_entrySteps entries opening [] stack
    show run { stack := .mapping opening [] none :: stack } (entrySteps entries ++ _) = _
    rw [run_append hEntries]
    show some (complete (.mapping opening (entries.reverse ++ []).reverse close) stack) = _
    rw [List.append_nil, List.reverse_reverse]

theorem run_itemSteps : ∀ (items : List Outline) (opening : Opening) (before : List Outline)
    (stack : List Open), run { stack := .sequence opening before :: stack } (itemSteps items) =
      some { stack := .sequence opening (items.reverse ++ before) :: stack }
  | [], _, _, _ => rfl
  | item :: rest, opening, before, stack => by
    rw [itemSteps, run_append (run_steps item _), List.reverse_cons, List.append_assoc]
    exact run_itemSteps rest opening (item :: before) stack

theorem run_entrySteps : ∀ (entries : List (Outline × Outline)) (opening : Opening)
    (before : List (Outline × Outline)) (stack : List Open),
    run { stack := .mapping opening before none :: stack } (entrySteps entries) =
      some { stack := .mapping opening (entries.reverse ++ before) none :: stack }
  | [], _, _, _ => rfl
  | (key, value) :: rest, opening, before, stack => by
    have hKey : run { stack := .mapping opening before none :: stack } key.steps =
        some { stack := .mapping opening before (some key) :: stack } := run_steps key _
    rw [entrySteps, run_append hKey, run_append (run_steps value _), List.reverse_cons,
      List.append_assoc]
    exact run_entrySteps rest opening ((key, value) :: before) stack

end

theorem complete_inj {t u : Outline} {stack others : List Open}
    (h : complete t stack = complete u others) : t = u := by
  cases stack <;> cases others
  · cases h
    rfl
  · cases h
  · cases h
  · exact Open.add_inj (List.cons.inj (congrArg Draft.stack h)).1

/-- A node stands complete in a draft if it did so before the last step, or that step completes
it. -/
theorem complete_of_infix {d d' : Draft} {s : Step} {t : Outline}
    (hReached : run {} d.steps = some d) (hStep : d.step s = some d')
    (h : t.steps <:+: d'.steps) : t.steps <:+: d.steps ∨ ∃ stack, d' = complete t stack := by
  obtain ⟨before, after, hSteps⟩ := h
  have hAll := steps_step hStep
  rw [hAll] at hSteps
  rcases List.eq_nil_or_concat after with rfl | ⟨after, last, rfl⟩
  · refine Or.inr ?_
    rw [List.append_nil] at hSteps
    have hRun : run {} (before ++ t.steps) = some d' := by
      rw [hSteps, run_append hReached]
      exact congrArg (Option.bind · some) hStep
    rw [run, List.foldlM_append] at hRun
    obtain ⟨next, -, hNext⟩ := Option.bind_eq_some_iff.mp hRun
    obtain ⟨first, rest, hFirst⟩ := List.exists_cons_of_ne_nil t.steps_ne_nil
    have hUnfinished : next.root = none := by
      rw [hFirst] at hNext
      obtain ⟨following, hFollowing, -⟩ := Option.bind_eq_some_iff.mp hNext
      exact (step_eq_some.mp hFollowing).1
    obtain ⟨stack, root⟩ := next
    obtain rfl : root = none := hUnfinished
    exact ⟨stack, Option.some.inj (hNext.symm.trans (run_steps t stack))⟩
  · refine Or.inl ⟨before, after, ?_⟩
    rw [List.concat_eq_append, ← List.append_assoc] at hSteps
    exact (List.append_inj' hSteps rfl).1

end Draft

theorem Outline.steps_inj {t u : Outline} (h : t.steps = u.steps) : t = u := by
  have hSame := Draft.run_steps t []
  rw [h, Draft.run_steps] at hSame
  cases hSame
  rfl

end ConfigReference.Yaml
