import Mathlib.Data.List.Forall2
import Mathlib.Data.List.Perm.Basic
import ConfigReference.Proofs.Yaml.Placement
import ConfigReference.Proofs.Yaml.Spelling

/-!
# Composing a tree

What the builder makes of the events of a node: the tree that they spell, each alias holding a copy
of the node that carries its anchor. It fails at an alias to an anchor whose node is not complete.
-/

set_option autoImplicit false

namespace ConfigReference.Yaml

/-! ## Drafts and builders side by side -/

open Outline

def Frame.anchor? : Frame → Option Nat
  | sequence _ anchor _ => anchor
  | mapping _ anchor _ _ => anchor

namespace Builder

/-- The complete node that carries an anchor. -/
def known (b : Builder) (id : Nat) : Option Node := b.anchors.lookup id

def anchorsOf (stack : List Frame) : List Nat := stack.flatMap (·.anchor?.toList)

theorem anchors_complete (b : Builder) (n : Node) (anchor : Option Nat) :
    (b.complete n anchor).anchors = anchor.elim b.anchors fun id => (id, n) :: b.anchors := by
  unfold complete
  cases anchor <;> dsimp only <;> split <;> rfl

theorem known_complete (b : Builder) (n : Node) (anchor : Option Nat) (id : Nat) :
    (b.complete n anchor).known id = if anchor = some id then some n else b.known id := by
  rw [known, anchors_complete]
  cases anchor with
  | none => rfl
  | some other =>
    by_cases hId : other = id
    · simp [hId]
    · have hBeq : (id == other) = false := by simpa using Ne.symm hId
      simp [hId, List.lookup_cons, hBeq, known]

theorem anchorsOf_complete (b : Builder) (n : Node) (anchor : Option Nat) :
    anchorsOf (b.complete n anchor).stack = anchorsOf b.stack := by
  obtain ⟨stack, anchors, root⟩ := b
  cases anchor <;> cases stack with
  | nil => rfl
  | cons f rest => cases f with
    | sequence => rfl
    | mapping _ _ _ pending => cases pending <;> rfl

end Builder

namespace Outline

/-- An open collection of the builder holds what the one of the draft stands for. -/
inductive ReadsFrame (known : Nat → Option Node) : Open → Frame → Prop where
  | sequence {opening : Opening} {items : List Outline} {place : Place} {nodes : List Node}
    (hItems : ReadsItems known items.reverse nodes.reverse) :
    ReadsFrame known (.sequence opening items) (.sequence place opening.anchor nodes)
  | mapping {opening : Opening} {entries : List (Outline × Outline)} {place : Place}
    {nodes : List (Node × Node)} (hEntries : ReadsEntries known entries.reverse nodes.reverse) :
    ReadsFrame known (.mapping opening entries none) (.mapping place opening.anchor nodes none)
  | pending {opening : Opening} {entries : List (Outline × Outline)} {key : Outline}
    {place : Place} {nodes : List (Node × Node)} {keyNode : Node}
    (hEntries : ReadsEntries known entries.reverse nodes.reverse) (hKey : key.Reads known keyNode) :
    ReadsFrame known (.mapping opening entries (some key))
      (.mapping place opening.anchor nodes (some keyNode))

theorem ReadsFrame.mono {known more : Nat → Option Node}
    (hMore : ∀ id n, known id = some n → more id = some n) {o : Open} {f : Frame}
    (h : ReadsFrame known o f) : ReadsFrame more o f := by
  cases h with
  | sequence hItems => exact .sequence (hItems.mono hMore)
  | mapping hEntries => exact .mapping (hEntries.mono hMore)
  | pending hEntries hKey => exact .pending (hEntries.mono hMore) (hKey.mono hMore)

end Outline

/-! ## Steps -/

/-- A step completes a node on both sides: the draft's outline is what the builder's node stands
for. -/
structure Completes (b : Builder) (s : Step) (d' : Draft) (b' : Builder) (t : Outline) (n : Node)
    (frames : List Open) (stack : List Frame) : Prop where
  draft : d' = Draft.complete t frames
  builder : b' = Builder.complete { b with stack } n t.anchor?
  frames : List.Forall₂ (ReadsFrame b.known) frames stack
  reads : t.Reads b.known n
  anchors : s.event.anchor?.toList ++ Builder.anchorsOf b.stack =
    t.anchor?.toList ++ Builder.anchorsOf stack

structure Opens (d : Draft) (b : Builder) (s : Step) (d' : Draft) (b' : Builder) (o : Open)
    (f : Frame) : Prop where
  draft : d' = { stack := o :: d.stack }
  builder : b' = { b with stack := f :: b.stack }
  frame : ReadsFrame b.known o f
  isNew : o.steps = [s]
  anchor : f.anchor? = s.event.anchor?

theorem step_cases {lines : List (List Char)} {d d' : Draft} {b b' : Builder} {s : Step}
    (hStack : List.Forall₂ (ReadsFrame b.known) d.stack b.stack)
    (hDraft : Draft.advance d.stack s = some d') (hBuilder : b.step lines s.placed = .ok b') :
    (∃ t n frames stack, Completes b s d' b' t n frames stack) ∨ ∃ o f, Opens d b s d' b' o f := by
  obtain ⟨spot, event⟩ := s
  unfold Draft.advance at hDraft
  unfold Builder.step at hBuilder
  dsimp only [Step.placed] at hDraft hBuilder
  cases event with
  | scalar text style anchor tag =>
    cases hDraft
    cases hBuilder
    exact Or.inl ⟨.scalar spot text style anchor tag, _, _, b.stack, rfl, rfl, hStack, ⟨_, rfl⟩, rfl⟩
  | aliasTo id =>
    dsimp only at hBuilder
    split at hBuilder
    · rename_i target hTarget
      cases hDraft
      cases hBuilder
      exact Or.inl ⟨.aliasTo spot id, _, _, b.stack, rfl, rfl, hStack, ⟨_, target, rfl, hTarget⟩, rfl⟩
    · cases hBuilder
  | sequenceStart anchor tag =>
    cases hDraft
    cases hBuilder
    exact Or.inr ⟨_, _, rfl, rfl, .sequence rfl, rfl, rfl⟩
  | mappingStart anchor tag =>
    cases hDraft
    cases hBuilder
    exact Or.inr ⟨_, _, rfl, rfl, .mapping rfl, rfl, rfl⟩
  | sequenceEnd =>
    dsimp only at hDraft
    split at hDraft
    · rename_i opening items rest hFrames
      cases hDraft
      rw [hFrames] at hStack
      obtain ⟨stack, anchors, root⟩ := b
      cases hStack with
      | @cons _ _ _ stack hFrame hRest =>
        cases hFrame with
        | sequence hItems =>
          cases hBuilder
          exact Or.inl ⟨.sequence opening items.reverse spot, _, rest, stack, rfl, rfl, hRest,
            ⟨_, _, rfl, hItems⟩, rfl⟩
    · cases hDraft
  | mappingEnd =>
    dsimp only at hDraft
    split at hDraft
    · rename_i opening entries rest hFrames
      cases hDraft
      rw [hFrames] at hStack
      obtain ⟨stack, anchors, root⟩ := b
      cases hStack with
      | @cons _ _ _ stack hFrame hRest =>
        cases hFrame with
        | mapping hEntries =>
          cases hBuilder
          refine Or.inl ⟨.mapping opening entries.reverse spot, _, rest, stack, rfl, rfl, hRest,
            ⟨_, _, rfl, ?_⟩, rfl⟩
          split
          · exact hEntries.adoptFirstKey _
          · exact hEntries
    · cases hDraft

/-- What a builder has composed of the steps of a draft, while some events are still to come. -/
structure Composing (d : Draft) (b : Builder) (rest : List PlacedEvent) : Prop where
  reached : Draft.run {} d.steps = some d
  stack : List.Forall₂ (ReadsFrame b.known) d.stack b.stack
  root : Option.Rel (Reads b.known) d.root b.root
  /-- Each complete node with an anchor is known by it. -/
  anchored : ∀ (t : Outline) (id : Nat), t.steps <:+: d.steps → t.anchor? = some id →
    ∃ n, b.known id = some n ∧ t.Reads b.known n
  /-- Nothing else is known. -/
  isComplete : ∀ id n, b.known id = some n →
    ∃ t : Outline, t.steps <:+: d.steps ∧ t.anchor? = some id
  plain : ∀ id n, b.known id = some n → n.isAlias = false ∧ n.HasPlainTargets
  once : (b.anchors.map (·.1) ++
    (Builder.anchorsOf b.stack ++ PlacedEvent.anchors rest)).Nodup

namespace Composing

variable {lines : List (List Char)} {d d' : Draft} {b b' : Builder} {rest : List PlacedEvent}
  {s : Step}

theorem start {events : List PlacedEvent} (h : (PlacedEvent.anchors events).Nodup) :
    Composing {} {} events where
  reached := rfl
  stack := .nil
  root := .none
  anchored t id hInfix _ := absurd (List.infix_nil.mp hInfix) t.steps_ne_nil
  isComplete id n hKnown := by cases hKnown
  plain id n hKnown := by cases hKnown
  once := h

theorem complete {known : Nat → Option Node} {frames : List Open} {b : Builder} {t : Outline}
    {n : Node} (hFrames : List.Forall₂ (ReadsFrame known) frames b.stack) (hRoot : b.root = none)
    (hNode : t.Reads known n) (anchor : Option Nat) :
    List.Forall₂ (ReadsFrame known) (Draft.complete t frames).stack (b.complete n anchor).stack ∧
      Option.Rel (Reads known) (Draft.complete t frames).root (b.complete n anchor).root := by
  obtain ⟨stack, anchors, root⟩ := b
  obtain rfl : root = none := hRoot
  obtain ⟨registered, hRegistered⟩ : ∃ registered, Builder.complete ⟨stack, anchors, none⟩ n anchor =
      Builder.complete ⟨stack, registered, none⟩ n none := by
    cases anchor with
    | none => exact ⟨anchors, rfl⟩
    | some id => exact ⟨(id, n) :: anchors, rfl⟩
  -- registering the node leaves the open collections as they are
  rw [hRegistered]
  cases hFrames with
  | nil => exact ⟨.nil, .some hNode⟩
  | cons hFrame hRest =>
    cases hFrame with
    | sequence hItems =>
      refine ⟨.cons (.sequence ?_) hRest, .none⟩
      rw [List.reverse_cons, List.reverse_cons]
      exact hItems.append ⟨n, [], rfl, hNode, rfl⟩
    | mapping hEntries => exact ⟨.cons (.pending hEntries hNode) hRest, .none⟩
    | pending hEntries hKey =>
      refine ⟨.cons (.mapping ?_) hRest, .none⟩
      rw [List.reverse_cons, List.reverse_cons]
      exact hEntries.append ⟨_, n, [], rfl, hKey, hNode, rfl⟩

theorem root_eq_none (h : Composing d b rest) (hRoot : d.root = none) : b.root = none := by
  have hRel := h.root
  rw [hRoot] at hRel
  exact eq_none_of_rel hRel

theorem reached_step (h : Composing d b rest) (hDraft : d.step s = some d') :
    Draft.run {} d'.steps = some d' := by
  rw [Draft.steps_step hDraft, Draft.run_append h.reached]
  exact congrArg (Option.bind · some) hDraft

theorem isComplete_step (h : Composing d b rest) (hDraft : d.step s = some d') {id : Nat}
    {n : Node} (hKnown : b.known id = some n) :
    ∃ t : Outline, t.steps <:+: d'.steps ∧ t.anchor? = some id := by
  obtain ⟨t, hInfix, hAnchor⟩ := h.isComplete id n hKnown
  rw [Draft.steps_step hDraft]
  exact ⟨t, hInfix.trans (List.prefix_append _ _).isInfix, hAnchor⟩

section

variable {t : Outline} {n : Node} {frames : List Open} {stack : List Frame}

theorem once_of_completes (h : Composing d b (s.placed :: rest))
    (c : Completes b s d' b' t n frames stack) :
    (b.anchors.map (·.1) ++
      (t.anchor?.toList ++ (Builder.anchorsOf stack ++ PlacedEvent.anchors rest))).Nodup := by
  refine (List.Perm.nodup_iff (List.Perm.append_left _ ?_)).mp h.once
  rw [← List.append_assoc t.anchor?.toList, ← c.anchors, PlacedEvent.anchors, List.flatMap_cons,
    ← List.append_assoc]
  exact List.perm_append_comm.append_right _

theorem known_eq_none (h : Composing d b (s.placed :: rest))
    (c : Completes b s d' b' t n frames stack) {id : Nat} (hAnchor : t.anchor? = some id) :
    b.known id = none := by
  cases hKnown : b.known id with
  | none => rfl
  | some m =>
    obtain ⟨before, after, hAnchors, -⟩ := List.lookup_eq_some_iff.mp hKnown
    have hMem : id ∈ b.anchors.map (·.1) := by simp [hAnchors]
    obtain ⟨-, -, hApart⟩ := List.nodup_append.mp (h.once_of_completes c)
    exact absurd rfl (hApart id hMem id (by simp [hAnchor]))

theorem known_of_completes (h : Composing d b (s.placed :: rest))
    (c : Completes b s d' b' t n frames stack) (id : Nat) (m : Node) (hKnown : b.known id = some m) :
    b'.known id = some m := by
  rw [c.builder, Builder.known_complete, if_neg]
  · exact hKnown
  · intro hAnchor
    rw [h.known_eq_none c hAnchor] at hKnown
    cases hKnown

theorem step_of_completes (h : Composing d b (s.placed :: rest)) (hDraft : d.step s = some d')
    (c : Completes b s d' b' t n frames stack) : Composing d' b' rest := by
  have hMore := h.known_of_completes c
  have hNode : t.Reads b'.known n := c.reads.mono hMore
  have hNew (id : Nat) (hAnchor : t.anchor? = some id) : b'.known id = some n := by
    rw [c.builder, Builder.known_complete, if_pos hAnchor]
  have hOld (id : Nat) (hAnchor : t.anchor? ≠ some id) : b'.known id = b.known id := by
    rw [c.builder, Builder.known_complete, if_neg hAnchor]
    rfl
  have hParts : List.Forall₂ (ReadsFrame b'.known) d'.stack b'.stack ∧
      Option.Rel (Reads b'.known) d'.root b'.root := by
    have hFrames := c.frames.imp fun _ _ hFrame => hFrame.mono hMore
    have hRoot : b.root = none := h.root_eq_none (Draft.step_eq_some.mp hDraft).1
    have hComplete := complete (b := { b with stack }) hFrames hRoot hNode t.anchor?
    rwa [← c.builder, ← c.draft] at hComplete
  refine ⟨h.reached_step hDraft, hParts.1, hParts.2, ?anchored, ?isComplete, ?plain, ?once⟩
  case anchored =>
    intro u id hInfix hAnchor
    rcases Draft.complete_of_infix h.reached hDraft hInfix with hBefore | ⟨others, hComplete⟩
    · obtain ⟨m, hKnown, hReads⟩ := h.anchored u id hBefore hAnchor
      exact ⟨m, hMore id m hKnown, hReads.mono hMore⟩
    · rw [c.draft] at hComplete
      obtain rfl := Draft.complete_inj hComplete
      exact ⟨n, hNew id hAnchor, hNode⟩
  case isComplete =>
    intro id m hKnown
    by_cases hAnchor : t.anchor? = some id
    · refine ⟨t, List.IsSuffix.isInfix ?_, hAnchor⟩
      rw [c.draft, Draft.steps_complete]
      exact List.suffix_append _ _
    · rw [hOld id hAnchor] at hKnown
      exact h.isComplete_step hDraft hKnown
  case plain =>
    intro id m hKnown
    by_cases hAnchor : t.anchor? = some id
    · obtain rfl : n = m := Option.some.inj ((hNew id hAnchor).symm.trans hKnown)
      exact ⟨c.reads.isAlias_eq_false hAnchor, c.reads.hasPlainTargets h.plain⟩
    · rw [hOld id hAnchor] at hKnown
      exact h.plain id m hKnown
  case once =>
    have hKeys : b'.anchors.map (·.1) = t.anchor?.toList ++ b.anchors.map (·.1) := by
      rw [c.builder, Builder.anchors_complete]
      cases t.anchor? <;> rfl
    have hStack : Builder.anchorsOf b'.stack = Builder.anchorsOf stack := by
      rw [c.builder, Builder.anchorsOf_complete]
    -- the anchor of the node has only moved to those of the complete nodes
    rw [hKeys, hStack]
    refine (List.Perm.nodup_iff ?_).mp (h.once_of_completes c)
    rw [← List.append_assoc]
    exact List.perm_append_comm.append_right _

theorem step_of_opens {o : Open} {f : Frame} (h : Composing d b (s.placed :: rest))
    (hDraft : d.step s = some d') (c : Opens d b s d' b' o f) : Composing d' b' rest := by
  have hKnown : b'.known = b.known := by
    rw [c.builder]
    rfl
  have hRoot : b.root = none := h.root_eq_none (Draft.step_eq_some.mp hDraft).1
  refine ⟨h.reached_step hDraft, ?stack, ?root, ?anchored, ?isComplete, ?plain, ?once⟩
  case stack =>
    rw [hKnown, c.draft, c.builder]
    exact .cons c.frame h.stack
  case root =>
    rw [c.draft, c.builder]
    show Option.Rel _ none b.root
    rw [hRoot]
    exact .none
  case anchored =>
    intro u id hInfix hAnchor
    rw [hKnown]
    rcases Draft.complete_of_infix h.reached hDraft hInfix with hBefore | ⟨others, hComplete⟩
    · exact h.anchored u id hBefore hAnchor
    · -- the collection that was opened has no part yet
      rw [c.draft] at hComplete
      cases others with
      | nil => cases hComplete
      | cons p others =>
        have hSame : o = p.add u := (List.cons.inj (congrArg Draft.stack hComplete)).1
        exact absurd (hSame ▸ c.isNew) (p.steps_add_ne u s)
  case isComplete =>
    intro id m hM
    rw [hKnown] at hM
    exact h.isComplete_step hDraft hM
  case plain =>
    rw [hKnown]
    exact h.plain
  case once =>
    have hStack : Builder.anchorsOf b'.stack =
        s.event.anchor?.toList ++ Builder.anchorsOf b.stack := by
      rw [c.builder, ← c.anchor]
      rfl
    have hKeys : b'.anchors = b.anchors := by rw [c.builder]
    rw [hKeys, hStack]
    refine (List.Perm.nodup_iff (List.Perm.append_left _ ?_)).mp h.once
    rw [PlacedEvent.anchors, List.flatMap_cons, ← List.append_assoc]
    exact List.perm_append_comm.append_right _

end

theorem step (h : Composing d b (s.placed :: rest)) (hDraft : d.step s = some d')
    (hBuilder : b.step lines s.placed = .ok b') : Composing d' b' rest := by
  obtain ⟨t, n, frames, stack, hCompletes⟩ | ⟨o, f, hOpens⟩ :=
    step_cases h.stack (Draft.step_eq_some.mp hDraft).2 hBuilder
  · exact h.step_of_completes hDraft hCompletes
  · exact h.step_of_opens hDraft hOpens

theorem run {events : List PlacedEvent} (h : Composing d b (events ++ rest))
    (hDraft : d.run (events.map PlacedEvent.step) = some d')
    (hBuilder : events.foldlM (Builder.step lines) b = .ok b') : Composing d' b' rest := by
  induction events generalizing d b with
  | nil =>
    cases hDraft
    cases hBuilder
    exact h
  | cons e events ih =>
    obtain ⟨next, hStep, hRest⟩ := Option.bind_eq_some_iff.mp hDraft
    rw [List.foldlM_cons] at hBuilder
    cases hNext : b.step lines e with
    | error fault =>
      rw [hNext] at hBuilder
      cases hBuilder
    | ok following =>
      rw [hNext] at hBuilder
      exact ih (step (s := e.step) h hStep hNext) hRest hBuilder

end Composing

/-! ## The whole run -/

theorem Builder.step_eq_error {lines : List (List Char)} {b : Builder} {e : PlacedEvent}
    {fault : UnresolvedAlias} (h : b.step lines e = .error fault) :
    ∃ id mark, e = ⟨.aliasTo id, mark⟩ ∧ b.known id = none := by
  obtain ⟨event, mark⟩ := e
  unfold step at h
  cases event with
  | aliasTo id =>
    dsimp only at h
    split at h
    · cases h
    · exact ⟨id, mark, rfl, ‹_›⟩
  | sequenceEnd =>
    dsimp only at h
    split at h <;> cases h
  | mappingEnd =>
    dsimp only at h
    split at h <;> cases h
  | _ => cases h

theorem exists_of_foldlM_eq_error {lines : List (List Char)} {events : List PlacedEvent}
    {b : Builder} {fault : UnresolvedAlias}
    (h : events.foldlM (Builder.step lines) b = .error fault) :
    ∃ before e after b', events = before ++ e :: after ∧
      before.foldlM (Builder.step lines) b = .ok b' ∧ b'.step lines e = .error fault := by
  induction events generalizing b with
  | nil => cases h
  | cons e events ih =>
    rw [List.foldlM_cons] at h
    cases hStep : b.step lines e with
    | error first =>
      rw [hStep] at h
      exact ⟨[], e, events, b, rfl, rfl, hStep.trans h⟩
    | ok next =>
      rw [hStep] at h
      obtain ⟨before, last, after, b', rfl, hBefore, hFault⟩ := ih h
      refine ⟨e :: before, last, after, b', rfl, ?_, hFault⟩
      rw [List.foldlM_cons, hStep]
      exact hBefore

/-- A node that carries an anchor stands complete in some events. -/
def IsCompleteIn (events : List PlacedEvent) (id : Nat) : Prop :=
  ∃ t : Outline, t.steps <:+: events.map PlacedEvent.step ∧ t.anchor? = some id

/-- An alias stands in front of the end of the node that it names, or there is no such node. -/
def HasDanglingAlias (events : List PlacedEvent) : Prop :=
  ∃ before id mark after, events = before ++ ⟨.aliasTo id, mark⟩ :: after ∧
    ¬IsCompleteIn before id

/-- A node is the tree that events spell, and its aliases hold copies of the nodes that carry the
anchors in them. -/
structure Composes (t : Outline) (events : List PlacedEvent) (root : Node) : Prop where
  spells : t.SpellsOut events
  tree : ∃ known, t.Reads known root ∧
    ∀ (u : Outline) (id : Nat), u.steps <:+: events.map PlacedEvent.step → u.anchor? = some id →
      ∃ n, known id = some n ∧ u.Reads known n

theorem exists_composing {lines : List (List Char)} {events before after : List PlacedEvent}
    {t : Outline} {b : Builder} (hSpells : t.SpellsOut events)
    (hOnce : (PlacedEvent.anchors events).Nodup) (hEvents : events = before ++ after)
    (hBuilder : before.foldlM (Builder.step lines) {} = .ok b) :
    ∃ d : Draft, d.steps = before.map PlacedEvent.step ∧ Composing d b after := by
  have hRun := Draft.run_steps t []
  rw [hSpells, hEvents, List.map_append, Draft.run, List.foldlM_append] at hRun
  obtain ⟨d, hDraft, -⟩ := Option.bind_eq_some_iff.mp hRun
  rw [hEvents] at hOnce
  refine ⟨d, ?_, (Composing.start hOnce).run hDraft hBuilder⟩
  simpa [Draft.steps] using Draft.steps_run hDraft

section

variable {lines : List (List Char)} {events : List PlacedEvent} {t : Outline}

theorem hasDanglingAlias_of_fault (hSpells : t.SpellsOut events)
    (hOnce : (PlacedEvent.anchors events).Nodup) {fault : UnresolvedAlias}
    (hFault : Node.ofEvents lines events = .error fault) : HasDanglingAlias events := by
  cases hRun : events.foldlM (Builder.step lines) {} with
  | ok b =>
    rw [Node.ofEvents, hRun] at hFault
    cases hFault
  | error first =>
    obtain ⟨before, e, after, b, hEvents, hBefore, hStep⟩ := exists_of_foldlM_eq_error hRun
    obtain ⟨id, mark, rfl, hUnknown⟩ := Builder.step_eq_error hStep
    obtain ⟨d, hSteps, hComposing⟩ := exists_composing hSpells hOnce hEvents hBefore
    refine ⟨before, id, mark, after, hEvents, ?_⟩
    rintro ⟨u, hInfix, hAnchor⟩
    obtain ⟨n, hKnown, -⟩ := hComposing.anchored u id (hSteps ▸ hInfix) hAnchor
    rw [hUnknown] at hKnown
    cases hKnown

theorem not_hasDanglingAlias_of_ok (hSpells : t.SpellsOut events)
    (hOnce : (PlacedEvent.anchors events).Nodup) {found : Option Node}
    (hFound : Node.ofEvents lines events = .ok found) : ¬HasDanglingAlias events := by
  rintro ⟨before, id, mark, after, hEvents, hDangling⟩
  obtain ⟨b, hRun, -⟩ := Node.ofEvents_ok hFound
  rw [hEvents, List.foldlM_append] at hRun
  cases hBefore : before.foldlM (Builder.step lines) {} with
  | error fault =>
    rw [hBefore] at hRun
    cases hRun
  | ok next =>
    obtain ⟨d, hSteps, hComposing⟩ := exists_composing hSpells hOnce hEvents hBefore
    have hUnknown : next.anchors.lookup id = none := by
      cases hKnown : next.anchors.lookup id with
      | none => rfl
      | some n =>
        obtain ⟨u, hInfix, hAnchor⟩ := hComposing.isComplete id n hKnown
        exact absurd ⟨u, hSteps ▸ hInfix, hAnchor⟩ hDangling
    rw [hBefore] at hRun
    simp [bind, Except.bind, Builder.step, hUnknown] at hRun

theorem composes_of_ok (hSpells : t.SpellsOut events) (hOnce : (PlacedEvent.anchors events).Nodup)
    {found : Option Node} (hFound : Node.ofEvents lines events = .ok found) :
    ∃ root, found = some root ∧ Composes t events root ∧ root.HasPlainTargets := by
  obtain ⟨b, hRun, rfl⟩ := Node.ofEvents_ok hFound
  have hDraft : Draft.run {} (events.map PlacedEvent.step) = some { root := some t } := by
    rw [← hSpells]
    exact Draft.run_steps t []
  have hStart : Composing {} {} (events ++ []) := .start (by rwa [List.append_nil])
  have hComposing := hStart.run hDraft hRun
  obtain ⟨root, hFinal, hReads⟩ := exists_of_rel_some hComposing.root
  refine ⟨root, hFinal, ⟨hSpells, b.known, hReads, ?_⟩, hReads.hasPlainTargets hComposing.plain⟩
  intro u id hInfix hAnchor
  refine hComposing.anchored u id ?_ hAnchor
  rwa [← hSpells] at hInfix

end

/-- What a builder makes of the events of one node, whose anchors are given once: the tree that they
spell. It fails exactly if an alias names an anchor whose node is not complete before it. -/
theorem builder_inverts_events (lines : List (List Char)) {events : List PlacedEvent}
    (hNode : SpellsNode events) (hOnce : (PlacedEvent.anchors events).Nodup) :
    ((∃ fault, Node.ofEvents lines events = .error fault) ↔ HasDanglingAlias events) ∧
    ∀ found, Node.ofEvents lines events = .ok found →
      ∃ t root, found = some root ∧ Composes t events root ∧ root.HasPlainTargets := by
  obtain ⟨t, hSpells⟩ := exists_spellsOut hNode
  refine ⟨⟨?_, ?_⟩, ?_⟩
  · rintro ⟨fault, hFault⟩
    exact hasDanglingAlias_of_fault hSpells hOnce hFault
  · intro hDangling
    cases hBuilt : Node.ofEvents lines events with
    | error fault => exact ⟨fault, rfl⟩
    | ok found => exact absurd hDangling (not_hasDanglingAlias_of_ok hSpells hOnce hBuilt)
  · intro found hFound
    exact ⟨t, composes_of_ok hSpells hOnce hFound⟩

def wordsEvents : List PlacedEvent := [
  ⟨.sequenceStart (some 1) none, ⟨2, 1, 2⟩⟩, ⟨.scalar "x" .plain (some 2) none, ⟨4, 1, 4⟩⟩,
  ⟨.aliasTo 2, ⟨6, 1, 6⟩⟩, ⟨.sequenceEnd, ⟨8, 1, 8⟩⟩]

def listEvents : List PlacedEvent :=
  ⟨.sequenceStart none none, ⟨0, 1, 0⟩⟩ ::
    (wordsEvents ++ [⟨.aliasTo 1, ⟨10, 1, 10⟩⟩, ⟨.sequenceEnd, ⟨12, 1, 12⟩⟩])

def enclosedEvents : List PlacedEvent := [
  ⟨.sequenceStart (some 1) none, ⟨0, 1, 0⟩⟩, ⟨.aliasTo 1, ⟨2, 1, 2⟩⟩, ⟨.sequenceEnd, ⟨4, 1, 4⟩⟩]

def wordsNode : Node :=
  .sequence ⟨1, 3, ""⟩ [.scalar ⟨1, 5, ""⟩ .str "x",
    .aliasTo ⟨1, 7, ""⟩ (.scalar ⟨1, 5, ""⟩ .str "x")]

theorem builder_inverts_events_of_lists :
    (∃ t, Composes t listEvents
      (.sequence ⟨1, 1, ""⟩ [wordsNode, .aliasTo ⟨1, 11, ""⟩ wordsNode])) ∧
    HasDanglingAlias enclosedEvents := by
  have hPair {first second : List PlacedEvent} (hFirst : SpellsNode first)
      (hSecond : SpellsNode second) : ∀ node ∈ [first, second], SpellsNode node :=
    List.forall_mem_cons.mpr ⟨hFirst, List.forall_mem_singleton.mpr hSecond⟩
  have hWords : SpellsNode wordsEvents :=
    .sequence ⟨2, 1, 2⟩ ⟨8, 1, 8⟩ (some 1) none
      (hPair (.scalar ⟨4, 1, 4⟩ "x" .plain (some 2) none) (.aliasTo ⟨6, 1, 6⟩ 2))
  have hList : SpellsNode listEvents :=
    .sequence ⟨0, 1, 0⟩ ⟨12, 1, 12⟩ none none (hPair hWords (.aliasTo ⟨10, 1, 10⟩ 1))
  have hEnclosed : SpellsNode enclosedEvents :=
    .sequence ⟨0, 1, 0⟩ ⟨4, 1, 4⟩ (some 1) none
      (List.forall_mem_singleton.mpr (.aliasTo ⟨2, 1, 2⟩ 1))
  constructor
  · obtain ⟨t, root, hRoot, hComposes, -⟩ :=
      (builder_inverts_events [] hList (by decide)).2 _ rfl
    obtain rfl := Option.some.inj hRoot
    exact ⟨t, hComposes⟩
  · exact (builder_inverts_events [] hEnclosed (by decide)).1.mp ⟨_, rfl⟩

end ConfigReference.Yaml
