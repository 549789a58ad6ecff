import ConfigReference.Yaml.Event.Grammar

/-!
# Steps of the grammar

What the automaton can do in a state: read a node or the start of one, end a collection, or open and
close a mapping that is a single pair. State and stack alone say what an event leads to; the tokens
choose the event.
-/

set_option autoImplicit false

namespace ConfigReference.Yaml

def Event.isLeaf : Event → Bool
  | .scalar .. => true
  | .aliasTo _ => true
  | _ => false

namespace Expect

def readsItems : Expect → Bool
  | .blockSequenceEntry _ => true
  | .indentlessEntry => true
  | .flowSequenceEntry _ => true
  | _ => false

/-- Whether the keys of a mapping are read that has a start and an end of its own. -/
def readsKeys : Expect → Bool
  | .blockMappingKey _ => true
  | .flowMappingKey _ => true
  | _ => false

inductive Follows : Expect → Expect → Prop where
  | blockItem (first : Bool) : Follows (.blockSequenceEntry first) (.blockSequenceEntry false)
  | indentlessItem : Follows .indentlessEntry .indentlessEntry
  | flowItem (first : Bool) : Follows (.flowSequenceEntry first) (.flowSequenceEntry false)
  | blockKey (first : Bool) : Follows (.blockMappingKey first) .blockMappingValue
  | blockValue : Follows .blockMappingValue (.blockMappingKey false)
  | flowKey (first left : Bool) : Follows (.flowMappingKey first) (.flowMappingValue left)
  | flowValue (left : Bool) : Follows (.flowMappingValue left) (.flowMappingKey false)
  | pairKey : Follows .pairKey .pairValue
  | pairValue : Follows .pairValue .pairEnd

/-- The events that may begin a node, with the state and the stack that they lead to. A node that is
complete leads to the state on top of the stack. -/
inductive Begins (stack : List Expect) : Event → Expect → List Expect → Prop where
  | leaf {event : Event} (hLeaf : event.isLeaf = true) :
    Begins stack event (stack.headD .documentEnd) (stack.drop 1)
  | sequence (anchor : Option Nat) (tag : Option Tag) {state : Expect}
    (hItems : state.readsItems = true) : Begins stack (.sequenceStart anchor tag) state stack
  | mapping (anchor : Option Nat) (tag : Option Tag) {state : Expect}
    (hKeys : state.readsKeys = true) : Begins stack (.mappingStart anchor tag) state stack

/-- The events of a state and what they lead to. -/
inductive Transition : Expect → List Expect → Event → Expect → List Expect → Prop where
  | root {state state' : Expect} {stack stack' : List Expect} {event : Event}
    (hState : state = .node ∨ state = .documentContent) (h : Begins stack event state' stack') :
    Transition state stack event state' stack'
  | part {state next state' : Expect} {stack stack' : List Expect} {event : Event}
    (hNext : Follows state next) (h : Begins (next :: stack) event state' stack') :
    Transition state stack event state' stack'
  | sequenceEnd {state : Expect} {stack : List Expect} (hItems : state.readsItems = true) :
    Transition state stack .sequenceEnd (stack.headD .documentEnd) (stack.drop 1)
  | mappingEnd {state : Expect} {stack : List Expect} (hKeys : state.readsKeys = true) :
    Transition state stack .mappingEnd (stack.headD .documentEnd) (stack.drop 1)
  | pairStart (first : Bool) {stack : List Expect} :
    Transition (.flowSequenceEntry first) stack (.mappingStart none none) .pairKey stack
  | pairEnd {stack : List Expect} :
    Transition .pairEnd stack .mappingEnd (.flowSequenceEntry false) stack

theorem Transition.omitted {state next : Expect} (hNext : Follows state next)
    (stack : List Expect) : Transition state stack .omitted next stack :=
  .part hNext (.leaf rfl)

end Expect

namespace Parse

open Expect

variable {α β : Type} {g g' : Grammar}

theorem bind_ok {x : Parse α} {f : α → Parse β} {b : β} (h : (x >>= f) g = .ok (b, g')) :
    ∃ a g₁, x g = .ok (a, g₁) ∧ f a g₁ = .ok (b, g') := by
  cases hx : x g with
  | error e =>
    have hError : (x >>= f) g = .error e := by
      show Except.bind (x g) _ = _
      rw [hx]
      rfl
    rw [hError] at h
    cases h
  | ok first =>
    have hOk : (x >>= f) g = f first.1 first.2 := by
      show Except.bind (x g) _ = _
      rw [hx]
      rfl
    exact ⟨first.1, first.2, rfl, hOk ▸ h⟩

theorem pure_ok {a b : α} (h : (pure a : Parse α) g = .ok (b, g')) : b = a ∧ g' = g := by
  cases h
  exact ⟨rfl, rfl⟩

theorem peek_ok {t : PlacedToken} (h : peek g = .ok (t, g')) : g' = g := by
  obtain ⟨tokens, error, state, stack, anchors, tags⟩ := g
  cases tokens with
  | nil => cases h
  | cons first rest =>
    cases h
    rfl

def Stays (g g' : Grammar) : Prop := g'.state = g.state ∧ g'.stack = g.stack

/-- A reader that changes neither the state nor the stack. -/
def KeepsState (x : Parse α) : Prop := ∀ g a g', x g = .ok (a, g') → Stays g g'

theorem Stays.trans {g₁ g₂ g₃ : Grammar} (h : Stays g₁ g₂) (h' : Stays g₂ g₃) : Stays g₁ g₃ :=
  ⟨h'.1.trans h.1, h'.2.trans h.2⟩

namespace KeepsState

theorem bind {x : Parse α} {f : α → Parse β} (hx : KeepsState x) (hf : ∀ a, KeepsState (f a)) :
    KeepsState (x >>= f) := by
  intro g b g' h
  obtain ⟨a, g₁, hFirst, hRest⟩ := bind_ok h
  exact (hx _ _ _ hFirst).trans (hf a _ _ _ hRest)

theorem pure (a : α) : KeepsState (Pure.pure a : Parse α) := by
  intro g b g' h
  obtain ⟨-, rfl⟩ := pure_ok h
  exact ⟨rfl, rfl⟩

theorem failAt (mark : Mark) (fault : Fault) : KeepsState (failAt mark fault : Parse α) := by
  intro g b g' h
  cases h

theorem get : KeepsState (MonadState.get : Parse Grammar) := by
  intro g b g' h
  cases h
  exact ⟨rfl, rfl⟩

theorem peek : KeepsState peek := by
  intro g b g' h
  rw [peek_ok h]
  exact ⟨rfl, rfl⟩

theorem skip : KeepsState skip := by
  intro g b g' h
  cases h
  exact ⟨rfl, rfl⟩

theorem ite {c : Prop} [Decidable c] {x y : Parse α} (hx : KeepsState x) (hy : KeepsState y) :
    KeepsState (if c then x else y) := by
  split
  · exact hx
  · exact hy

theorem registerAnchor (name : String) : KeepsState (registerAnchor name) := by
  intro g b g' h
  cases h
  exact ⟨rfl, rfl⟩

theorem resolveTag (mark : Mark) (handle suffix : String) :
    KeepsState (resolveTag mark handle suffix) := by
  refine get.bind fun g => ?_
  dsimp only
  split
  · exact pure _
  · exact ite (pure _) (ite (failAt _ _) (pure _))

theorem properties : KeepsState properties := by
  refine peek.bind fun t => ?_
  split
  · refine skip.bind fun _ => (registerAnchor _).bind fun number => peek.bind fun next => ?_
    split
    · exact skip.bind fun _ => (resolveTag _ _ _).bind fun _ => pure _
    · exact pure _
  · refine skip.bind fun _ => (resolveTag _ _ _).bind fun tag => peek.bind fun next => ?_
    split
    · exact skip.bind fun _ => (registerAnchor _).bind fun _ => pure _
    · exact pure _
  · exact pure _

theorem skipIf (first : Bool) : KeepsState (skipIf first) :=
  ite (peek.bind fun _ => skip) (pure _)

theorem separator (first : Bool) (closing : Token) (fault : Fault) :
    KeepsState (separator first closing fault) :=
  ite (peek.bind fun _ => ite skip (ite (failAt _ _) (pure _))) (pure _)

end KeepsState

/-- What a reader yields: from the stack, its result, and the state and the stack behind it. -/
def Yields (x : Parse α) (P : List Expect → α → Expect → List Expect → Prop) : Prop :=
  ∀ g a g', x g = .ok (a, g') → P g.stack a g'.state g'.stack

abbrev YieldsEvent (x : Parse PlacedEvent)
    (P : List Expect → Event → Expect → List Expect → Prop) : Prop :=
  Yields x fun stack e => P stack e.event

section

variable {P : List Expect → β → Expect → List Expect → Prop}

theorem KeepsState.yields {x : Parse α} {f : α → Parse β} (hx : KeepsState x)
    (hf : ∀ a, Yields (f a) P) : Yields (x >>= f) P := by
  intro g b g' h
  obtain ⟨a, g₁, hFirst, hRest⟩ := bind_ok h
  obtain ⟨-, hStack⟩ := hx _ _ _ hFirst
  exact hStack ▸ hf a _ _ _ hRest

theorem Yields.ite {c : Prop} [Decidable c] {x y : Parse β} (hx : Yields x P) (hy : Yields y P) :
    Yields (if c then x else y) P := by
  split
  · exact hx
  · exact hy

theorem Yields.failAt (mark : Mark) (fault : Fault) : Yields (failAt mark fault) P := by
  intro g b g' h
  cases h

theorem Yields.check {c : Prop} [Decidable c] {x : Unit → Parse β} (hx : Yields (x ()) P)
    (mark : Mark) (fault : Fault) :
    Yields (if c then Parse.failAt mark fault >>= x else x ()) P :=
  .ite (fun g b g' h => by cases h) hx

end

section

variable {P : List Expect → Event → Expect → List Expect → Prop}

theorem yields_goTo {state : Expect} {event : Event} {mark : Mark}
    (h : ∀ stack, P stack event state stack) :
    YieldsEvent (do goTo state; emit event mark) P := by
  intro g e g' hRun
  cases hRun
  exact h _

theorem yields_popState {event : Event} {mark : Mark}
    (h : ∀ stack, P stack event (stack.headD .documentEnd) (stack.drop 1)) :
    YieldsEvent (do popState; emit event mark) P := by
  intro g e g' hRun
  cases hRun
  exact h _

theorem yields_close {event : Event} {mark : Mark}
    (h : ∀ stack, P stack event (stack.headD .documentEnd) (stack.drop 1)) :
    YieldsEvent (close event mark) P := by
  intro g e g' hRun
  cases hRun
  exact h _

end

theorem yields_content (block indentless : Bool) (anchor : Option Nat) (tag : Option Tag) :
    YieldsEvent (content block indentless anchor tag) Begins := by
  refine KeepsState.peek.yields fun t => ?_
  split
  · exact yields_goTo fun _ => .sequence _ _ rfl
  · intro g e g' h
    cases h
    exact .leaf rfl
  · exact yields_goTo fun _ => .sequence _ _ rfl
  · exact yields_goTo fun _ => .mapping _ _ rfl
  · exact yields_goTo fun _ => .sequence _ _ rfl
  · exact yields_goTo fun _ => .mapping _ _ rfl
  · exact .ite (yields_popState fun _ => .leaf rfl) (.failAt _ _)

theorem yields_node (block indentless : Bool) : YieldsEvent (node block indentless) Begins := by
  refine KeepsState.peek.yields fun t => ?_
  split
  · intro g e g' h
    obtain ⟨_, g₁, hPop, h⟩ := bind_ok h
    obtain ⟨_, g₂, hSkip, h⟩ := bind_ok h
    obtain ⟨g₃, _, hGet, h⟩ := bind_ok h
    cases hPop
    cases hSkip
    cases hGet
    revert h
    cases g.anchors.lookup _ with
    | some number =>
      intro h
      cases h
      exact .leaf rfl
    | none =>
      intro h
      cases h
  · exact KeepsState.properties.yields fun _ => yields_content _ _ _ _

theorem yields_nodeThen {state next : Expect} (hNext : Follows state next)
    (block indentless : Bool) :
    YieldsEvent (nodeThen next block indentless) (Transition state) := by
  intro g e g' h
  obtain ⟨_, g₁, hPush, h⟩ := bind_ok h
  cases hPush
  exact .part hNext (yields_node _ _ _ _ _ h)

theorem yields_leaveOut {state next : Expect} (hNext : Follows state next) (mark : Mark) :
    YieldsEvent (leaveOut next mark) (Transition state) :=
  yields_goTo fun stack => .omitted hNext stack

theorem yields_blockMappingKey (first : Bool) :
    YieldsEvent (blockMappingKey first) (Transition (.blockMappingKey first)) := by
  refine (KeepsState.skipIf _).yields fun _ => KeepsState.peek.yields fun t => ?_
  split
  · exact KeepsState.skip.yields fun _ => KeepsState.peek.yields fun next =>
      .ite (yields_leaveOut (.blockKey _) _) (yields_nodeThen (.blockKey _) _ _)
  · exact yields_leaveOut (.blockKey _) _
  · exact yields_close fun _ => .mappingEnd rfl
  · exact .failAt _ _

theorem yields_blockMappingValue :
    YieldsEvent blockMappingValue (Transition .blockMappingValue) := by
  refine KeepsState.peek.yields fun t => .ite ?_ (yields_leaveOut .blockValue _)
  exact KeepsState.skip.yields fun _ => KeepsState.peek.yields fun next =>
    .ite (yields_leaveOut .blockValue _) (yields_nodeThen .blockValue _ _)

theorem yields_blockSequenceEntry (first : Bool) :
    YieldsEvent (blockSequenceEntry first) (Transition (.blockSequenceEntry first)) := by
  refine (KeepsState.skipIf _).yields fun _ => KeepsState.peek.yields fun t => ?_
  split
  · exact yields_close fun _ => .sequenceEnd rfl
  · exact KeepsState.skip.yields fun _ => KeepsState.peek.yields fun next =>
      .ite (yields_leaveOut (.blockItem _) _) (yields_nodeThen (.blockItem _) _ _)
  · exact .failAt _ _

theorem yields_indentlessEntry : YieldsEvent indentlessEntry (Transition .indentlessEntry) := by
  refine KeepsState.peek.yields fun t => .ite ?_ (yields_popState fun _ => .sequenceEnd rfl)
  exact KeepsState.skip.yields fun _ => KeepsState.peek.yields fun next =>
    .ite (yields_leaveOut .indentlessItem _) (yields_nodeThen .indentlessItem _ _)

theorem yields_flowSequenceEntry (first : Bool) :
    YieldsEvent (flowSequenceEntry first) (Transition (.flowSequenceEntry first)) := by
  refine (KeepsState.skipIf _).yields fun _ => KeepsState.peek.yields fun t => ?_
  refine .ite (yields_close fun _ => .sequenceEnd rfl) ?_
  refine (KeepsState.separator _ _ _).yields fun _ => KeepsState.peek.yields fun next => ?_
  split
  · exact yields_close fun _ => .sequenceEnd rfl
  · exact KeepsState.skip.yields fun _ => yields_goTo fun _ => .pairStart _
  · exact yields_nodeThen (.flowItem _) _ _

theorem yields_pairKey : YieldsEvent pairKey (Transition .pairKey) :=
  KeepsState.peek.yields fun _ =>
    .ite (KeepsState.skip.yields fun _ => yields_leaveOut .pairKey _) (yields_nodeThen .pairKey _ _)

theorem yields_pairValue : YieldsEvent pairValue (Transition .pairValue) := by
  refine KeepsState.peek.yields fun t => .ite ?_ (yields_leaveOut .pairValue _)
  exact KeepsState.skip.yields fun _ => KeepsState.peek.yields fun next =>
    .ite (yields_leaveOut .pairValue _) (yields_nodeThen .pairValue _ _)

theorem yields_flowMappingKey (first : Bool) :
    YieldsEvent (flowMappingKey first) (Transition (.flowMappingKey first)) := by
  refine (KeepsState.skipIf _).yields fun _ => KeepsState.peek.yields fun t => ?_
  refine .ite (yields_close fun _ => .mappingEnd rfl) ?_
  refine (KeepsState.separator _ _ _).yields fun _ => KeepsState.peek.yields fun next => ?_
  split
  · exact KeepsState.skip.yields fun _ => KeepsState.peek.yields fun next =>
      .ite (yields_leaveOut (.flowKey _ _) _) (yields_nodeThen (.flowKey _ _) _ _)
  · exact yields_leaveOut (.flowKey _ _) _
  · exact yields_close fun _ => .mappingEnd rfl
  · exact yields_nodeThen (.flowKey _ _) _ _

theorem yields_flowMappingValue (left : Bool) :
    YieldsEvent (flowMappingValue left) (Transition (.flowMappingValue left)) := by
  refine KeepsState.peek.yields fun t => .ite (yields_leaveOut (.flowValue _) _) (.ite ?_ ?_)
  · exact KeepsState.skip.yields fun _ => KeepsState.peek.yields fun next =>
      .ite (yields_leaveOut (.flowValue _) _) (yields_nodeThen (.flowValue _) _ _)
  · exact yields_leaveOut (.flowValue _) _

theorem yields_documentContent : YieldsEvent documentContent Begins := by
  refine KeepsState.peek.yields fun t => ?_
  split
  all_goals first | exact yields_popState fun _ => .leaf rfl | exact yields_node _ _

theorem event_ok {e : PlacedEvent} (h : event g = .ok (e, g')) :
    Transition g.state g.stack e.event g'.state g'.stack := by
  obtain ⟨g₁, g₂, hGet, h⟩ := bind_ok h
  cases hGet
  cases hState : g.state <;> simp only [hState] at h
  case node => exact .root (.inl rfl) (yields_node _ _ _ _ _ h)
  case documentContent => exact .root (.inr rfl) (yields_documentContent _ _ _ h)
  case documentEnd => cases h
  case blockSequenceEntry first => exact yields_blockSequenceEntry _ _ _ _ h
  case indentlessEntry => exact yields_indentlessEntry _ _ _ h
  case blockMappingKey first => exact yields_blockMappingKey _ _ _ _ h
  case blockMappingValue => exact yields_blockMappingValue _ _ _ h
  case flowSequenceEntry first => exact yields_flowSequenceEntry _ _ _ _ h
  case pairKey => exact yields_pairKey _ _ _ h
  case pairValue => exact yields_pairValue _ _ _ h
  case pairEnd =>
    cases h
    exact .pairEnd
  case flowMappingKey first => exact yields_flowMappingKey _ _ _ _ h
  case flowMappingValue left => exact yields_flowMappingValue _ _ _ _ h

theorem KeepsState.skipDocumentEnds (fuel : Nat) : KeepsState (skipDocumentEnds fuel) := by
  induction fuel with
  | zero => exact pure _
  | succ fuel ih => exact peek.bind fun _ => ite (skip.bind fun _ => ih) (pure _)

theorem KeepsState.directives (fuel : Nat) (versioned : Bool) :
    KeepsState (directives fuel versioned) := by
  induction fuel generalizing versioned with
  | zero => exact pure _
  | succ fuel ih =>
    have hTags (tags : List (String × String)) :
        KeepsState (modify fun g => { g with tags } : Parse Unit) := by
      intro g b g' h
      cases h
      exact ⟨rfl, rfl⟩
    refine peek.bind fun t => ?_
    split
    · have hRest := (hTags []).bind fun _ => skip.bind fun _ => ih true
      exact ite ((failAt _ _).bind fun _ => hRest) hRest
    · exact (hTags _).bind fun _ => skip.bind fun _ => ih _
    · exact pure _

theorem documentStart_ok {b : Bool} (h : documentStart g = .ok (b, g')) :
    g'.stack = g.stack ∧ (b = true → g'.state = .node ∨ g'.state = .documentContent) := by
  have hContent : Yields (do skip; goTo .documentContent; return true)
      fun stack b state stack' =>
        stack' = stack ∧ (b = true → state = .node ∨ state = .documentContent) := by
    intro g b g' h
    cases h
    exact ⟨rfl, fun _ => .inr rfl⟩
  suffices hStart : Yields documentStart fun stack b state stack' =>
      stack' = stack ∧ (b = true → state = .node ∨ state = .documentContent) from
    hStart _ _ _ h
  refine KeepsState.peek.yields fun first => .check ?_ _ _
  refine KeepsState.skip.yields fun _ => KeepsState.get.yields fun _ =>
    (KeepsState.skipDocumentEnds _).yields fun _ => KeepsState.peek.yields fun t => ?_
  split
  · intro g b g' h
    cases h
    exact ⟨rfl, nofun⟩
  · exact (KeepsState.directives _ _).yields fun _ => KeepsState.peek.yields fun _ =>
      .check hContent _ _
  · exact (KeepsState.directives _ _).yields fun _ => KeepsState.peek.yields fun _ =>
      .check hContent _ _
  · exact (KeepsState.directives _ _).yields fun _ => KeepsState.peek.yields fun _ =>
      .check hContent _ _
  · intro g b g' h
    cases h
    exact ⟨rfl, fun _ => .inl rfl⟩

end Parse

end ConfigReference.Yaml
