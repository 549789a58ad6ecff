import ConfigReference.Proofs.Yaml.Outline
import ConfigReference.Proofs.Yaml.Transition

/-!
# Traces of the grammar

The steps that the automaton takes through a text. What it reads next always fits the collections
that are open, so an outline can be drafted from its steps to the end.
-/

set_option autoImplicit false

namespace ConfigReference.Yaml

namespace Expect

/-- Whether the token that opened a collection is still ahead. -/
def isFirst : Expect → Bool
  | .blockSequenceEntry first => first
  | .blockMappingKey first => first
  | .flowSequenceEntry first => first
  | .flowMappingKey first => first
  | _ => false

def inBlock : Expect → Bool
  | .blockSequenceEntry _ => true
  | .indentlessEntry => true
  | .blockMappingKey _ => true
  | .blockMappingValue => true
  | _ => false

def readsValues : Expect → Bool
  | .blockMappingValue => true
  | .flowMappingValue _ => true
  | _ => false

end Expect

namespace Grammar

/-- The mark of the first token of what stands next. The token that opened a collection is not part
of the first thing in it. -/
def here (g : Grammar) : Mark :=
  let ahead := if g.state.isFirst then g.tokens.drop 1 else g.tokens
  (ahead.head?.map (·.mark)).getD {}

def trace : Nat → Grammar → List Step
  | 0, _ => []
  | fuel + 1, g =>
    if g.state = .documentEnd then []
    else
      match Parse.event g with
      | .ok (e, g') => ⟨⟨g.here, e.mark, g'.state.inBlock⟩, e.event⟩ :: trace fuel g'
      | .error _ => []

theorem events_run (fuel : Nat) (passed : List PlacedEvent) (g : Grammar) :
    (g.run fuel passed).events = passed.reverse ++ (g.trace fuel).map Step.placed := by
  induction fuel generalizing passed g with
  | zero => simp [run, trace]
  | succ fuel ih =>
    rw [run, trace]
    split
    · split <;> simp
    · cases hEvent : Parse.event g with
      | ok found =>
        obtain ⟨e, g'⟩ := found
        simp [ih, Step.placed]
      | error e => simp

def atDocument? (stream : TokenStream) : Option Grammar :=
  match Parse.documentStart { tokens := stream.tokens, error := stream.error } with
  | .ok (true, g) => some g
  | _ => none

def traceOfText (text : List Char) : List Step :=
  let stream := TokenStream.ofText text
  (atDocument? stream).elim [] (·.trace (8 * stream.tokens.length + 16))

theorem events_ofText (text : List Char) :
    (EventStream.ofText text).events = (traceOfText text).map Step.placed := by
  rw [EventStream.ofText, EventStream.ofTokens, traceOfText, atDocument?]
  split
  · rename_i hStart
    simp [hStart, events_run]
  · rename_i hStart
    simp [hStart]
  · rename_i hStart
    simp [hStart]

end Grammar

/-- What an open collection waits for. -/
inductive Part where
  | item
  | key
  | value
  deriving DecidableEq, Repr

def Part.next : Part → Part
  | item => item
  | key => value
  | value => key

def Outline.Open.awaits : Outline.Open → Part
  | .sequence .. => .item
  | .mapping _ _ none => .key
  | .mapping _ _ (some _) => .value

theorem Outline.Open.awaits_add (node : Outline) (o : Outline.Open) :
    (o.add node).awaits = o.awaits.next := by
  cases o with
  | sequence opening items => rfl
  | mapping opening entries pending =>
    cases pending with
    | none => rfl
    | some key => rfl

/-- A state fits what the open collections wait for, innermost first. `around` are those outside the
construct that the state is part of: a single pair is one construct with the sequence it stands
in. -/
inductive Expect.Stands : Expect → List Part → List Part → Prop where
  | items {state : Expect} (hItems : state.readsItems = true) (around : List Part) :
    Stands state (.item :: around) around
  | keys {state : Expect} (hKeys : state.readsKeys = true) (around : List Part) :
    Stands state (.key :: around) around
  | values {state : Expect} (hValues : state.readsValues = true) (around : List Part) :
    Stands state (.value :: around) around
  | pairKey (around : List Part) : Stands .pairKey (.key :: .item :: around) around
  | pairValue (around : List Part) : Stands .pairValue (.value :: .item :: around) around
  | pairEnd (around : List Part) : Stands .pairEnd (.key :: .item :: around) around

/-- The stack fits the collections around a construct: it says what comes after the construct, which
is a part of the innermost of them. -/
inductive Expect.Resumes : List Expect → List Part → Prop where
  | root : Resumes [] []
  | part {state : Expect} {stack : List Expect} {part : Part} {rest around : List Part}
    (hState : state.Stands (part.next :: rest) around) (hStack : Resumes stack around) :
    Resumes (state :: stack) (part :: rest)

/-- State and stack fit a draft: its root is ahead, under way or finished. -/
inductive Expect.Fits : Expect → List Expect → Draft → Prop where
  | start {state : Expect} (hState : state = .node ∨ state = .documentContent) : Fits state [] {}
  | inside {state : Expect} {stack : List Expect} {frames : List Outline.Open}
    {around : List Part} (hState : state.Stands (frames.map (·.awaits)) around)
    (hStack : Resumes stack around) : Fits state stack { stack := frames }
  | finished (root : Outline) : Fits .documentEnd [] { root := some root }

namespace Expect

theorem Stands.follow {state next : Expect} {part : Part} {rest around : List Part}
    (h : state.Stands (part :: rest) around) (hNext : Follows state next) :
    next.Stands (part.next :: rest) around := by
  cases hNext with
  | blockItem first => cases h <;> first | exact .items rfl _ | contradiction
  | indentlessItem => cases h <;> first | exact .items rfl _ | contradiction
  | flowItem first => cases h <;> first | exact .items rfl _ | contradiction
  | blockKey first => cases h <;> first | exact .values rfl _ | contradiction
  | blockValue => cases h <;> first | exact .keys rfl _ | contradiction
  | flowKey first left => cases h <;> first | exact .values rfl _ | contradiction
  | flowValue left => cases h <;> first | exact .keys rfl _ | contradiction
  | pairKey => cases h <;> first | exact .pairValue _ | contradiction
  | pairValue => cases h <;> first | exact .pairEnd _ | contradiction

theorem Resumes.complete {stack : List Expect} {frames : List Outline.Open}
    (h : Resumes stack (frames.map (·.awaits))) (node : Outline) :
    Fits (stack.headD .documentEnd) (stack.drop 1) (Draft.complete node frames) := by
  cases frames with
  | nil =>
    cases h
    exact .finished node
  | cons innermost frames =>
    cases h with
    | part hState hStack =>
      refine .inside ?_ hStack
      rw [List.map_cons, Outline.Open.awaits_add]
      exact hState

theorem Begins.step {stack stack' : List Expect} {event : Event} {state' : Expect}
    {frames : List Outline.Open} (h : Begins stack event state' stack')
    (hStack : Resumes stack (frames.map (·.awaits))) (spot : Spot) :
    ∃ d, Draft.step { stack := frames } ⟨spot, event⟩ = some d ∧ Fits state' stack' d := by
  cases h with
  | leaf hLeaf =>
    cases event <;> first | exact ⟨_, rfl, hStack.complete _⟩ | cases hLeaf
  | sequence anchor tag hItems => exact ⟨_, rfl, .inside (.items hItems _) hStack⟩
  | mapping anchor tag hKeys => exact ⟨_, rfl, .inside (.keys hKeys _) hStack⟩

theorem Stands.parts_of_readsItems {state : Expect} {parts around : List Part}
    (h : state.Stands parts around) (hItems : state.readsItems = true) :
    parts = .item :: around := by
  cases h with
  | items _ => rfl
  | keys hOther => cases state <;> contradiction
  | values hOther => cases state <;> contradiction
  | _ => cases hItems

theorem Stands.parts_of_readsKeys {state : Expect} {parts around : List Part}
    (h : state.Stands parts around) (hKeys : state.readsKeys = true) :
    parts = .key :: around := by
  cases h with
  | keys _ => rfl
  | items hOther => cases state <;> contradiction
  | values hOther => cases state <;> contradiction
  | _ => cases hKeys

theorem Stands.parts_of_pairEnd {parts around : List Part}
    (h : Expect.pairEnd.Stands parts around) :
    parts = .key :: .item :: around := by
  cases h with
  | pairEnd _ => rfl
  | _ => contradiction

theorem Stands.not_root {state : Expect} {parts around : List Part}
    (h : state.Stands parts around) : ¬(state = .node ∨ state = .documentContent) := by
  rintro (rfl | rfl)
  · cases h <;> contradiction
  · cases h <;> contradiction

theorem exists_sequence {frames : List Outline.Open} {around : List Part}
    (h : frames.map (·.awaits) = .item :: around) :
    ∃ opening items rest, frames = .sequence opening items :: rest ∧
      rest.map (·.awaits) = around := by
  obtain ⟨innermost, rest, rfl, hItem, hRest⟩ := List.map_eq_cons_iff.mp h
  match innermost, hItem with
  | .sequence opening items, _ => exact ⟨opening, items, rest, rfl, hRest⟩

theorem exists_mapping {frames : List Outline.Open} {around : List Part}
    (h : frames.map (·.awaits) = .key :: around) :
    ∃ opening entries rest, frames = .mapping opening entries none :: rest ∧
      rest.map (·.awaits) = around := by
  obtain ⟨innermost, rest, rfl, hKey, hRest⟩ := List.map_eq_cons_iff.mp h
  match innermost, hKey with
  | .mapping opening entries none, _ => exact ⟨opening, entries, rest, rfl, hRest⟩

theorem Transition.step {state state' : Expect} {stack stack' : List Expect} {event : Event}
    {d : Draft} (h : Transition state stack event state' stack') (hFits : Fits state stack d)
    (spot : Spot) :
    ∃ d', d.step ⟨spot, event⟩ = some d' ∧ Fits state' stack' d' := by
  cases hFits with
  | start hState =>
    cases h with
    | root _ hBegins =>
      have hRoot : Resumes [] (([] : List Outline.Open).map (·.awaits)) := .root
      exact hBegins.step hRoot spot
    | part hNext => rcases hState with rfl | rfl <;> cases hNext
    | sequenceEnd hItems => rcases hState with rfl | rfl <;> cases hItems
    | mappingEnd hKeys => rcases hState with rfl | rfl <;> cases hKeys
    | pairStart first => rcases hState with hState | hState <;> cases hState
    | pairEnd => rcases hState with hState | hState <;> cases hState
  | finished root =>
    cases h with
    | root hState => rcases hState with hState | hState <;> cases hState
    | part hNext => cases hNext
    | sequenceEnd hItems => cases hItems
    | mappingEnd hKeys => cases hKeys
  | @inside _ _ frames around hStands hStack =>
    cases h with
    | root hState => exact absurd hState hStands.not_root
    | part hNext hBegins =>
      -- under the node the stack says what follows it in the innermost collection
      cases frames with
      | nil => cases hStands
      | cons innermost frames =>
        have hResumes : Resumes (_ :: stack) ((innermost :: frames).map (·.awaits)) :=
          .part (hStands.follow hNext) hStack
        exact hBegins.step hResumes spot
    | sequenceEnd hItems =>
      have hParts := hStands.parts_of_readsItems hItems
      obtain ⟨opening, items, rest, rfl, rfl⟩ := exists_sequence hParts
      exact ⟨_, rfl, hStack.complete _⟩
    | mappingEnd hKeys =>
      have hParts := hStands.parts_of_readsKeys hKeys
      obtain ⟨opening, entries, rest, rfl, rfl⟩ := exists_mapping hParts
      exact ⟨_, rfl, hStack.complete _⟩
    | pairStart first =>
      have hParts := hStands.parts_of_readsItems rfl
      refine ⟨_, rfl, .inside ?_ hStack⟩
      rw [List.map_cons, hParts]
      exact .pairKey around
    | pairEnd =>
      -- the pair was an item, and the sequence goes on without a state from the stack
      obtain ⟨opening, entries, rest, rfl, hRest⟩ := exists_mapping hStands.parts_of_pairEnd
      obtain ⟨outer, items, more, rfl, rfl⟩ := exists_sequence hRest
      exact ⟨_, rfl, .inside (.items rfl _) hStack⟩

end Expect

namespace Grammar

theorem exists_run_trace (fuel : Nat) {g : Grammar} {d : Draft} (h : g.state.Fits g.stack d) :
    ∃ d', d.run (g.trace fuel) = some d' := by
  induction fuel generalizing g d with
  | zero => exact ⟨d, rfl⟩
  | succ fuel ih =>
    rw [trace]
    split
    · exact ⟨d, rfl⟩
    · cases hEvent : Parse.event g with
      | error e => exact ⟨d, rfl⟩
      | ok found =>
        obtain ⟨e, g'⟩ := found
        have hTransition := Parse.event_ok hEvent
        obtain ⟨next, hStep, hNext⟩ := hTransition.step h ⟨g.here, e.mark, g'.state.inBlock⟩
        obtain ⟨d', hRun⟩ := ih hNext
        exact ⟨d', Option.bind_eq_some_iff.mpr ⟨next, hStep, hRun⟩⟩

theorem exists_run_traceOfText (text : List Char) :
    ∃ d, Draft.run {} (traceOfText text) = some d := by
  rw [traceOfText, atDocument?]
  split
  · rename_i g hStart
    obtain ⟨hStack, hState⟩ := Parse.documentStart_ok hStart
    refine exists_run_trace _ ?_
    rw [hStack]
    exact .start (hState rfl)
  · exact ⟨{}, rfl⟩

end Grammar

end ConfigReference.Yaml
