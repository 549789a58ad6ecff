import ConfigReference.Proofs.Yaml.Trace
import ConfigReference.Yaml.Node.Load

/-!
# The tree of an outline

Which node the builder makes of every part of an outline, and where it places it: the tree of a
document that loads is built from the outline of its steps.
-/

set_option autoImplicit false

namespace ConfigReference.Yaml

inductive Slot where
  | root
  | item
  | key
  | value (key : Outline)

def Slot.isItem : Slot → Bool
  | item => true
  | _ => false

def Slot.keyAbove (lines : List (List Char)) (line : Nat) : Slot → Option Place
  | value above =>
    if above.spot.mark.line < line then some (placeAt lines above.spot.mark) else none
  | _ => none

/-- The place of a sequence: below its key it has the key's, and no comment. -/
def Slot.sequencePlace (lines : List (List Char)) (mark : Mark) (slot : Slot) : Place :=
  match slot.keyAbove lines mark.line with
  | some above => { above with comment := "" }
  | none => placeAt lines mark

/-- A mapping at a place. As an item it adopts its first key. -/
def Slot.mappingNode (place : Place) (entries : List (Node × Node)) : Slot → Node
  | item =>
    let (place, entries) := Builder.adoptFirstKey place entries
    .mapping place entries
  | _ => .mapping place entries

namespace Outline

mutual

/-- A node is what the builder makes of an outline. An alias may have any target. -/
def Built (lines : List (List Char)) (slot : Slot) : Outline → Node → Prop
  | scalar spot text style _ tag, n =>
    n = .scalar (placeAt lines spot.mark) (Scalar.resolve text style tag) text
  | aliasTo spot _, n => ∃ target, n = .aliasTo (placeAt lines spot.mark) target
  | sequence opening items _, n =>
    ∃ nodes, n = .sequence (slot.sequencePlace lines opening.spot.mark) nodes ∧
      BuiltItems lines items nodes
  | mapping opening entries _, n =>
    ∃ nodes, n = slot.mappingNode (placeAt lines opening.spot.mark) nodes ∧
      BuiltEntries lines entries nodes

def BuiltItems (lines : List (List Char)) : List Outline → List Node → Prop
  | [], nodes => nodes = []
  | item :: rest, nodes =>
    ∃ n more, nodes = n :: more ∧ Built lines .item item n ∧ BuiltItems lines rest more

def BuiltEntries (lines : List (List Char)) :
    List (Outline × Outline) → List (Node × Node) → Prop
  | [], nodes => nodes = []
  | (key, value) :: rest, nodes =>
    ∃ k v more, nodes = (k, v) :: more ∧ Built lines .key key k ∧
      Built lines (.value key) value v ∧ BuiltEntries lines rest more

end

variable {lines : List (List Char)}

theorem BuiltItems.append {items more : List Outline} {nodes others : List Node}
    (h : BuiltItems lines items nodes) (hMore : BuiltItems lines more others) :
    BuiltItems lines (items ++ more) (nodes ++ others) := by
  induction items generalizing nodes with
  | nil =>
    obtain rfl : nodes = [] := h
    exact hMore
  | cons item items ih =>
    obtain ⟨n, rest, rfl, hItem, hRest⟩ := h
    exact ⟨n, rest ++ others, rfl, hItem, ih hRest⟩

theorem BuiltEntries.append {entries more : List (Outline × Outline)}
    {nodes others : List (Node × Node)} (h : BuiltEntries lines entries nodes)
    (hMore : BuiltEntries lines more others) :
    BuiltEntries lines (entries ++ more) (nodes ++ others) := by
  induction entries generalizing nodes with
  | nil =>
    obtain rfl : nodes = [] := h
    exact hMore
  | cons entry entries ih =>
    obtain ⟨k, v, rest, rfl, hKey, hValue, hRest⟩ := h
    exact ⟨k, v, rest ++ others, rfl, hKey, hValue, ih hRest⟩

theorem Built.place_key {key : Outline} {n : Node} (h : Built lines .key key n) :
    n.place = placeAt lines key.spot.mark := by
  cases key with
  | scalar spot text style anchor tag =>
    obtain rfl := h
    rfl
  | aliasTo spot anchor =>
    obtain ⟨target, rfl⟩ := h
    rfl
  | sequence opening items close =>
    obtain ⟨nodes, rfl, -⟩ := h
    rfl
  | mapping opening entries close =>
    obtain ⟨nodes, rfl, -⟩ := h
    rfl

def nextSlot : List Open → Slot
  | [] => .root
  | .sequence .. :: _ => .item
  | .mapping _ _ none :: _ => .key
  | .mapping _ _ (some key) :: _ => .value key

inductive BuiltFrames (lines : List (List Char)) : List Open → List Frame → Prop where
  | nil : BuiltFrames lines [] []
  | sequence {opening : Opening} {items : List Outline} {rest : List Open} {anchor : Option Nat}
    {nodes : List Node} {frames : List Frame}
    (hItems : BuiltItems lines items.reverse nodes.reverse)
    (hRest : BuiltFrames lines rest frames) :
    BuiltFrames lines (.sequence opening items :: rest)
      (.sequence ((nextSlot rest).sequencePlace lines opening.spot.mark) anchor nodes :: frames)
  | mapping {opening : Opening} {entries : List (Outline × Outline)} {rest : List Open}
    {anchor : Option Nat} {nodes : List (Node × Node)} {frames : List Frame}
    (hEntries : BuiltEntries lines entries.reverse nodes.reverse)
    (hRest : BuiltFrames lines rest frames) :
    BuiltFrames lines (.mapping opening entries none :: rest)
      (.mapping (placeAt lines opening.spot.mark) anchor nodes none :: frames)
  | pending {opening : Opening} {entries : List (Outline × Outline)} {key : Outline}
    {rest : List Open} {anchor : Option Nat} {nodes : List (Node × Node)} {keyNode : Node}
    {frames : List Frame} (hEntries : BuiltEntries lines entries.reverse nodes.reverse)
    (hKey : Built lines .key key keyNode) (hRest : BuiltFrames lines rest frames) :
    BuiltFrames lines (.mapping opening entries (some key) :: rest)
      (.mapping (placeAt lines opening.spot.mark) anchor nodes (some keyNode) :: frames)

end Outline

open Outline

theorem eq_none_of_rel {α β : Type} {R : α → β → Prop} {found : Option β}
    (h : Option.Rel R none found) : found = none := by
  cases h
  rfl

theorem exists_of_rel_some {α β : Type} {R : α → β → Prop} {a : α} {found : Option β}
    (h : Option.Rel R (some a) found) : ∃ b, found = some b ∧ R a b := by
  cases h with
  | some hRel => exact ⟨_, rfl, hRel⟩

structure Draft.Built (lines : List (List Char)) (d : Draft) (b : Builder) : Prop where
  stack : BuiltFrames lines d.stack b.stack
  root : Option.Rel (Outline.Built lines .root) d.root b.root

namespace Draft.Built

variable {lines : List (List Char)}

theorem complete {frames : List Open} {b : Builder} {t : Outline} {n : Node}
    (hStack : BuiltFrames lines frames b.stack) (hRoot : b.root = none)
    (hNode : Outline.Built lines (nextSlot frames) t n) (anchor : Option Nat) :
    (Draft.complete t frames).Built lines (b.complete n anchor) := by
  obtain ⟨stack, anchors, root⟩ := b
  obtain rfl : root = none := hRoot
  obtain ⟨known, hKnown⟩ : ∃ known, Builder.complete ⟨stack, anchors, none⟩ n anchor =
      Builder.complete ⟨stack, known, none⟩ n none := by
    cases anchor with
    | none => exact ⟨anchors, rfl⟩
    | some id => exact ⟨(id, n) :: anchors, rfl⟩
  -- registering the node leaves the open collections as they are
  rw [hKnown]
  cases hStack with
  | nil => exact ⟨.nil, .some hNode⟩
  | sequence hItems hRest =>
    refine ⟨.sequence ?_ hRest, .none⟩
    rw [List.reverse_cons, List.reverse_cons]
    exact hItems.append ⟨n, [], rfl, hNode, rfl⟩
  | mapping hEntries hRest => exact ⟨.pending hEntries hNode hRest, .none⟩
  | pending hEntries hKey hRest =>
    refine ⟨.mapping ?_ hRest, .none⟩
    rw [List.reverse_cons, List.reverse_cons]
    exact hEntries.append ⟨_, n, [], rfl, hKey, hNode, rfl⟩

theorem keyAbove_eq {frames : List Open} {b : Builder}
    (hStack : BuiltFrames lines frames b.stack) (line : Nat) :
    b.keyAbove line = (nextSlot frames).keyAbove lines line := by
  obtain ⟨stack, anchors, root⟩ := b
  cases hStack with
  | nil => rfl
  | sequence hItems hRest => rfl
  | mapping hEntries hRest => rfl
  | @pending _ _ key _ _ _ keyNode _ hEntries hKey hRest =>
    show (if keyNode.place.line < line then some keyNode.place else none) = _
    rw [hKey.place_key]
    rfl

theorem mappingNode_eq {frames : List Open} {stack : List Frame}
    (hStack : BuiltFrames lines frames stack) (place : Place) (entries : List (Node × Node)) :
    (let (place, entries) := match stack with
        | .sequence .. :: _ => Builder.adoptFirstKey place entries
        | _ => (place, entries)
      Node.mapping place entries) = (nextSlot frames).mappingNode place entries := by
  cases hStack <;> rfl

theorem root_eq_none {d : Draft} {b : Builder} (h : d.Built lines b) (hRoot : d.root = none) :
    b.root = none := by
  have hRel := h.root
  rw [hRoot] at hRel
  exact eq_none_of_rel hRel

theorem step {d d' : Draft} {b b' : Builder} {s : Step} (h : d.Built lines b)
    (hDraft : d.step s = some d') (hBuilder : b.step lines s.placed = .ok b') :
    d'.Built lines b' := by
  obtain ⟨hUnfinished, hAdvance⟩ := Draft.step_eq_some.mp hDraft
  have hNone := h.root_eq_none hUnfinished
  have hRoot : Option.Rel (Outline.Built lines .root) none b.root := by
    rw [hNone]
    exact .none
  have hStack := h.stack
  obtain ⟨spot, event⟩ := s
  unfold advance at hAdvance
  unfold Builder.step at hBuilder
  dsimp only [Step.placed] at hAdvance hBuilder
  cases event with
  | scalar text style anchor tag =>
    cases hAdvance
    cases hBuilder
    exact complete hStack hNone (t := .scalar spot text style anchor tag) rfl _
  | aliasTo id =>
    dsimp only at hBuilder
    split at hBuilder
    · cases hAdvance
      cases hBuilder
      exact complete hStack hNone (t := .aliasTo spot id) ⟨_, rfl⟩ _
    · cases hBuilder
  | sequenceStart anchor tag =>
    cases hAdvance
    dsimp only at hBuilder
    rw [keyAbove_eq hStack] at hBuilder
    cases hBuilder
    exact ⟨.sequence rfl hStack, hRoot⟩
  | mappingStart anchor tag =>
    cases hAdvance
    cases hBuilder
    exact ⟨.mapping rfl hStack, hRoot⟩
  | sequenceEnd =>
    dsimp only at hAdvance
    split at hAdvance
    · rename_i opening items rest hFrames
      cases hAdvance
      rw [hFrames] at hStack
      obtain ⟨stack, anchors, root⟩ := b
      cases hStack with
      | @sequence _ _ _ _ _ stack hItems hRest =>
        cases hBuilder
        have hNode : Outline.Built lines (nextSlot rest) (.sequence opening items.reverse spot) _ :=
          ⟨_, rfl, hItems⟩
        exact complete (b := ⟨stack, anchors, root⟩) hRest hNone hNode _
    · cases hAdvance
  | mappingEnd =>
    dsimp only at hAdvance
    split at hAdvance
    · rename_i opening entries rest hFrames
      cases hAdvance
      rw [hFrames] at hStack
      obtain ⟨stack, anchors, root⟩ := b
      cases hStack with
      | @mapping _ _ _ _ _ stack hEntries hRest =>
        cases hBuilder
        have hNode :
            Outline.Built lines (nextSlot rest) (.mapping opening entries.reverse spot) _ :=
          ⟨_, mappingNode_eq hRest _ _, hEntries⟩
        exact complete (b := ⟨stack, anchors, root⟩) hRest hNone hNode _
    · cases hAdvance

theorem run {d d' : Draft} {b b' : Builder} {all : List Step} (h : d.Built lines b)
    (hDraft : d.run all = some d')
    (hBuilder : (all.map Step.placed).foldlM (Builder.step lines) b = .ok b') :
    d'.Built lines b' := by
  induction all generalizing d b with
  | nil =>
    cases hDraft
    cases hBuilder
    exact h
  | cons s rest ih =>
    obtain ⟨next, hStep, hRest⟩ := Option.bind_eq_some_iff.mp hDraft
    rw [List.map_cons, List.foldlM_cons] at hBuilder
    cases hNext : b.step lines s.placed with
    | error e =>
      rw [hNext] at hBuilder
      cases hBuilder
    | ok following =>
      rw [hNext] at hBuilder
      exact ih (h.step hStep hNext) hRest hBuilder

end Draft.Built

def sourceLines (source : String) : List (List Char) :=
  Text.lines (Text.unifyLineEnds source.toList)

def Outline.Spells (t : Outline) (source : String) : Prop :=
  Grammar.traceOfText (Text.unifyLineEnds source.toList) = t.steps

theorem Node.ofEvents_ok {lines : List (List Char)} {events : List PlacedEvent}
    {found : Option Node} (h : Node.ofEvents lines events = .ok found) :
    ∃ b : Builder, events.foldlM (Builder.step lines) {} = .ok b ∧ b.root = found := by
  rw [Node.ofEvents] at h
  cases hRun : events.foldlM (Builder.step lines) {} with
  | error e =>
    rw [hRun] at h
    cases h
  | ok b =>
    rw [hRun] at h
    exact ⟨b, rfl, Except.ok.inj h⟩

theorem Node.load_ok {source : String} {root : Node} (h : Node.load source = .ok (some root)) :
    Node.ofEvents (sourceLines source)
      (EventStream.ofText (Text.unifyLineEnds source.toList)).events = .ok (some root) := by
  unfold Node.load at h
  dsimp only at h
  split at h
  · cases h
  · rw [sourceLines]
    revert h
    generalize Node.ofEvents _ _ = built
    intro h
    cases built with
    | error e => cases h
    | ok root? => exact congrArg Except.ok (Except.ok.inj h)

/-- The tree of a text that loads is built from the outline that its steps spell out. -/
theorem Outline.exists_of_load {source : String} {root : Node}
    (h : Node.load source = .ok (some root)) :
    ∃ t : Outline, t.Spells source ∧ t.Built (sourceLines source) .root root := by
  obtain ⟨b, hRun, hRoot⟩ := Node.ofEvents_ok (Node.load_ok h)
  rw [Grammar.events_ofText] at hRun
  obtain ⟨d, hDraft⟩ := Grammar.exists_run_traceOfText (Text.unifyLineEnds source.toList)
  have hBuilt : d.Built (sourceLines source) b :=
    Draft.Built.run (b := {}) ⟨.nil, .none⟩ hDraft hRun
  have hRel := hBuilt.root
  rw [hRoot] at hRel
  cases hFound : d.root with
  | none =>
    rw [hFound] at hRel
    cases hRel
  | some t =>
    rw [hFound] at hRel
    cases hRel with
    | some hNode => exact ⟨t, Draft.steps_of_root hDraft hFound, hNode⟩

end ConfigReference.Yaml
