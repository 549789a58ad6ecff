import Mathlib.Data.List.Forall2
import ConfigReference.Yaml.Node.Load
import ConfigReference.Yaml.Node.Prune

/-!
# Skeletons

A tree without the texts of its scalars and without columns: its nodes, their lines and the comments
above them. Pruning goes by these alone, and builders that read the same events at places with the
same lines and comments build trees with one skeleton.
-/

set_option autoImplicit false

namespace ConfigReference.Yaml

def Place.skeleton (p : Place) : Place := { p with column := 0 }

namespace Node

mutual

def skeleton : Node → Node
  | scalar p _ _ => scalar p.skeleton .str ""
  | sequence p items => sequence p.skeleton (itemSkeletons items)
  | mapping p entries => mapping p.skeleton (entrySkeletons entries)
  | aliasTo p target => aliasTo p.skeleton target.skeleton

def itemSkeletons : List Node → List Node
  | [] => []
  | item :: rest => item.skeleton :: itemSkeletons rest

def entrySkeletons : List (Node × Node) → List (Node × Node)
  | [] => []
  | (key, value) :: rest => (key.skeleton, value.skeleton) :: entrySkeletons rest

end

theorem itemSkeletons_eq_map (items : List Node) : itemSkeletons items = items.map skeleton := by
  induction items with
  | nil => rfl
  | cons item rest ih => rw [itemSkeletons, ih, List.map_cons]

theorem entrySkeletons_eq_map (entries : List (Node × Node)) :
    entrySkeletons entries = entries.map (Prod.map skeleton skeleton) := by
  induction entries with
  | nil => rfl
  | cons entry rest ih =>
    rw [entrySkeletons, ih]
    rfl

theorem place_skeleton (n : Node) : n.skeleton.place = n.place.skeleton := by
  cases n <;> rfl

theorem skeleton_withPlace (n : Node) (p : Place) :
    (n.withPlace p).skeleton = n.skeleton.withPlace p.skeleton := by
  cases n <;> rfl

theorem isIgnored_skeleton (n : Node) : n.skeleton.isIgnored = n.isIgnored := by
  rw [isIgnored, place_skeleton]
  rfl

mutual

/-- Pruning looks at nothing that a skeleton leaves out. -/
theorem prune_skeleton : ∀ n : Node, n.skeleton.prune = n.prune.skeleton
  | scalar .. => rfl
  | sequence p items => by
    rw [skeleton, prune, prune, skeleton, pruneItems_skeleton items]
  | mapping p entries => by
    rw [skeleton, prune, prune, skeleton, pruneEntries_skeleton entries]
  | aliasTo p target => by
    rw [skeleton, prune, prune, skeleton, prune_skeleton target]

theorem pruneItems_skeleton : ∀ items : List Node,
    pruneItems (itemSkeletons items) = itemSkeletons (pruneItems items)
  | [] => rfl
  | item :: rest => by
    rw [itemSkeletons, pruneItems, pruneItems, isIgnored_skeleton, pruneItems_skeleton rest,
      prune_skeleton item]
    split <;> rfl

theorem pruneEntries_skeleton : ∀ entries : List (Node × Node),
    pruneEntries (entrySkeletons entries) = entrySkeletons (pruneEntries entries)
  | [] => rfl
  | (key, value) :: rest => by
    rw [entrySkeletons, pruneEntries, pruneEntries, isIgnored_skeleton, isIgnored_skeleton,
      pruneEntries_skeleton rest, prune_skeleton value]
    split <;> rfl

end

end Node

def Event.withoutText : Event → Event
  | scalar _ style anchor tag => scalar "" style anchor tag
  | e => e

def Event.isEnd : Event → Bool
  | sequenceEnd | mappingEnd => true
  | _ => false

/-- The same event, texts aside, and unless it is an end a place with the same line and comment. -/
structure PlacedEvent.Matches (lines lines' : List (List Char)) (e e' : PlacedEvent) : Prop where
  event : e.event.withoutText = e'.event.withoutText
  place : e.event.isEnd = false →
    (placeAt lines e.mark).skeleton = (placeAt lines' e'.mark).skeleton

def Frame.skeleton : Frame → Frame
  | sequence p anchor items => sequence p.skeleton anchor (items.map Node.skeleton)
  | mapping p anchor entries pending =>
    mapping p.skeleton anchor (entries.map (Prod.map Node.skeleton Node.skeleton))
      (pending.map Node.skeleton)

namespace Builder

def skeleton (b : Builder) : Builder where
  stack := b.stack.map Frame.skeleton
  anchors := b.anchors.map (Prod.map id Node.skeleton)
  root := b.root.map Node.skeleton

theorem skeleton_complete (b : Builder) (n : Node) (anchor : Option Nat) :
    (b.complete n anchor).skeleton = b.skeleton.complete n.skeleton anchor := by
  obtain ⟨stack, anchors, root⟩ := b
  cases anchor <;> rcases stack with _ | ⟨_ | ⟨_, _, _, _ | _⟩, _⟩ <;>
    simp [complete, skeleton, Frame.skeleton]

theorem skeleton_push (b : Builder) (f : Frame) :
    skeleton { b with stack := f :: b.stack } =
      { b.skeleton with stack := f.skeleton :: b.skeleton.stack } := rfl

theorem lookup_skeleton (b : Builder) (anchor : Nat) :
    b.skeleton.anchors.lookup anchor = (b.anchors.lookup anchor).map Node.skeleton := by
  obtain ⟨stack, anchors, root⟩ := b
  show (anchors.map _).lookup anchor = _
  induction anchors with
  | nil => rfl
  | cons entry rest ih =>
    obtain ⟨other, n⟩ := entry
    rw [List.map_cons, List.lookup_cons, List.lookup_cons, ih]
    cases hHere : anchor == other <;> simp [hHere]

theorem keyAbove_skeleton (b : Builder) (line : Nat) :
    b.skeleton.keyAbove line = (b.keyAbove line).map Place.skeleton := by
  obtain ⟨stack, anchors, root⟩ := b
  rcases stack with _ | ⟨_ | ⟨_, _, _, _ | key⟩, _⟩
  · rfl
  · rfl
  · rfl
  · show (if key.skeleton.place.line < line then some key.skeleton.place else none) =
      (if key.place.line < line then some key.place else none).map Place.skeleton
    rw [Node.place_skeleton]
    show (if key.place.line < line then _ else _) = _
    split <;> rfl

theorem adoptFirstKey_skeleton (item : Place) (entries : List (Node × Node)) :
    adoptFirstKey item.skeleton (entries.map (Prod.map Node.skeleton Node.skeleton)) =
      Prod.map Place.skeleton (List.map (Prod.map Node.skeleton Node.skeleton))
        (adoptFirstKey item entries) := by
  rcases entries with _ | ⟨⟨key, value⟩, rest⟩
  · rfl
  · rw [List.map_cons, Prod.map_apply, adoptFirstKey, adoptFirstKey]
    dsimp only
    rw [Node.place_skeleton]
    by_cases hLine : key.place.line = item.line
    · have hSame : key.place.skeleton.line = item.skeleton.line := hLine
      rw [if_neg (not_not_intro hSame), if_neg (not_not_intro hLine), Prod.map_apply,
        List.map_cons, Prod.map_apply, Node.skeleton_withPlace]
      rfl
    · have hApart : key.place.skeleton.line ≠ item.skeleton.line := hLine
      rw [if_pos hApart, if_pos hLine]
      rfl

variable {lines lines' : List (List Char)} {mark mark' : Mark}

theorem skeleton_step_sequenceEnd (b : Builder) :
    (b.step lines ⟨.sequenceEnd, mark⟩).map skeleton =
      b.skeleton.step lines' ⟨.sequenceEnd, mark'⟩ := by
  obtain ⟨stack, anchors, root⟩ := b
  rcases stack with _ | ⟨⟨p, anchor, items⟩ | ⟨p, anchor, entries, pending⟩, rest⟩
  · rfl
  · show Except.ok (skeleton (complete ⟨rest, anchors, root⟩ _ _)) = Except.ok (complete _ _ _)
    rw [skeleton_complete, Node.skeleton, Node.itemSkeletons_eq_map, List.map_reverse]
    rfl
  · rfl

theorem skeleton_step_mappingEnd (b : Builder) :
    (b.step lines ⟨.mappingEnd, mark⟩).map skeleton =
      b.skeleton.step lines' ⟨.mappingEnd, mark'⟩ := by
  obtain ⟨stack, anchors, root⟩ := b
  rcases stack with _ | ⟨⟨p, anchor, items⟩ | ⟨p, anchor, entries, pending⟩, rest⟩
  · rfl
  · rfl
  · -- whether the mapping is an item shows in the frame below it
    rcases rest with _ | ⟨⟨q, outer, items⟩ | ⟨q, outer, others, waiting⟩, rest⟩
    · show Except.ok (skeleton (complete ⟨[], anchors, root⟩ _ _)) = Except.ok (complete _ _ _)
      rw [skeleton_complete, Node.skeleton, Node.entrySkeletons_eq_map, List.map_reverse]
      rfl
    · have hAdopt := adoptFirstKey_skeleton p entries.reverse
      rw [List.map_reverse] at hAdopt
      show Except.ok (skeleton (complete ⟨_ :: rest, anchors, root⟩ _ _)) =
        Except.ok (complete ⟨_ :: _, _, _⟩ (.mapping (adoptFirstKey _ _).1 (adoptFirstKey _ _).2) _)
      rw [skeleton_complete, Node.skeleton, Node.entrySkeletons_eq_map, hAdopt]
      rfl
    · show Except.ok (skeleton (complete ⟨_ :: rest, anchors, root⟩ _ _)) =
        Except.ok (complete _ _ _)
      rw [skeleton_complete, Node.skeleton, Node.entrySkeletons_eq_map, List.map_reverse]
      rfl

def sequencePlace (lines : List (List Char)) (b : Builder) (mark : Mark) : Place :=
  match b.keyAbove mark.line with
  | some key => { key with comment := "" }
  | none => placeAt lines mark

theorem step_sequenceStart (b : Builder) (anchor : Option Nat) (tag : Option Tag) :
    b.step lines ⟨.sequenceStart anchor tag, mark⟩ =
      .ok { b with stack := .sequence (b.sequencePlace lines mark) anchor [] :: b.stack } := rfl

theorem sequencePlace_skeleton_congr {b b' : Builder} (hBuilder : b.skeleton = b'.skeleton)
    (hPlace : (placeAt lines mark).skeleton = (placeAt lines' mark').skeleton) :
    (b.sequencePlace lines mark).skeleton = (b'.sequencePlace lines' mark').skeleton := by
  have hLine : mark.line = mark'.line := congrArg Place.line hPlace
  have hKeys := b.keyAbove_skeleton mark.line
  rw [hBuilder, keyAbove_skeleton, hLine] at hKeys
  rw [sequencePlace, sequencePlace, hLine]
  cases hKey : b.keyAbove mark'.line <;> cases hKey' : b'.keyAbove mark'.line <;>
    rw [hKey, hKey'] at hKeys
  · exact hPlace
  · cases hKeys
  · cases hKeys
  · have hSame := Option.some.inj hKeys
    exact congrArg (fun p : Place => { p with comment := "" }) hSame.symm

theorem skeleton_step_congr {b b' : Builder} (hBuilder : b.skeleton = b'.skeleton)
    {e e' : PlacedEvent} (h : e.Matches lines lines' e') :
    (b.step lines e).map skeleton = (b'.step lines' e').map skeleton := by
  obtain ⟨event, mark⟩ := e
  obtain ⟨event', mark'⟩ := e'
  obtain ⟨hEvent, hPlaces⟩ := h
  -- a start or a leaf takes its place from the mark, an end from the frame that it closes
  cases event with
  | scalar text style anchor tag =>
    cases event' with
    | scalar text' style' anchor' tag' =>
      obtain ⟨-, rfl, rfl, rfl⟩ := Event.scalar.inj hEvent
      have hPlace := hPlaces rfl
      show Except.ok (skeleton (b.complete _ _)) = Except.ok (skeleton (b'.complete _ _))
      rw [skeleton_complete, skeleton_complete, hBuilder, Node.skeleton, Node.skeleton, hPlace]
    | _ => cases hEvent
  | aliasTo anchor =>
    cases event' with
    | aliasTo anchor' =>
      obtain rfl := Event.aliasTo.inj hEvent
      have hPlace := hPlaces rfl
      have hLine : mark.line = mark'.line := congrArg Place.line hPlace
      have hTargets := b.lookup_skeleton anchor
      rw [hBuilder, lookup_skeleton] at hTargets
      rw [step, step]
      dsimp only
      cases hTarget : b.anchors.lookup anchor with
      | none =>
        rw [hTarget, Option.map_none, Option.map_eq_none_iff] at hTargets
        rw [hTargets, hLine]
      | some target =>
        rw [hTarget, Option.map_some] at hTargets
        obtain ⟨target', hTarget', hSame⟩ := Option.map_eq_some_iff.mp hTargets
        rw [hTarget']
        show Except.ok (skeleton (b.complete _ _)) = Except.ok (skeleton (b'.complete _ _))
        rw [skeleton_complete, skeleton_complete, hBuilder, Node.skeleton, Node.skeleton, hPlace,
          hSame]
    | _ => cases hEvent
  | sequenceStart anchor tag =>
    cases event' with
    | sequenceStart anchor' tag' =>
      obtain ⟨rfl, rfl⟩ := Event.sequenceStart.inj hEvent
      have hPlace := hPlaces rfl
      rw [step_sequenceStart, step_sequenceStart, Except.map, Except.map, skeleton_push,
        skeleton_push, hBuilder, Frame.skeleton, Frame.skeleton,
        sequencePlace_skeleton_congr hBuilder hPlace]
    | _ => cases hEvent
  | mappingStart anchor tag =>
    cases event' with
    | mappingStart anchor' tag' =>
      obtain ⟨rfl, rfl⟩ := Event.mappingStart.inj hEvent
      have hPlace := hPlaces rfl
      show Except.ok (skeleton ⟨_ :: b.stack, _, _⟩) = Except.ok (skeleton ⟨_ :: b'.stack, _, _⟩)
      rw [skeleton_push, skeleton_push, hBuilder, Frame.skeleton, Frame.skeleton, hPlace]
    | _ => cases hEvent
  | sequenceEnd =>
    cases event' with
    | sequenceEnd =>
      calc (b.step lines ⟨.sequenceEnd, mark⟩).map skeleton
        _ = b.skeleton.step lines ⟨.sequenceEnd, mark⟩ := skeleton_step_sequenceEnd b
        _ = b'.skeleton.step lines ⟨.sequenceEnd, mark⟩ := by rw [hBuilder]
        _ = (b'.step lines' ⟨.sequenceEnd, mark'⟩).map skeleton := (skeleton_step_sequenceEnd b').symm
    | _ => cases hEvent
  | mappingEnd =>
    cases event' with
    | mappingEnd =>
      calc (b.step lines ⟨.mappingEnd, mark⟩).map skeleton
        _ = b.skeleton.step lines ⟨.mappingEnd, mark⟩ := skeleton_step_mappingEnd b
        _ = b'.skeleton.step lines ⟨.mappingEnd, mark⟩ := by rw [hBuilder]
        _ = (b'.step lines' ⟨.mappingEnd, mark'⟩).map skeleton := (skeleton_step_mappingEnd b').symm
    | _ => cases hEvent

theorem skeleton_foldlM_congr {b b' : Builder} (hBuilder : b.skeleton = b'.skeleton)
    {events events' : List PlacedEvent}
    (h : List.Forall₂ (PlacedEvent.Matches lines lines') events events') :
    (events.foldlM (step lines) b).map skeleton = (events'.foldlM (step lines') b').map skeleton := by
  induction h generalizing b b' with
  | nil => exact congrArg Except.ok hBuilder
  | @cons e e' rest rest' hHere _ ih =>
    have hStep := skeleton_step_congr hBuilder hHere
    rw [List.foldlM_cons, List.foldlM_cons]
    cases hNext : b.step lines e with
    | error fault =>
      rw [hNext] at hStep
      cases hNext' : b'.step lines' e' with
      | error fault' =>
        rw [hNext'] at hStep
        cases hStep
        rfl
      | ok next' =>
        rw [hNext'] at hStep
        cases hStep
    | ok next =>
      rw [hNext] at hStep
      cases hNext' : b'.step lines' e' with
      | error fault' =>
        rw [hNext'] at hStep
        cases hStep
      | ok next' =>
        rw [hNext'] at hStep
        exact ih (Except.ok.inj hStep)

end Builder

theorem Node.skeleton_ofEvents_congr {lines lines' : List (List Char)}
    {events events' : List PlacedEvent}
    (h : List.Forall₂ (PlacedEvent.Matches lines lines') events events') :
    (Node.ofEvents lines events).map (Option.map skeleton) =
      (Node.ofEvents lines' events').map (Option.map skeleton) := by
  have hRoot : ∀ built : Except UnresolvedAlias Builder,
      (built.map (·.root)).map (Option.map skeleton) = (built.map Builder.skeleton).map (·.root) := by
    intro built
    cases built <;> rfl
  have hRun := Builder.skeleton_foldlM_congr (rfl : Builder.skeleton {} = _) h
  rw [Node.ofEvents, Node.ofEvents, hRoot, hRoot, hRun]

end ConfigReference.Yaml
