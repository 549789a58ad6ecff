import ConfigReference.Proofs.Yaml.Outline
import ConfigReference.Yaml.Node.Build

/-!
# The tree that events spell

Events of one node have their starts and ends in balance. Their outline tells what tree they spell,
once it is known which node each anchor stands for.
-/

set_option autoImplicit false

namespace ConfigReference.Yaml

/-! ## Events in order -/

def Event.anchor? : Event → Option Nat
  | scalar _ _ anchor _ => anchor
  | sequenceStart anchor _ => anchor
  | mappingStart anchor _ => anchor
  | aliasTo _ | sequenceEnd | mappingEnd => none

def PlacedEvent.anchors (events : List PlacedEvent) : List Nat :=
  events.flatMap (·.event.anchor?.toList)

def PlacedEvent.step (e : PlacedEvent) : Step := ⟨⟨e.mark, e.mark, false⟩, e.event⟩

/-- The events of one node: each start has its end, and there is an even number of nodes in a
mapping. -/
inductive SpellsNode : List PlacedEvent → Prop where
  | scalar (mark : Mark) (text : String) (style : ScalarStyle) (anchor : Option Nat)
    (tag : Option Tag) : SpellsNode [⟨.scalar text style anchor tag, mark⟩]
  | aliasTo (mark : Mark) (id : Nat) : SpellsNode [⟨.aliasTo id, mark⟩]
  | sequence (start close : Mark) (anchor : Option Nat) (tag : Option Tag)
    {nodes : List (List PlacedEvent)} (hNodes : ∀ node ∈ nodes, SpellsNode node) :
    SpellsNode (⟨.sequenceStart anchor tag, start⟩ ::
      (nodes.flatten ++ [⟨.sequenceEnd, close⟩]))
  | mapping (start close : Mark) (anchor : Option Nat) (tag : Option Tag)
    {nodes : List (List PlacedEvent)} (hNodes : ∀ node ∈ nodes, SpellsNode node)
    (hEven : nodes.length % 2 = 0) :
    SpellsNode (⟨.mappingStart anchor tag, start⟩ :: (nodes.flatten ++ [⟨.mappingEnd, close⟩]))

namespace Outline

def SpellsOut (t : Outline) (events : List PlacedEvent) : Prop :=
  t.steps = events.map PlacedEvent.step

def anchor? : Outline → Option Nat
  | scalar _ _ _ anchor _ => anchor
  | aliasTo .. => none
  | sequence opening .. => opening.anchor
  | mapping opening .. => opening.anchor

theorem exists_itemSteps {nodes : List (List PlacedEvent)}
    (h : ∀ node ∈ nodes, ∃ t : Outline, t.SpellsOut node) :
    ∃ items : List Outline, items.length = nodes.length ∧
      itemSteps items = nodes.flatten.map PlacedEvent.step := by
  induction nodes with
  | nil => exact ⟨[], rfl, rfl⟩
  | cons node nodes ih =>
    obtain ⟨⟨t, ht⟩, hRest⟩ := List.forall_mem_cons.mp h
    obtain ⟨items, hLength, hItems⟩ := ih hRest
    refine ⟨t :: items, by simp [hLength], ?_⟩
    rw [itemSteps, hItems, ht, List.flatten_cons, List.map_append]

theorem exists_entrySteps : ∀ {items : List Outline}, items.length % 2 = 0 →
    ∃ entries : List (Outline × Outline), entrySteps entries = itemSteps items
  | [], _ => ⟨[], rfl⟩
  | [_], h => nomatch h
  | key :: value :: items, h => by
    have hRest : items.length % 2 = 0 := by
      rw [List.length_cons, List.length_cons] at h
      omega
    obtain ⟨entries, hEntries⟩ := exists_entrySteps hRest
    exact ⟨(key, value) :: entries, by rw [entrySteps, hEntries, itemSteps, itemSteps]⟩

theorem exists_spellsOut {events : List PlacedEvent} (h : SpellsNode events) :
    ∃ t : Outline, t.SpellsOut events := by
  induction h with
  | scalar mark text style anchor tag =>
    exact ⟨.scalar ⟨mark, mark, false⟩ text style anchor tag, rfl⟩
  | aliasTo mark id => exact ⟨.aliasTo ⟨mark, mark, false⟩ id, rfl⟩
  | sequence start close anchor tag hNodes ih =>
    obtain ⟨items, -, hItems⟩ := exists_itemSteps ih
    refine ⟨.sequence ⟨⟨start, start, false⟩, anchor, tag⟩ items ⟨close, close, false⟩, ?_⟩
    rw [SpellsOut, steps, hItems]
    simp [PlacedEvent.step]
  | mapping start close anchor tag hNodes hEven ih =>
    obtain ⟨items, hLength, hItems⟩ := exists_itemSteps ih
    obtain ⟨entries, hEntries⟩ := exists_entrySteps (hLength ▸ hEven)
    refine ⟨.mapping ⟨⟨start, start, false⟩, anchor, tag⟩ entries ⟨close, close, false⟩, ?_⟩
    rw [SpellsOut, steps, hEntries, hItems]
    simp [PlacedEvent.step]

/-! ## The tree of an outline -/

mutual

/-- A node is what an outline stands for, wherever it is placed and whatever comment it has. An
alias holds a copy of the node that is known by its anchor. -/
def Reads (known : Nat → Option Node) : Outline → Node → Prop
  | scalar _ text style _ tag, n =>
    ∃ place, n = .scalar place (Scalar.resolve text style tag) text
  | aliasTo _ id, n => ∃ place target, n = .aliasTo place target ∧ known id = some target
  | sequence _ items _, n => ∃ place nodes, n = .sequence place nodes ∧ ReadsItems known items nodes
  | mapping _ entries _, n =>
    ∃ place nodes, n = .mapping place nodes ∧ ReadsEntries known entries nodes

def ReadsItems (known : Nat → Option Node) : List Outline → List Node → Prop
  | [], nodes => nodes = []
  | item :: rest, nodes =>
    ∃ n more, nodes = n :: more ∧ Reads known item n ∧ ReadsItems known rest more

def ReadsEntries (known : Nat → Option Node) :
    List (Outline × Outline) → List (Node × Node) → Prop
  | [], nodes => nodes = []
  | (key, value) :: rest, nodes =>
    ∃ k v more, nodes = (k, v) :: more ∧ Reads known key k ∧ Reads known value v ∧
      ReadsEntries known rest more

end

variable {known more : Nat → Option Node}

mutual

theorem Reads.mono (hMore : ∀ id n, known id = some n → more id = some n) :
    ∀ (t : Outline) {n : Node}, t.Reads known n → t.Reads more n
  | .scalar .., _, h => h
  | .aliasTo _ id, _, ⟨place, target, hNode, hTarget⟩ =>
    ⟨place, target, hNode, hMore id target hTarget⟩
  | .sequence _ items _, _, ⟨place, nodes, hNode, hItems⟩ =>
    ⟨place, nodes, hNode, ReadsItems.mono hMore items hItems⟩
  | .mapping _ entries _, _, ⟨place, nodes, hNode, hEntries⟩ =>
    ⟨place, nodes, hNode, ReadsEntries.mono hMore entries hEntries⟩

theorem ReadsItems.mono (hMore : ∀ id n, known id = some n → more id = some n) :
    ∀ (items : List Outline) {nodes : List Node},
      ReadsItems known items nodes → ReadsItems more items nodes
  | [], _, h => h
  | item :: rest, _, ⟨n, others, hNodes, hItem, hRest⟩ =>
    ⟨n, others, hNodes, Reads.mono hMore item hItem, ReadsItems.mono hMore rest hRest⟩

theorem ReadsEntries.mono (hMore : ∀ id n, known id = some n → more id = some n) :
    ∀ (entries : List (Outline × Outline)) {nodes : List (Node × Node)},
      ReadsEntries known entries nodes → ReadsEntries more entries nodes
  | [], _, h => h
  | (key, value) :: rest, _, ⟨k, v, others, hNodes, hKey, hValue, hRest⟩ =>
    ⟨k, v, others, hNodes, Reads.mono hMore key hKey, Reads.mono hMore value hValue,
      ReadsEntries.mono hMore rest hRest⟩

end

theorem ReadsItems.append {items others : List Outline} {nodes last : List Node}
    (h : ReadsItems known items nodes) (hOthers : ReadsItems known others last) :
    ReadsItems known (items ++ others) (nodes ++ last) := by
  induction items generalizing nodes with
  | nil =>
    obtain rfl : nodes = [] := h
    exact hOthers
  | cons item items ih =>
    obtain ⟨n, rest, rfl, hItem, hRest⟩ := h
    exact ⟨n, rest ++ last, rfl, hItem, ih hRest⟩

theorem ReadsEntries.append {entries others : List (Outline × Outline)}
    {nodes last : List (Node × Node)} (h : ReadsEntries known entries nodes)
    (hOthers : ReadsEntries known others last) :
    ReadsEntries known (entries ++ others) (nodes ++ last) := by
  induction entries generalizing nodes with
  | nil =>
    obtain rfl : nodes = [] := h
    exact hOthers
  | cons entry entries ih =>
    obtain ⟨k, v, rest, rfl, hKey, hValue, hRest⟩ := h
    exact ⟨k, v, rest ++ last, rfl, hKey, hValue, ih hRest⟩

theorem Reads.withPlace {t : Outline} {n : Node} (h : t.Reads known n) (p : Place) :
    t.Reads known (n.withPlace p) := by
  cases t with
  | scalar spot text style anchor tag =>
    obtain ⟨place, rfl⟩ := h
    exact ⟨p, rfl⟩
  | aliasTo spot id =>
    obtain ⟨place, target, rfl, hTarget⟩ := h
    exact ⟨p, target, rfl, hTarget⟩
  | sequence opening items close =>
    obtain ⟨place, nodes, rfl, hItems⟩ := h
    exact ⟨p, nodes, rfl, hItems⟩
  | mapping opening entries close =>
    obtain ⟨place, nodes, rfl, hEntries⟩ := h
    exact ⟨p, nodes, rfl, hEntries⟩

theorem ReadsEntries.adoptFirstKey {entries : List (Outline × Outline)}
    {nodes : List (Node × Node)} (h : ReadsEntries known entries nodes) (item : Place) :
    ReadsEntries known entries (Builder.adoptFirstKey item nodes).2 := by
  cases entries with
  | nil =>
    obtain rfl : nodes = [] := h
    rfl
  | cons entry entries =>
    obtain ⟨k, v, rest, rfl, hKey, hValue, hRest⟩ := h
    rw [Builder.adoptFirstKey]
    dsimp only
    split
    · exact ⟨k, v, rest, rfl, hKey, hValue, hRest⟩
    · exact ⟨_, v, rest, rfl, hKey.withPlace _, hValue, hRest⟩

end Outline

/-! ## Aliases to aliases -/

namespace Node

def isAlias : Node → Bool
  | aliasTo .. => true
  | _ => false

mutual

/-- No alias in a tree, or in what its aliases hold, has an alias for its target. -/
def HasPlainTargets : Node → Prop
  | scalar .. => True
  | sequence _ items => ItemsHavePlainTargets items
  | mapping _ entries => EntriesHavePlainTargets entries
  | aliasTo _ target => target.isAlias = false ∧ target.HasPlainTargets

def ItemsHavePlainTargets : List Node → Prop
  | [] => True
  | item :: rest => item.HasPlainTargets ∧ ItemsHavePlainTargets rest

def EntriesHavePlainTargets : List (Node × Node) → Prop
  | [] => True
  | (key, value) :: rest =>
    key.HasPlainTargets ∧ value.HasPlainTargets ∧ EntriesHavePlainTargets rest

end

end Node

namespace Outline

variable {known : Nat → Option Node}

theorem Reads.isAlias_eq_false {t : Outline} {n : Node} {id : Nat} (h : t.Reads known n)
    (hAnchor : t.anchor? = some id) : n.isAlias = false := by
  cases t with
  | scalar spot text style anchor tag =>
    obtain ⟨place, rfl⟩ := h
    rfl
  | aliasTo spot id => cases hAnchor
  | sequence opening items close =>
    obtain ⟨place, nodes, rfl, -⟩ := h
    rfl
  | mapping opening entries close =>
    obtain ⟨place, nodes, rfl, -⟩ := h
    rfl

mutual

theorem Reads.hasPlainTargets
    (hKnown : ∀ id n, known id = some n → n.isAlias = false ∧ n.HasPlainTargets) :
    ∀ (t : Outline) {n : Node}, t.Reads known n → n.HasPlainTargets
  | .scalar .., _, ⟨_, rfl⟩ => trivial
  | .aliasTo _ id, _, ⟨_, target, rfl, hTarget⟩ => hKnown id target hTarget
  | .sequence _ items _, _, ⟨_, _, rfl, hItems⟩ => ReadsItems.havePlainTargets hKnown items hItems
  | .mapping _ entries _, _, ⟨_, _, rfl, hEntries⟩ =>
    ReadsEntries.havePlainTargets hKnown entries hEntries

theorem ReadsItems.havePlainTargets
    (hKnown : ∀ id n, known id = some n → n.isAlias = false ∧ n.HasPlainTargets) :
    ∀ (items : List Outline) {nodes : List Node},
      ReadsItems known items nodes → Node.ItemsHavePlainTargets nodes
  | [], _, rfl => trivial
  | item :: rest, _, ⟨_, _, rfl, hItem, hRest⟩ =>
    ⟨Reads.hasPlainTargets hKnown item hItem, ReadsItems.havePlainTargets hKnown rest hRest⟩

theorem ReadsEntries.havePlainTargets
    (hKnown : ∀ id n, known id = some n → n.isAlias = false ∧ n.HasPlainTargets) :
    ∀ (entries : List (Outline × Outline)) {nodes : List (Node × Node)},
      ReadsEntries known entries nodes → Node.EntriesHavePlainTargets nodes
  | [], _, rfl => trivial
  | (key, value) :: rest, _, ⟨_, _, _, rfl, hKey, hValue, hRest⟩ =>
    ⟨Reads.hasPlainTargets hKnown key hKey, Reads.hasPlainTargets hKnown value hValue,
      ReadsEntries.havePlainTargets hKnown rest hRest⟩

end

end Outline

end ConfigReference.Yaml
