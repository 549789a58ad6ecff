import ConfigReference.Proofs.Yaml.Reach
import ConfigReference.Yaml.Node.Prune

/-!
# What pruning leaves

An element of a tree, an entry or an item, is left by pruning exactly if neither it nor anything
that it lies in is ignored. What is left is as it was and in its order, nothing ignored is left, and
pruning again changes nothing.
-/

set_option autoImplicit false

namespace ConfigReference.Yaml.Node

def bare : Node → Node
  | scalar p tag text => scalar p tag text
  | sequence p _ => sequence p []
  | mapping p _ => mapping p []
  | aliasTo p target => aliasTo p target.bare

/-- An entry with its key, or an item without one, the value being bare. -/
structure Element where
  key? : Option Node
  value : Node

def Element.isIgnored (e : Element) : Bool := e.key?.any Node.isIgnored || e.value.isIgnored

/-- The trail of an element by itself, and those of what is inside it. -/
def trailsFrom (e : Element) (inside : List (List Element)) : List (List Element) :=
  [e] :: inside.map (e :: ·)

mutual

/-- The trails of the elements inside a tree, in document order. The trail of an element are those
that it lies in, outermost first, and the element itself at the end. -/
def trails : Node → List (List Element)
  | scalar .. => []
  | sequence _ items => itemTrails items
  | mapping _ entries => entryTrails entries
  | aliasTo _ target => trails target

def itemTrails : List Node → List (List Element)
  | [] => []
  | item :: rest => trailsFrom ⟨none, item.bare⟩ item.trails ++ itemTrails rest

def entryTrails : List (Node × Node) → List (List Element)
  | [] => []
  | (key, value) :: rest => trailsFrom ⟨some key, value.bare⟩ value.trails ++ entryTrails rest

end

def isKeptTrail (trail : List Element) : Bool := trail.all fun e => !e.isIgnored

theorem isIgnored_prune (n : Node) : n.prune.isIgnored = n.isIgnored := by
  rw [isIgnored, place_prune, isIgnored]

theorem bare_prune (n : Node) : n.prune.bare = n.bare := by
  induction n using resolve.induct with
  | case1 p target ih => rw [prune, bare, ih, bare]
  | case2 n hNoAlias =>
    cases n with
    | scalar p tag text => rfl
    | sequence p items => rfl
    | mapping p entries => rfl
    | aliasTo p target => exact absurd rfl (hNoAlias p target)

theorem isIgnored_bare (n : Node) : n.bare.isIgnored = n.isIgnored := by
  cases n <;> rfl

/-! ## Everything else is left -/

theorem filter_trailsFrom (e : Element) (inside : List (List Element)) :
    (trailsFrom e inside).filter isKeptTrail =
      if e.isIgnored then [] else trailsFrom e (inside.filter isKeptTrail) := by
  have hTrail (trail : List Element) :
      isKeptTrail (e :: trail) = (!e.isIgnored && isKeptTrail trail) := List.all_cons
  have hAlone : isKeptTrail [e] = !e.isIgnored := by rw [hTrail]; exact Bool.and_true _
  have hInside : isKeptTrail ∘ (e :: ·) = fun trail => !e.isIgnored && isKeptTrail trail :=
    funext hTrail
  rw [trailsFrom, List.filter_cons, List.filter_map, hAlone, hInside]
  cases e.isIgnored with
  | true => simp
  | false => rfl

mutual

theorem trails_prune (n : Node) : n.prune.trails = n.trails.filter isKeptTrail := by
  match n with
  | scalar p tag text => rfl
  | sequence p items =>
    rw [prune, trails, trails]
    exact itemTrails_prune items
  | mapping p entries =>
    rw [prune, trails, trails]
    exact entryTrails_prune entries
  | aliasTo p target =>
    rw [prune, trails, trails]
    exact trails_prune target

theorem itemTrails_prune (items : List Node) :
    itemTrails (pruneItems items) = (itemTrails items).filter isKeptTrail := by
  match items with
  | [] => rfl
  | item :: rest =>
    have hIgnored : Element.isIgnored ⟨none, item.bare⟩ = item.isIgnored := isIgnored_bare item
    rw [itemTrails, List.filter_append, filter_trailsFrom, hIgnored, pruneItems]
    split
    · rw [List.nil_append, itemTrails_prune rest]
    · rw [itemTrails, bare_prune, trails_prune item, itemTrails_prune rest]

theorem entryTrails_prune (entries : List (Node × Node)) :
    entryTrails (pruneEntries entries) = (entryTrails entries).filter isKeptTrail := by
  match entries with
  | [] => rfl
  | (key, value) :: rest =>
    have hIgnored : Element.isIgnored ⟨some key, value.bare⟩ =
        (key.isIgnored || value.isIgnored) := by
      rw [Element.isIgnored, isIgnored_bare]
      rfl
    rw [entryTrails, List.filter_append, filter_trailsFrom, hIgnored, pruneEntries]
    split
    · rw [List.nil_append, entryTrails_prune rest]
    · rw [entryTrails, bare_prune, trails_prune value, entryTrails_prune rest]

end

/-! ## Nothing ignored is left -/

structure HasNoneIgnored (n : Node) : Prop where
  entries : ∀ p entries, n.Reaches (mapping p entries) →
    ∀ e ∈ entries, e.1.isIgnored = false ∧ e.2.isIgnored = false
  items : ∀ p items, n.Reaches (sequence p items) → ∀ item ∈ items, item.isIgnored = false

theorem HasNoneIgnored.of_reaches {n m : Node} (h : n.HasNoneIgnored) (hReaches : n.Reaches m) :
    m.HasNoneIgnored where
  entries p entries hInside := h.entries p entries (hReaches.trans hInside)
  items p items hInside := h.items p items (hReaches.trans hInside)

theorem mem_pruneItems {items : List Node} {n : Node} :
    n ∈ pruneItems items ↔ ∃ item ∈ items, item.isIgnored = false ∧ n = item.prune := by
  induction items with
  | nil => simp [pruneItems]
  | cons item rest ih =>
    rw [pruneItems]
    cases hIgnored : item.isIgnored <;> simp [ih, hIgnored]

theorem mem_pruneEntries {entries : List (Node × Node)} {e : Node × Node} :
    e ∈ pruneEntries entries ↔ ∃ d ∈ entries,
      (d.1.isIgnored = false ∧ d.2.isIgnored = false) ∧ e = (d.1, d.2.prune) := by
  induction entries with
  | nil => simp [pruneEntries]
  | cons d rest ih =>
    obtain ⟨key, value⟩ := d
    rw [pruneEntries, List.exists_mem_cons_iff, ← ih]
    cases key.isIgnored <;> cases value.isIgnored <;> simp

theorem exists_of_prune_eq_mapping {n : Node} {p : Place} {entries : List (Node × Node)}
    (h : n.prune = mapping p entries) : ∃ es, n = mapping p es ∧ pruneEntries es = entries := by
  cases n with
  | mapping q es =>
    obtain ⟨rfl, hEntries⟩ := mapping.inj h
    exact ⟨es, rfl, hEntries⟩
  | scalar q tag text => cases h
  | sequence q items => cases h
  | aliasTo q target => cases h

theorem exists_of_prune_eq_sequence {n : Node} {p : Place} {items : List Node}
    (h : n.prune = sequence p items) :
    ∃ nodes, n = sequence p nodes ∧ pruneItems nodes = items := by
  cases n with
  | sequence q nodes =>
    obtain ⟨rfl, hItems⟩ := sequence.inj h
    exact ⟨nodes, rfl, hItems⟩
  | scalar q tag text => cases h
  | mapping q es => cases h
  | aliasTo q target => cases h

theorem exists_of_prune_eq_aliasTo {n : Node} {p : Place} {target : Node}
    (h : n.prune = aliasTo p target) : ∃ k, n = aliasTo p k ∧ k.prune = target := by
  cases n with
  | aliasTo q k =>
    obtain ⟨rfl, hTarget⟩ := aliasTo.inj h
    exact ⟨k, rfl, hTarget⟩
  | scalar q tag text => cases h
  | sequence q items => cases h
  | mapping q es => cases h

theorem Reaches.exists_of_prune {n m : Node} (h : n.prune.Reaches m) :
    ∃ k, n.Reaches k ∧ k.prune = m := by
  generalize hPruned : n.prune = t at h
  induction h generalizing n with
  | self t => exact ⟨n, .self n, hPruned⟩
  | value hEntry _ ih =>
    obtain ⟨es, rfl, rfl⟩ := exists_of_prune_eq_mapping hPruned
    obtain ⟨d, hd, -, rfl⟩ := mem_pruneEntries.mp hEntry
    obtain ⟨k, hk, hEq⟩ := ih rfl
    exact ⟨k, .value hd hk, hEq⟩
  | item hItem _ ih =>
    obtain ⟨nodes, rfl, rfl⟩ := exists_of_prune_eq_sequence hPruned
    obtain ⟨d, hd, -, rfl⟩ := mem_pruneItems.mp hItem
    obtain ⟨k, hk, hEq⟩ := ih rfl
    exact ⟨k, .item hd hk, hEq⟩
  | target _ ih =>
    obtain ⟨k, rfl, hTarget⟩ := exists_of_prune_eq_aliasTo hPruned
    obtain ⟨m, hm, hEq⟩ := ih hTarget
    exact ⟨m, .target hm, hEq⟩

theorem hasNoneIgnored_prune (n : Node) : n.prune.HasNoneIgnored := by
  constructor
  · intro p entries hReaches e he
    obtain ⟨k, -, hk⟩ := hReaches.exists_of_prune
    obtain ⟨es, -, rfl⟩ := exists_of_prune_eq_mapping hk
    obtain ⟨d, -, hStays, rfl⟩ := mem_pruneEntries.mp he
    rwa [isIgnored_prune]
  · intro p items hReaches item hItem
    obtain ⟨k, -, hk⟩ := hReaches.exists_of_prune
    obtain ⟨nodes, -, rfl⟩ := exists_of_prune_eq_sequence hk
    obtain ⟨d, -, hStays, rfl⟩ := mem_pruneItems.mp hItem
    rwa [isIgnored_prune]

mutual

theorem prune_eq_self {n : Node} (h : n.HasNoneIgnored) : n.prune = n := by
  match n with
  | scalar p tag text => rfl
  | sequence p items =>
    rw [prune, pruneItems_eq_self fun item hItem =>
      ⟨h.items p items (.self _) item hItem, h.of_reaches (.item hItem (.self _))⟩]
  | mapping p entries =>
    rw [prune, pruneEntries_eq_self fun e he =>
      ⟨h.entries p entries (.self _) e he, h.of_reaches (.value he (.self _))⟩]
  | aliasTo p target => rw [prune, prune_eq_self (h.of_reaches (.target (.self _)))]

theorem pruneItems_eq_self {items : List Node}
    (h : ∀ item ∈ items, item.isIgnored = false ∧ item.HasNoneIgnored) :
    pruneItems items = items := by
  match items with
  | [] => rfl
  | item :: rest =>
    obtain ⟨⟨hStays, hInside⟩, hRest⟩ := List.forall_mem_cons.mp h
    rw [pruneItems, hStays, if_neg Bool.false_ne_true, prune_eq_self hInside,
      pruneItems_eq_self hRest]

theorem pruneEntries_eq_self {entries : List (Node × Node)}
    (h : ∀ e ∈ entries, (e.1.isIgnored = false ∧ e.2.isIgnored = false) ∧ e.2.HasNoneIgnored) :
    pruneEntries entries = entries := by
  match entries with
  | [] => rfl
  | (key, value) :: rest =>
    obtain ⟨⟨⟨hKey, hValue⟩, hInside⟩, hRest⟩ := List.forall_mem_cons.mp h
    have hStays : (key.isIgnored || value.isIgnored) = false := by rw [hKey, hValue]; rfl
    rw [pruneEntries, hStays, if_neg Bool.false_ne_true, prune_eq_self hInside,
      pruneEntries_eq_self hRest]

end

/-- Pruning leaves nothing ignored. It leaves just those entries and items, in their order and with
their keys, places, comments and texts, that are not ignored and lie in nothing ignored. What is
pruned already stays as it is. -/
theorem pruning_leaves_what_is_not_ignored (root : Node) :
    root.prune.HasNoneIgnored ∧
    root.prune.bare = root.bare ∧
    root.prune.trails = root.trails.filter (fun trail => trail.all fun e => !e.isIgnored) ∧
    root.prune.prune = root.prune :=
  ⟨hasNoneIgnored_prune root, bare_prune root, trails_prune root,
    prune_eq_self (hasNoneIgnored_prune root)⟩

end ConfigReference.Yaml.Node
