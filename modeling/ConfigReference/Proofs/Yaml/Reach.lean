import ConfigReference.Proofs.KeyPath.Spot

/-!
# Nodes inside a tree

A tree reaches the values of its mappings, the items of its sequences and what its aliases stand
for, and in this way all that is inside them. Keys are not gone into.
-/

set_option autoImplicit false

namespace ConfigReference.Yaml.Node

inductive Reaches : Node → Node → Prop where
  | self (n : Node) : Reaches n n
  | value {p : Place} {entries : List (Node × Node)} {e : Node × Node} {m : Node}
    (hEntry : e ∈ entries) (hValue : Reaches e.2 m) : Reaches (mapping p entries) m
  | item {p : Place} {items : List Node} {n m : Node} (hItem : n ∈ items) (hInside : Reaches n m) :
    Reaches (sequence p items) m
  | target {p : Place} {n m : Node} (hTarget : Reaches n m) : Reaches (aliasTo p n) m

theorem reaches_scalar_iff {p : Place} {tag : ScalarTag} {text : String} {m : Node} :
    Reaches (scalar p tag text) m ↔ m = scalar p tag text := by
  constructor
  · rintro ⟨⟩
    rfl
  · rintro rfl
    exact .self _

theorem reaches_sequence_iff {p : Place} {items : List Node} {m : Node} :
    Reaches (sequence p items) m ↔ m = sequence p items ∨ ∃ n ∈ items, n.Reaches m := by
  constructor
  · rintro (_ | _ | ⟨hItem, hInside⟩)
    · exact Or.inl rfl
    · exact Or.inr ⟨_, hItem, hInside⟩
  · rintro (rfl | ⟨n, hItem, hInside⟩)
    · exact .self _
    · exact .item hItem hInside

theorem reaches_mapping_iff {p : Place} {entries : List (Node × Node)} {m : Node} :
    Reaches (mapping p entries) m ↔ m = mapping p entries ∨ ∃ e ∈ entries, e.2.Reaches m := by
  constructor
  · rintro (_ | ⟨hEntry, hValue⟩)
    · exact Or.inl rfl
    · exact Or.inr ⟨_, hEntry, hValue⟩
  · rintro (rfl | ⟨e, hEntry, hValue⟩)
    · exact .self _
    · exact .value hEntry hValue

theorem reaches_aliasTo_iff {p : Place} {n m : Node} :
    Reaches (aliasTo p n) m ↔ m = aliasTo p n ∨ n.Reaches m := by
  constructor
  · rintro (_ | _ | _ | hTarget)
    · exact Or.inl rfl
    · exact Or.inr hTarget
  · rintro (rfl | hTarget)
    · exact .self _
    · exact .target hTarget

theorem Reaches.trans {n m k : Node} (h : n.Reaches m) (hNext : m.Reaches k) : n.Reaches k := by
  induction h with
  | self n => exact hNext
  | value hEntry hValue ih => exact .value hEntry (ih hNext)
  | item hItem hInside ih => exact .item hItem (ih hNext)
  | target hTarget ih => exact .target (ih hNext)

theorem reaches_of_mem_parts {n : Node} {part : KeyPath.Step × Node} (h : part ∈ n.parts) :
    n.Reaches part.2 := by
  fun_induction parts n with
  | case1 p tag text => cases h
  | case2 p target ih => exact .target (ih h)
  | case3 p items =>
    obtain ⟨i, hi, rfl⟩ := List.mem_mapIdx.mp h
    exact .item (List.getElem_mem hi) (.self _)
  | case4 p entries =>
    obtain ⟨e, he, rfl⟩ := List.mem_map.mp h
    exact .value he (.self _)

end ConfigReference.Yaml.Node
