import Mathlib.Data.List.Basic
import ConfigReference.Proofs.KeyPath.Address

/-!
# Spots

The addresses of a tree can repeat where a mapping has a key twice. A spot says in numbers which
part of which container is meant, so that each value has one spot. The spots in their lexicographic
order are the document order of the values: a value comes before what is inside it, and that before
the next part.
-/

set_option autoImplicit false

namespace ConfigReference.Yaml.Node

open KeyPath

/-- The parts of a container, each behind the step to it. -/
def parts : Node → List (Step × Node)
  | scalar .. => []
  | aliasTo _ target => target.parts
  | sequence _ items => items.mapIdx fun i item => (.item i, item)
  | mapping _ entries => entries.map fun e => (.key e.1.text, e.2)

/-- The address of the value at a spot, if there is one. -/
def stepsAt? (n : Node) : List Nat → Option (List Step)
  | [] => some []
  | i :: rest => n.parts[i]?.bind fun part => (part.2.stepsAt? rest).map (part.1 :: ·)

theorem sizeOf_lt_of_mem_parts {n : Node} {part : Step × Node} (h : part ∈ n.parts) :
    sizeOf part.2 < sizeOf n := by
  fun_induction parts n with
  | case1 p tag text => cases h
  | case2 p target ih =>
    have hTarget := ih h
    rw [aliasTo.sizeOf_spec]
    omega
  | case3 p items =>
    obtain ⟨i, hi, rfl⟩ := List.mem_mapIdx.mp h
    have hItem := List.sizeOf_lt_of_mem (List.getElem_mem hi)
    rw [sequence.sizeOf_spec]
    dsimp only
    omega
  | case4 p entries =>
    obtain ⟨e, he, rfl⟩ := List.mem_map.mp h
    have hEntry := List.sizeOf_lt_of_mem he
    have hPair : sizeOf e = 1 + sizeOf e.1 + sizeOf e.2 := rfl
    rw [mapping.sizeOf_spec]
    dsimp only
    omega

theorem induction_on_parts {motive : Node → Prop}
    (step : ∀ n, (∀ part ∈ n.parts, motive part.2) → motive n) (n : Node) : motive n :=
  step n fun part _ => induction_on_parts step part.2
termination_by sizeOf n
decreasing_by exact sizeOf_lt_of_mem_parts ‹_›

def underPart (i : Nat) (s : Step) (inside : List (List Nat × List Step)) :
    List (List Nat × List Step) :=
  ([i], [s]) :: inside.map fun found => (i :: found.1, s :: found.2)

/-- The spots of the values inside a node, each with its address. -/
def spots (n : Node) : List (List Nat × List Step) :=
  n.parts.attach.zipIdx.flatMap fun x => underPart x.2 x.1.1.1 x.1.1.2.spots
termination_by sizeOf n
decreasing_by exact sizeOf_lt_of_mem_parts x.1.2

theorem spots_eq (n : Node) :
    n.spots = n.parts.zipIdx.flatMap fun x => underPart x.2 x.1.1 x.1.2.spots := by
  have hParts : n.parts.zipIdx = n.parts.attach.zipIdx.map (Prod.map Subtype.val id) := by
    rw [← List.zipIdx_map, List.attach_map_subtype_val]
  rw [spots, hParts, List.flatMap_map]
  rfl

theorem mem_underPart {i j : Nat} {s : Step} {inside : List (List Nat × List Step)}
    {rest : List Nat} {steps : List Step} :
    (i :: rest, steps) ∈ underPart j s inside ↔
      i = j ∧ ∃ tail, steps = s :: tail ∧ ((rest = [] ∧ tail = []) ∨ (rest, tail) ∈ inside) := by
  rw [underPart, List.mem_cons, List.mem_map]
  constructor
  · rintro (hEq | ⟨⟨_, tail⟩, hInside, hEq⟩)
    · cases hEq
      exact ⟨rfl, [], rfl, Or.inl ⟨rfl, rfl⟩⟩
    · cases hEq
      exact ⟨rfl, tail, rfl, Or.inr hInside⟩
  · rintro ⟨rfl, tail, rfl, ⟨rfl, rfl⟩ | hInside⟩
    · exact Or.inl rfl
    · exact Or.inr ⟨(rest, tail), hInside, rfl⟩

theorem ne_nil_of_mem_underPart {i : Nat} {s : Step} {inside : List (List Nat × List Step)}
    {found : List Nat × List Step} (h : found ∈ underPart i s inside) :
    ∃ rest, found.1 = i :: rest := by
  rcases List.mem_cons.mp h with rfl | h
  · exact ⟨[], rfl⟩
  · obtain ⟨deeper, -, rfl⟩ := List.mem_map.mp h
    exact ⟨deeper.1, rfl⟩

theorem mem_spots {n : Node} {spot : List Nat} {steps : List Step} :
    (spot, steps) ∈ n.spots ↔ spot ≠ [] ∧ n.stepsAt? spot = some steps := by
  induction n using induction_on_parts generalizing spot steps with
  | step n ih =>
    rw [spots_eq, List.mem_flatMap]
    cases spot with
    | nil =>
      simp only [ne_eq, not_true_eq_false, false_and, iff_false]
      rintro ⟨x, -, hFound⟩
      obtain ⟨rest, hSpot⟩ := ne_nil_of_mem_underPart hFound
      cases hSpot
    | cons i rest =>
      have hInside : ∀ part ∈ n.parts, ∀ tail,
          (rest = [] ∧ tail = []) ∨ (rest, tail) ∈ part.2.spots ↔
            part.2.stepsAt? rest = some tail := by
        intro part hPart tail
        rw [ih part hPart]
        cases rest with
        | nil => simp [stepsAt?, eq_comm]
        | cons j rest => simp
      rw [stepsAt?]
      simp only [List.mem_zipIdx_iff_getElem?, mem_underPart, Option.bind_eq_some_iff,
        Option.map_eq_some_iff]
      constructor
      · rintro ⟨⟨part, j⟩, hPart, rfl, tail, rfl, hTail⟩
        have hMem := List.mem_of_getElem? hPart
        exact ⟨List.cons_ne_nil _ _, part, hPart, tail, (hInside part hMem tail).mp hTail, rfl⟩
      · rintro ⟨-, part, hPart, tail, hTail, rfl⟩
        have hMem := List.mem_of_getElem? hPart
        exact ⟨(part, i), hPart, rfl, tail, rfl, (hInside part hMem tail).mpr hTail⟩

theorem pairwise_zipIdx {α : Type} (items : List α) :
    items.zipIdx.Pairwise fun x y => x.2 < y.2 := by
  have hRange : (items.zipIdx.map Prod.snd).Pairwise (· < ·) := by
    rw [List.zipIdx_map_snd]
    exact List.pairwise_lt_range' 1
  exact List.pairwise_map.mp hRange

theorem pairwise_spots (n : Node) : n.spots.Pairwise fun a b => a.1 < b.1 := by
  induction n using induction_on_parts with
  | step n ih =>
    rw [spots_eq, List.pairwise_flatMap]
    constructor
    · rintro ⟨part, i⟩ hPart
      have hMem := List.mem_of_getElem? (List.mem_zipIdx_iff_getElem?.mp hPart)
      rw [underPart, List.pairwise_cons, List.pairwise_map]
      constructor
      · intro found hFound
        obtain ⟨deeper, hDeeper, rfl⟩ := List.mem_map.mp hFound
        obtain ⟨j, rest, hSpot⟩ := List.exists_cons_of_ne_nil (mem_spots.mp hDeeper).1
        rw [hSpot, List.cons_lt_cons_self]
        exact List.nil_lt_cons j rest
      · exact (ih part hMem).imp fun hLt => List.cons_lt_cons_self.mpr hLt
    · refine (pairwise_zipIdx n.parts).imp ?_
      intro x y hLt a ha b hb
      obtain ⟨rest, hA⟩ := ne_nil_of_mem_underPart ha
      obtain ⟨others, hB⟩ := ne_nil_of_mem_underPart hb
      rw [hA, hB, List.cons_lt_cons_iff]
      exact Or.inl hLt

/-! ## Addresses of spots -/

theorem itemAddresses_eq (steps : List Step) (index : Nat) (items : List Node) :
    itemAddresses steps index items =
      (items.mapIdx fun i item => (Step.item (index + i), item)).flatMap fun part =>
        (steps ++ [part.1]) :: addressesBelow (steps ++ [part.1]) part.2 := by
  induction items generalizing index with
  | nil => rfl
  | cons item rest ih =>
    rw [itemAddresses, ih, List.mapIdx_cons, List.flatMap_cons]
    simp only [Nat.add_zero, Nat.add_assoc, Nat.add_comm 1]

theorem entryAddresses_eq (steps : List Step) (entries : List (Node × Node)) :
    entryAddresses steps entries =
      (entries.map fun e => (Step.key e.1.text, e.2)).flatMap fun part =>
        (steps ++ [part.1]) :: addressesBelow (steps ++ [part.1]) part.2 := by
  induction entries with
  | nil => rfl
  | cons e rest ih => rw [entryAddresses, ih, List.map_cons, List.flatMap_cons]

theorem addressesBelow_eq (steps : List Step) (n : Node) :
    addressesBelow steps n = n.parts.flatMap fun part =>
      (steps ++ [part.1]) :: addressesBelow (steps ++ [part.1]) part.2 := by
  fun_induction parts n with
  | case1 p tag text => rw [addressesBelow, List.flatMap_nil]
  | case2 p target ih => rw [addressesBelow, ih]
  | case3 p items =>
    rw [addressesBelow, itemAddresses_eq]
    simp only [Nat.zero_add]
  | case4 p entries => rw [addressesBelow, entryAddresses_eq]

theorem map_underPart (steps : List Step) (i : Nat) (s : Step)
    (inside : List (List Nat × List Step)) :
    (underPart i s inside).map (steps ++ ·.2) =
      (steps ++ [s]) :: inside.map (steps ++ [s] ++ ·.2) := by
  rw [underPart, List.map_cons, List.map_map]
  simp

theorem addressesBelow_eq_map_spots (steps : List Step) (n : Node) :
    addressesBelow steps n = n.spots.map (steps ++ ·.2) := by
  induction n using induction_on_parts generalizing steps with
  | step n ih =>
    have hPart : ∀ x ∈ n.parts.zipIdx, (underPart x.2 x.1.1 x.1.2.spots).map (steps ++ ·.2) =
        (steps ++ [x.1.1]) :: addressesBelow (steps ++ [x.1.1]) x.1.2 := by
      intro x hx
      have hMem := List.mem_of_getElem? (List.mem_zipIdx_iff_getElem?.mp hx)
      rw [map_underPart, ih x.1 hMem]
    have hParts : n.parts = n.parts.zipIdx.map Prod.fst := (List.zipIdx_map_fst 0 n.parts).symm
    rw [addressesBelow_eq, spots_eq, List.map_flatMap, List.flatMap_congr hPart]
    conv_lhs => rw [hParts, List.flatMap_map]

theorem addresses_eq_map_spots (root : Node) : root.addresses = root.spots.map (·.2) := by
  rw [addresses, addressesBelow_eq_map_spots]
  rfl

end ConfigReference.Yaml.Node
