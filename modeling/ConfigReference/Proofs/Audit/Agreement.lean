import ConfigReference.Audit
import ConfigReference.Proofs.KeyPath.Address
import ConfigReference.Proofs.Row.Coverage

/-!
# Audit and rows

An audit and the rows go over the same positions of a tree in the same order, and each looks up the
descriptions under a text of its own. At plain addresses the texts are the same, so the audit
reports there what the rows have no description for. At every other address they differ.
-/

set_option autoImplicit false

namespace ConfigReference

open KeyPath

namespace Audit

def stepPart : Step → String
  | .key text => text
  | .item index => indexPart index

/-- The path under which an address is audited. -/
def addressText (steps : List Step) : String := pathText (steps.map stepPart)

theorem addressText_eq_ofSteps_iff (steps : List Step) :
    addressText steps = ofSteps steps ↔ isPlain steps = true := by
  have hChars : (addressText steps).toList = ['.'].intercalate (steps.map Step.chars) := by
    rw [addressText, pathText, String.toList_intercalate, List.map_map]
    congr 1
    refine List.map_congr_left fun s _ => ?_
    cases s <;> simp [stepPart, Step.chars, indexPart]
  rw [← String.toList_inj, hChars, intercalate_chars_eq_iff]

def reported (root : Yaml.Node) (ds : Descriptions) : List (List Step) :=
  root.addresses.filter fun steps => !ds.contains (addressText steps)

def undescribed (ds : Descriptions) (addresses : List (List Step)) : List String :=
  (addresses.map addressText).filter (!ds.contains ·)

theorem undescribed_append (ds : Descriptions) (first others : List (List Step)) :
    undescribed ds (first ++ others) = undescribed ds first ++ undescribed ds others := by
  rw [undescribed, List.map_append, List.filter_append]
  rfl

theorem missing_eq (ds : Descriptions) (steps : List Step) :
    missing ds (steps.map stepPart) = undescribed ds [steps] := by
  rw [missing, undescribed, List.map_singleton, addressText]
  cases hGiven : ds.contains (pathText (steps.map stepPart)) <;> simp [hGiven]

/-- A part of a container is audited before what is below it. -/
theorem undescribed_part {ds : Descriptions} {steps : List Step} {s : Step} {n : Yaml.Node}
    (hBelow : undocumentedBelow ds ((steps ++ [s]).map stepPart) n =
      undescribed ds (n.addressesBelow (steps ++ [s]))) :
    missing ds (steps.map stepPart ++ [stepPart s]) ++
        undocumentedBelow ds (steps.map stepPart ++ [stepPart s]) n =
      undescribed ds ((steps ++ [s]) :: n.addressesBelow (steps ++ [s])) := by
  have hHere := missing_eq ds (steps ++ [s])
  rw [List.map_append] at hHere hBelow
  exact (congrArg₂ (· ++ ·) hHere hBelow).trans
    (undescribed_append ds [steps ++ [s]] (n.addressesBelow (steps ++ [s]))).symm

mutual

theorem undocumentedBelow_eq (ds : Descriptions) (steps : List Step) (n : Yaml.Node) :
    undocumentedBelow ds (steps.map stepPart) n = undescribed ds (n.addressesBelow steps) := by
  match n with
  | .scalar p tag text => rfl
  | .aliasTo p target =>
    rw [undocumentedBelow, Yaml.Node.addressesBelow]
    exact undocumentedBelow_eq ds steps target
  | .sequence p items =>
    rw [undocumentedBelow, Yaml.Node.addressesBelow]
    exact undocumentedItems_eq ds steps 0 items
  | .mapping p entries =>
    rw [undocumentedBelow, Yaml.Node.addressesBelow]
    exact undocumentedEntries_eq ds steps entries

theorem undocumentedItems_eq (ds : Descriptions) (steps : List Step) (index : Nat)
    (items : List Yaml.Node) :
    undocumentedItems ds (steps.map stepPart) index items =
      undescribed ds (Yaml.Node.itemAddresses steps index items) := by
  match items with
  | [] => rfl
  | item :: rest =>
    have hPart := undescribed_part (undocumentedBelow_eq ds (steps ++ [.item index]) item)
    rw [Yaml.Node.itemAddresses, undescribed_append, ← hPart,
      ← undocumentedItems_eq ds steps (index + 1) rest]
    rfl

theorem undocumentedEntries_eq (ds : Descriptions) (steps : List Step)
    (entries : List (Yaml.Node × Yaml.Node)) :
    undocumentedEntries ds (steps.map stepPart) entries =
      undescribed ds (Yaml.Node.entryAddresses steps entries) := by
  match entries with
  | [] => rfl
  | (key, value) :: rest =>
    have hPart := undescribed_part (undocumentedBelow_eq ds (steps ++ [.key key.text]) value)
    rw [Yaml.Node.entryAddresses, undescribed_append, ← hPart,
      ← undocumentedEntries_eq ds steps rest]
    rfl

end

theorem undocumented_eq (root : Yaml.Node) (ds : Descriptions) :
    undocumented root ds = (reported root ds).map addressText := by
  have hBelow := undocumentedBelow_eq ds [] root
  rw [undescribed, List.filter_map] at hBelow
  exact hBelow

theorem check_eq (strict : Bool) (root : Yaml.Node) (ds : Descriptions) :
    check { strict } root ds =
      if (reported root ds).isEmpty then .ok ()
      else .error (.undocumented ((reported root ds).map addressText)) := by
  have hAll : (undocumented root ds).filter (!({ strict } : Policy).allows ·) =
      (reported root ds).map addressText := by
    rw [undocumented_eq]
    exact List.filter_eq_self.mpr fun path _ => rfl
  rw [check, hAll]
  cases reported root ds <;> rfl

theorem check_eq_ok_iff {strict : Bool} {root : Yaml.Node} {ds : Descriptions} :
    check { strict } root ds = .ok () ↔
      ∀ steps ∈ root.addresses, ds.contains (addressText steps) = true := by
  rw [check_eq]
  split
  · rename_i hNone
    rw [List.isEmpty_iff, reported, List.filter_eq_nil_iff] at hNone
    simpa using hNone
  · rename_i hSome
    rw [List.isEmpty_iff, reported, List.filter_eq_nil_iff] at hSome
    simpa using hSome

end Audit

namespace Row

mutual

theorem keys_positionsBelow (around : List (String × Option Yaml.Place)) (steps : List Step)
    (n : Yaml.Node) :
    (positionsBelow around (ofSteps steps) n).map (·.key) =
      (n.addressesBelow steps).map ofSteps := by
  match n with
  | .scalar p tag text => rfl
  | .aliasTo p target =>
    rw [positionsBelow, Yaml.Node.addressesBelow]
    exact keys_positionsBelow around steps target
  | .sequence p items =>
    rw [positionsBelow, Yaml.Node.addressesBelow]
    exact keys_itemPositions around steps 0 items
  | .mapping p entries =>
    rw [positionsBelow, Yaml.Node.addressesBelow]
    exact keys_entryPositions around steps entries

theorem keys_itemPositions (around : List (String × Option Yaml.Place)) (steps : List Step)
    (index : Nat) (items : List Yaml.Node) :
    (itemPositions around (ofSteps steps) index items).map (·.key) =
      (Yaml.Node.itemAddresses steps index items).map ofSteps := by
  match items with
  | [] => rfl
  | item :: rest =>
    have hKey : KeyPath.item (ofSteps steps) index = ofSteps (steps ++ [.item index]) :=
      (ofSteps_concat steps (.item index)).symm
    have hBelow := keys_positionsBelow
      ((ofSteps (steps ++ [.item index]), some item.place) :: around) (steps ++ [.item index]) item
    rw [itemPositions, Yaml.Node.itemAddresses, List.map_append, List.map_append, List.map_cons,
      List.map_cons, keys_itemPositions around steps (index + 1) rest, hKey, hBelow]

theorem keys_entryPositions (around : List (String × Option Yaml.Place)) (steps : List Step)
    (entries : List (Yaml.Node × Yaml.Node)) :
    (entryPositions around (ofSteps steps) entries).map (·.key) =
      (Yaml.Node.entryAddresses steps entries).map ofSteps := by
  match entries with
  | [] => rfl
  | (k, value) :: rest =>
    have hKey : KeyPath.child (ofSteps steps) k.text = ofSteps (steps ++ [.key k.text]) :=
      (ofSteps_concat steps (.key k.text)).symm
    have hBelow := keys_positionsBelow
      ((ofSteps (steps ++ [.key k.text]), some k.place) :: around) (steps ++ [.key k.text]) value
    rw [entryPositions, Yaml.Node.entryAddresses, List.map_append, List.map_append, List.map_cons,
      List.map_cons, keys_entryPositions around steps rest, hKey, hBelow]

end

theorem keys_positions (root : Yaml.Node) :
    (positions root).map (·.key) = "" :: root.addresses.map ofSteps := by
  rw [positions, Position.all, List.map_cons]
  exact congrArg _ (keys_positionsBelow _ [] root)

theorem resolve_mapping_of_rows {root : Yaml.Node} {ds : Descriptions} {rows : List Row}
    (h : Yaml.Node.rows (some root) ds = .ok rows) :
    ∃ p entries, root.resolve = .mapping p entries := by
  rw [Yaml.Node.rows] at h
  split at h
  · rename_i p entries hRoot
    exact ⟨p, entries, hRoot⟩
  · cases h

theorem contains_of_isListed_root {root : Yaml.Node} {ds : Descriptions} {rows : List Row}
    (h : Yaml.Node.rows (some root) ds = .ok rows)
    (hListed : Position.isListed ds ⟨"", none, root, []⟩ = true) : ds.contains "" = true := by
  obtain ⟨p, entries, hRoot⟩ := resolve_mapping_of_rows h
  cases entries with
  | nil =>
    rw [Position.isListed_of_empty ds (by rw [Position.isEmptyContainer, hRoot]; rfl)] at hListed
    simp at hListed
  | cons e rest =>
    rw [Position.isListed_of_parts ds (by rw [Yaml.Node.scalarTag?, hRoot])
      (by rw [Position.isEmptyContainer, hRoot]; rfl)] at hListed
    simpa [Position.isDescribed, describedAt, commentAbove, KeyedMap.contains] using hListed

theorem key_of_mem_rows {root : Yaml.Node} {ds : Descriptions} {rows : List Row} {r : Row}
    (h : Yaml.Node.rows (some root) ds = .ok rows) (hr : r ∈ rows) :
    ds.contains r.key = true ∨ ∃ steps ∈ root.addresses, r.key = ofSteps steps := by
  obtain ⟨p, hp, hDoc⟩ := exists_of_forall₂_left (forall₂_rows h).flip hr
  obtain ⟨hPosition, hListed⟩ := List.mem_filter.mp hp
  rw [hDoc.key]
  rcases List.mem_cons.mp hPosition with rfl | hBelow
  · exact Or.inl (contains_of_isListed_root h hListed)
  · right
    have hKey := List.mem_map_of_mem hBelow (f := (·.key))
    rw [show ("" : String) = ofSteps [] from rfl, keys_positionsBelow] at hKey
    obtain ⟨steps, hSteps, hEq⟩ := List.mem_map.mp hKey
    exact ⟨steps, hSteps, hEq.symm⟩

end Row

namespace Audit

/-- An audit that allows nothing to lack a description reports addresses of a tree in document
order, and these are the positions of the rows. At a plain address it reports just what the rows
have no description for, whatever is described; at another address there are descriptions on which
the two differ. So where all addresses are plain, every row of a tree that passes is described. -/
theorem audit_agrees_at_plain_addresses (root : Yaml.Node) (ds : Descriptions) (strict : Bool) :
    (check { strict } root ds =
      if (reported root ds).isEmpty then .ok ()
      else .error (.undocumented ((reported root ds).map addressText))) ∧
    (Row.positions root).map (·.key) = "" :: root.addresses.map ofSteps ∧
    (∀ steps ∈ root.addresses, isPlain steps = true →
      (steps ∈ reported root ds ↔ ds.get? (ofSteps steps) = none)) ∧
    (∀ steps, isPlain steps = false →
      ∃ other : Descriptions, other.contains (addressText steps) = true ∧
        other.get? (ofSteps steps) = none) ∧
    ((∀ steps ∈ root.addresses, isPlain steps = true) → check { strict } root ds = .ok () →
      ∀ rows, Yaml.Node.rows (some root) ds = .ok rows →
        ∀ r ∈ rows, ds.contains r.key = true) := by
  refine ⟨check_eq strict root ds, Row.keys_positions root, ?_, ?_, ?_⟩
  · intro steps hSteps hPlain
    rw [reported, List.mem_filter, (addressText_eq_ofSteps_iff steps).mpr hPlain]
    simp [hSteps, KeyedMap.contains]
  · intro steps hPlain
    have hNe : ofSteps steps ≠ addressText steps := by
      intro hEq
      rw [(addressText_eq_ofSteps_iff steps).mp hEq.symm] at hPlain
      cases hPlain
    refine ⟨KeyedMap.empty.insert (addressText steps) {}, ?_, ?_⟩
    · rw [KeyedMap.contains, KeyedMap.get?_insert, if_pos rfl]
      rfl
    · rw [KeyedMap.get?_insert, if_neg hNe]
      rfl
  · intro hPlain hPassed rows hRows r hr
    rcases Row.key_of_mem_rows hRows hr with hGiven | ⟨steps, hSteps, hKey⟩
    · exact hGiven
    · rw [hKey, ← (addressText_eq_ofSteps_iff steps).mpr (hPlain steps hSteps)]
      exact check_eq_ok_iff.mp hPassed steps hSteps

/-- An item that the rows find described is reported, and a key with a dot that they do not find
described is not. -/
theorem audit_differs_at_item_and_dotted_key :
    let list : Yaml.Node := .mapping {} [(.scalar {} .str "a",
      .sequence {} [.scalar {} .str "x"])]
    let dotted : Yaml.Node := .mapping {} [(.scalar {} .str "a.b", .scalar {} .str "x")]
    let items : Descriptions := (KeyedMap.empty.insert "a" {}).insert "a[0]" {}
    let keys : Descriptions := KeyedMap.empty.insert "a.b" {}
    ((∀ steps ∈ list.addresses, (items.get? (ofSteps steps)).isSome) ∧
      check {} list items = .error (.undocumented ["a.[0]"])) ∧
    check {} dotted keys = .ok () ∧
      ∃ rows, Yaml.Node.rows (some dotted) keys = .ok rows ∧
        ∃ r ∈ rows, keys.contains r.key = false := by
  intro list dotted items keys
  refine ⟨⟨by decide +kernel, by decide +kernel⟩, by decide +kernel, _, rfl, ?_⟩
  decide +kernel

end Audit

end ConfigReference
