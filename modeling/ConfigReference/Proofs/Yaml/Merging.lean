import Mathlib.Data.List.DropRight
import ConfigReference.Yaml.Node.Merge

/-!
# Keys of merged trees

A mapping laid over another adds its keys to those that are there. The root of a tree is laid over
what was merged before in the same way as a value is, so a root that is no mapping replaces all of
it: the keys of a merge are those of the mappings behind the last such root.
-/

set_option autoImplicit false

namespace ConfigReference.Yaml.Node

def isMapping : Node → Bool
  | mapping .. => true
  | _ => false

def entryTexts (entries : List (Node × Node)) : List String := entries.map (·.1.text)

/-- The texts of the keys of a mapping; other nodes have none. -/
def keyTexts : Node → List String
  | mapping _ entries => entryTexts entries
  | _ => []

theorem keyTexts_of_not_isMapping {n : Node} (h : n.isMapping = false) : n.keyTexts = [] := by
  cases n with
  | mapping p entries => cases h
  | scalar p tag text => rfl
  | sequence p items => rfl
  | aliasTo p target => rfl

theorem entryTexts_cons (e : Node × Node) (entries : List (Node × Node)) :
    entryTexts (e :: entries) = e.1.text :: entryTexts entries := rfl

theorem entryTexts_alterEntry (new : Node × Node) (change : Node → Node)
    (entries : List (Node × Node)) :
    entryTexts (alterEntry new change entries) =
      if new.1.text ∈ entryTexts entries then entryTexts entries
      else entryTexts entries ++ [new.1.text] := by
  induction entries with
  | nil => rfl
  | cons e rest ih =>
    rw [alterEntry]
    by_cases hKey : e.1.text = new.1.text
    · simp [entryTexts_cons, hKey]
    · have hNe : new.1.text ≠ e.1.text := fun h => hKey h.symm
      rw [if_neg hKey, entryTexts_cons, ih, entryTexts_cons]
      by_cases hMem : new.1.text ∈ entryTexts rest <;> simp [hMem, hNe]

theorem mem_entryTexts_alterEntry {new : Node × Node} {change : Node → Node}
    {entries : List (Node × Node)} {key : String} :
    key ∈ entryTexts (alterEntry new change entries) ↔
      key ∈ entryTexts entries ∨ key = new.1.text := by
  rw [entryTexts_alterEntry]
  split
  · constructor
    · exact Or.inl
    · rintro (h | rfl)
      · exact h
      · assumption
  · simp

theorem mem_entryTexts_mergeEntries {base above : List (Node × Node)} {key : String} :
    key ∈ entryTexts (mergeEntries base above) ↔
      key ∈ entryTexts base ∨ key ∈ entryTexts above := by
  induction above generalizing base with
  | nil =>
    rw [mergeEntries]
    simp [entryTexts]
  | cons e rest ih =>
    rw [mergeEntries, ih, mem_entryTexts_alterEntry, or_assoc]
    simp [entryTexts]

theorem isMapping_merge (base above : Node) : (merge base above).isMapping = above.isMapping := by
  cases above with
  | mapping q entries => cases base <;> simp [merge, isMapping]
  | scalar p tag text => cases base <;> simp [merge]
  | sequence p items => cases base <;> simp [merge]
  | aliasTo p target => cases base <;> simp [merge]

theorem mem_keyTexts_merge {base above : Node} (h : above.isMapping = true) {key : String} :
    key ∈ (merge base above).keyTexts ↔ key ∈ base.keyTexts ∨ key ∈ above.keyTexts := by
  cases above with
  | mapping q entries =>
    cases base with
    | mapping p base =>
      rw [merge]
      exact mem_entryTexts_mergeEntries
    | scalar p tag text => simp [merge, keyTexts]
    | sequence p items => simp [merge, keyTexts]
    | aliasTo p target => simp [merge, keyTexts]
  | scalar p tag text => cases h
  | sequence p items => cases h
  | aliasTo p target => cases h

theorem mergeAll_concat (trees : List Node) (last : Node) :
    mergeAll (trees ++ [last]) = merge (mergeAll trees) last := by
  rw [mergeAll, List.foldl_concat, mergeAll]

theorem isMapping_mergeAll (trees : List Node) :
    (mergeAll trees).isMapping = trees.getLast?.all isMapping := by
  induction trees using List.reverseRecOn with
  | nil => rfl
  | append_singleton trees last _ => simp [mergeAll_concat, isMapping_merge]

theorem mem_keyTexts_mergeAll {trees : List Node} {key : String} :
    key ∈ (mergeAll trees).keyTexts ↔ ∃ t ∈ trees.rtakeWhile isMapping, key ∈ t.keyTexts := by
  induction trees using List.reverseRecOn with
  | nil => simp [mergeAll, emptyMapping, keyTexts, entryTexts]
  | append_singleton trees last ih =>
    rw [mergeAll_concat]
    by_cases hLast : last.isMapping = true
    · rw [mem_keyTexts_merge hLast, ih, List.rtakeWhile_concat_pos _ _ _ hLast]
      simp [or_and_right, exists_or]
    · have hKeys : (merge (mergeAll trees) last).keyTexts = [] := by
        apply keyTexts_of_not_isMapping
        rw [isMapping_merge]
        simpa using hLast
      rw [List.rtakeWhile_concat_neg _ _ _ hLast, hKeys]
      simp

/-- A merge is a mapping when the last tree is one, or there is none. Its keys are those of the
mappings behind the last tree that is no mapping: nothing is lost among mappings, and any other root
erases what was merged before it. -/
theorem keyTexts_of_mergeAll (trees : List Node) :
    (mergeAll trees).isMapping = trees.getLast?.all isMapping ∧
    (∀ key, key ∈ (mergeAll trees).keyTexts ↔
      ∃ t ∈ trees.rtakeWhile isMapping, key ∈ t.keyTexts) ∧
    ((∀ t ∈ trees, t.isMapping = true) →
      ∀ t ∈ trees, ∀ key ∈ t.keyTexts, key ∈ (mergeAll trees).keyTexts) := by
  refine ⟨isMapping_mergeAll trees, fun key => mem_keyTexts_mergeAll, ?_⟩
  intro hMappings t ht key hKey
  rw [mem_keyTexts_mergeAll, List.rtakeWhile_eq_self_iff.mpr hMappings]
  exact ⟨t, ht, hKey⟩

/-- A sequence between two mappings erases the key of the first. -/
theorem sequence_erases_keys :
    ¬∀ trees : List Node, (mergeAll trees).isMapping = true →
      ∀ t ∈ trees, t.isMapping = true → ∀ key ∈ t.keyTexts, key ∈ (mergeAll trees).keyTexts := by
  intro h
  let leaf (key : String) : Node := mapping {} [(scalar {} .str key, scalar {} .int "1")]
  have hLost := h [leaf "a", sequence {} [scalar {} .str "x"], leaf "b"] (by decide) (leaf "a")
    List.mem_cons_self rfl "a" (by decide)
  exact absurd hLost (by decide)

end ConfigReference.Yaml.Node
