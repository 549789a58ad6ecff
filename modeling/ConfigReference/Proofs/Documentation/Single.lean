import ConfigReference.Documentation
import ConfigReference.Proofs.KeyedMap
import ConfigReference.Proofs.Row.Merging
import ConfigReference.Proofs.Yaml.Inlining

/-!
# A single configuration

Configurations are joined by laying their trees over an empty mapping, one after the other. A single
tree comes out of that with its own entries exactly when none of its keys is given twice, and
without the place of its root, which no row shows. So a run with one configuration can take it as it
is.
-/

set_option autoImplicit false

namespace ConfigReference

namespace Yaml.Node

/-- Entries that are laid over none stay as they are exactly when no key is given twice. -/
theorem mergeEntries_nil_eq_self_iff {entries : List (Node × Node)} :
    mergeEntries [] entries = entries ↔ (entryTexts entries).Nodup := by
  constructor
  · intro h
    have hNone : (entryTexts []).Nodup := List.nodup_nil
    rw [← h]
    exact nodup_entryTexts_mergeEntries hNone entries
  · intro hKeys
    exact mergeEntries_of_nodup hKeys

theorem mergeAll_singleton_mapping (p : Place) (entries : List (Node × Node)) :
    mergeAll [mapping p entries] = mapping {} (mergeEntries [] entries) := by
  rw [mergeAll, List.foldl_cons, List.foldl_nil, emptyMapping, merge_mapping]

theorem rows_withPlace (p : Place) (root : Node) (ds : Descriptions) :
    rows (some (root.withPlace p)) ds = rows (some root) ds := by
  cases root with
  | mapping q entries =>
    exact congrArg (Except.ok ·.1) (Row.flatten_withPlace ds {} "" none true p (.mapping q entries))
  | scalar q tag text => rfl
  | sequence q items => rfl
  | aliasTo q target => rfl

end Yaml.Node

namespace Documentation

open Yaml.Node

theorem unionDescriptions_singleton (ds : Descriptions) : unionDescriptions [ds] = ds :=
  KeyedMap.ofList_entries ds

/-- The join of a single configuration is the configuration with its tree laid over nothing. -/
theorem join_singleton_of_mapping (path : String) {info : Documentation} {place : Yaml.Place}
    {entries : List (Yaml.Node × Yaml.Node)} (hTree : info.values = some (.mapping place entries)) :
    join [(path, info)] =
      { configPath := path, values := some (.mapping {} (mergeEntries [] entries)),
        descriptions := info.descriptions } := by
  have hTrees : [(path, info)].filterMap (·.2.values) = [.mapping place entries] := by
    simp [hTree]
  rw [join, hTrees, mergeAll_singleton_mapping, List.map_singleton, List.map_singleton,
    unionDescriptions_singleton]
  rfl

/-- The configuration of a run that has only this one is taken as it is, and joining it would have
given the same path, entries and descriptions, and so the same rows. -/
theorem combine_single_agrees_with_join {path : String} {info : Documentation} {place : Yaml.Place}
    {entries : List (Yaml.Node × Yaml.Node)} (hPath : info.configPath = path)
    (hTree : info.values = some (.mapping place entries)) (hKeys : (entryTexts entries).Nodup) :
    let infos := KeyedMap.empty.insert path info
    let joined := join infos.entries
    combine infos = info ∧ joined.configPath = info.configPath ∧
      joined.values = some (.mapping {} entries) ∧ joined.descriptions = info.descriptions ∧
      rows joined.values joined.descriptions = rows info.values info.descriptions := by
  intro infos joined
  have hJoined : joined =
      { configPath := path, values := some (.mapping {} entries),
        descriptions := info.descriptions } := by
    have h := join_singleton_of_mapping path hTree
    rwa [mergeEntries_nil_eq_self_iff.mpr hKeys] at h
  refine ⟨rfl, ?_, ?_, ?_, ?_⟩
  · rw [hJoined, hPath]
  · rw [hJoined]
  · rw [hJoined]
  · rw [hJoined, hTree]
    exact rows_withPlace {} (.mapping place entries) info.descriptions

/-- The root has a comment, which the join drops, and a description, which gives it a row. -/
theorem combine_single_agrees_with_join_of_described_root :
    let leaf (key : String) : Yaml.Node × Yaml.Node := (.scalar {} .str key, .scalar {} .int "1")
    let entries := [leaf "b", (.scalar {} .str "a", .mapping {} [leaf "b"])]
    let info : Documentation :=
      { configPath := "r", values := some (.mapping ⟨2, 2, "# -- all"⟩ entries),
        descriptions := KeyedMap.empty.insert "" { text := "all" } }
    let joined := join [("r", info)]
    (entryTexts entries).Nodup ∧ combine (KeyedMap.empty.insert "r" info) = info ∧
      joined.values = some (.mapping {} entries) ∧
      rows joined.values joined.descriptions = rows info.values info.descriptions := by
  intro leaf entries info joined
  have hKeys : (entryTexts entries).Nodup := by decide
  obtain ⟨hInfo, -, hValues, -, hRows⟩ :=
    @combine_single_agrees_with_join "r" info _ _ rfl rfl hKeys
  exact ⟨hKeys, hInfo, hValues, hRows⟩

end Documentation

end ConfigReference
