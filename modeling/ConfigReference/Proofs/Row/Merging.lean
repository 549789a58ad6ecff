import ConfigReference.Proofs.Row.Inheritance
import ConfigReference.Proofs.Yaml.Overlay

/-!
# Rows of merged documents

Documents without a common key are merged by putting the entries of one behind those of the other.
The rows of the merge are then the rows of the documents, walked over one after the other: a section
that is in force at the end of one document is in force at the start of the next.
-/

set_option autoImplicit false

namespace ConfigReference

namespace Yaml.Node

theorem mergeEntries_of_nodup {base above : List (Node × Node)}
    (h : (entryTexts (base ++ above)).Nodup) : mergeEntries base above = base ++ above := by
  induction above generalizing base with
  | nil => rw [mergeEntries, List.append_nil]
  | cons e rest ih =>
    have hSplit : base ++ e :: rest = (base ++ [e]) ++ rest := (List.append_cons base e rest)
    have hNew : e.1.text ∉ entryTexts base := by
      rw [entryTexts_append] at h
      exact fun hMem => (List.nodup_append.mp h).2.2 _ hMem _ List.mem_cons_self rfl
    rw [hSplit] at h ⊢
    rw [mergeEntries, alterEntry_of_not_mem hNew, ih h]

theorem keyTexts_merge_of_nodup {a b : Node} (ha : a.isMapping = true) (hb : b.isMapping = true)
    (h : (a.keyTexts ++ b.keyTexts).Nodup) : (merge a b).keyTexts = a.keyTexts ++ b.keyTexts := by
  obtain ⟨p, base, rfl⟩ := exists_of_isMapping ha
  obtain ⟨q, above, rfl⟩ := exists_of_isMapping hb
  rw [keyTexts, keyTexts, ← entryTexts_append] at h
  rw [merge_mapping, keyTexts, keyTexts, keyTexts, mergeEntries_of_nodup h, entryTexts_append]

end Yaml.Node

namespace Row

open Yaml.Node

def Walk.ofDocument (root : Yaml.Node) : Walk := { value := root }

section

variable {ds : Descriptions}

theorem flattenEntries_append (s : InForce) (key : String) (leaves : Bool)
    (first others : List (Yaml.Node × Yaml.Node)) :
    flattenEntries ds s key leaves (first ++ others) =
      let before := flattenEntries ds s key leaves first
      let after := flattenEntries ds before.2 key leaves others
      (before.1 ++ after.1, after.2) := by
  induction first generalizing s with
  | nil => rw [List.nil_append, flattenEntries]; rfl
  | cons e rest ih =>
    obtain ⟨k, value⟩ := e
    rw [List.cons_append, flattenEntries, flattenEntries, ih]
    simp only [List.append_assoc]

theorem flatten_document (hRoot : ds.get? "" = none) (s : InForce) (p : Yaml.Place)
    (entries : List (Yaml.Node × Yaml.Node)) :
    flatten ds s "" none true (.mapping p entries) = flattenEntries ds s "" true entries := by
  cases entries with
  | nil => rw [flatten, flattenEntries]; rfl
  | cons e rest =>
    have hSilent : (said ds "" none).isDescribed = false := by
      simp [Said.isDescribed, said, hRoot]
    have hOwn : ofContainer ds s "" none (.mapping p (e :: rest)) = ([], s) := by
      rw [ofContainer, hSilent, if_neg Bool.false_ne_true]
    rw [flatten, hOwn]
    rfl

theorem flatten_merge (hRoot : ds.get? "" = none) (s : InForce) {a b : Yaml.Node}
    (ha : a.isMapping = true) (hb : b.isMapping = true) (hKeys : (a.keyTexts ++ b.keyTexts).Nodup) :
    flatten ds s "" none true (merge a b) =
      let first := flatten ds s "" none true a
      let others := flatten ds first.2 "" none true b
      (first.1 ++ others.1, others.2) := by
  obtain ⟨p, base, rfl⟩ := exists_of_isMapping ha
  obtain ⟨q, above, rfl⟩ := exists_of_isMapping hb
  rw [keyTexts, keyTexts, ← entryTexts_append] at hKeys
  rw [merge_mapping, mergeEntries_of_nodup hKeys]
  simp only [flatten_document hRoot]
  exact flattenEntries_append s "" true base above

theorem flatten_foldl_merge (hRoot : ds.get? "" = none) (s : InForce) {a : Yaml.Node}
    {docs : List Yaml.Node} (ha : a.isMapping = true) (hDocs : ∀ d ∈ docs, d.isMapping = true)
    (hKeys : (a.keyTexts ++ docs.flatMap keyTexts).Nodup) :
    flatten ds s "" none true (docs.foldl merge a) =
      flattenWalks ds s ((a :: docs).map Walk.ofDocument) := by
  induction docs generalizing a with
  | nil => simp [flattenWalks, Walk.ofDocument]
  | cons d rest ih =>
    obtain ⟨hd, hRest⟩ := List.forall_mem_cons.mp hDocs
    rw [List.flatMap_cons, ← List.append_assoc] at hKeys
    have hTwo : (a.keyTexts ++ d.keyTexts).Nodup := (List.nodup_append.mp hKeys).1
    have hMerged : (merge a d).isMapping = true := by rw [isMapping_merge, hd]
    rw [List.foldl_cons, ih hMerged hRest (by rwa [keyTexts_merge_of_nodup ha hd hTwo])]
    simp only [List.map_cons, flattenWalks, Walk.ofDocument, flatten_merge hRoot s ha hd hTwo,
      List.append_assoc]

theorem rows_of_isMapping {root : Yaml.Node} (h : root.isMapping = true) :
    Yaml.Node.rows (some root) ds = .ok (flatten ds {} "" none true root).1 := by
  obtain ⟨p, entries, rfl⟩ := exists_of_isMapping h
  rfl

/-- However many documents are merged, the rows are those of one walk over each in turn. -/
theorem rows_mergeAll_of_disjoint (hRoot : ds.get? "" = none) {docs : List Yaml.Node}
    (hDocs : ∀ d ∈ docs, d.isMapping = true) (hKeys : (docs.flatMap keyTexts).Nodup) :
    Yaml.Node.rows (some (mergeAll docs)) ds =
      .ok (flattenWalks ds {} (docs.map Walk.ofDocument)).1 := by
  have hLast : (mergeAll docs).isMapping = true := by
    rw [isMapping_mergeAll, Option.all_eq_true]
    exact fun d hd => hDocs d (List.mem_of_getLast? hd)
  have hStart : flatten ds {} "" none true emptyMapping = ([], {}) := by
    rw [emptyMapping, flatten_document hRoot, flattenEntries]
  have hKeys' : (emptyMapping.keyTexts ++ docs.flatMap keyTexts).Nodup := hKeys
  rw [rows_of_isMapping hLast, mergeAll, flatten_foldl_merge hRoot {} rfl hDocs hKeys',
    List.map_cons, flattenWalks, Walk.ofDocument, hStart]
  rfl

/-- The rows of the merge of two documents without a common key are those of two walks, over the one
document and from where that leaves off over the other: what the first puts in force is in force in
the second. -/
theorem rows_of_disjoint_merge (hRoot : ds.get? "" = none) {a b : Yaml.Node}
    (ha : a.isMapping = true) (hb : b.isMapping = true)
    (hKeys : (a.keyTexts ++ b.keyTexts).Nodup) :
    Yaml.Node.rows (some (merge a b)) ds =
      .ok (flattenWalks ds {} [Walk.ofDocument a, Walk.ofDocument b]).1 := by
  have hMerged : (merge a b).isMapping = true := by rw [isMapping_merge, hb]
  rw [rows_of_isMapping hMerged, flatten_merge hRoot {} ha hb hKeys]
  simp only [flattenWalks, Walk.ofDocument, List.append_nil]

end

/-- The section that the first document names last is in force at the row of the second. -/
theorem rows_of_disjoint_merge_of_open_section :
    let leaf (key : String) : Yaml.Node × Yaml.Node := (.scalar {} .str key, .scalar {} .null "")
    let a : Yaml.Node := .mapping {} [leaf "a", leaf "x"]
    let b : Yaml.Node := .mapping {} [leaf "b"]
    let ds : Descriptions := KeyedMap.empty.insert "x" { sectionName := "S" }
    let rows := (flattenWalks ds {} [Walk.ofDocument a, Walk.ofDocument b]).1
    (a.keyTexts ++ b.keyTexts).Nodup ∧ Yaml.Node.rows (some (merge a b)) ds = .ok rows ∧
      rows.map (fun r => (r.key, r.autoSection)) = [("a", ""), ("x", "S"), ("b", "S")] := by
  intro leaf a b ds rows
  have hKeys : (a.keyTexts ++ b.keyTexts).Nodup := by decide
  exact ⟨hKeys, rows_of_disjoint_merge (by decide) rfl rfl hKeys, by decide +kernel⟩

end Row

end ConfigReference
