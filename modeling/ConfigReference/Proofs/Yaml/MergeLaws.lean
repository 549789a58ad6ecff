import ConfigReference.Documentation.Gather
import ConfigReference.Proofs.Yaml.Overlay

/-!
# Laws of merging

Laying a tree over itself changes nothing. Three trees can be laid over each other in either way,
except where the one between takes a mapping away that the last one brings back: taken together
first, the last two no longer show that there was something else. The files of several roots can
therefore be merged root by root.
-/

set_option autoImplicit false

namespace ConfigReference.Yaml.Node

/-- At a key path the first and the last tree hold a mapping, and the one between them something
else. -/
structure Clash (a b c : Node) (path : List String) (x z : Node) : Prop where
  first : a.at? path = some x
  last : c.at? path = some z
  between : ∃ y, b.at? path = some y ∧ y.isMapping = false
  isMapping_first : x.isMapping = true
  isMapping_last : z.isMapping = true

/-- No three trees clash, taken in their order. -/
def NeverClash (trees : List Node) : Prop :=
  ∀ a b c, [a, b, c].Sublist trees → ∀ path x z, ¬Clash a b c path x z

theorem isMapping_of_at? {n x : Node} {path : List String} (h : n.at? path = some x)
    (hx : x.isMapping = true) : n.isMapping = true := by
  cases path with
  | nil =>
    obtain rfl : n = x := Option.some.inj h
    exact hx
  | cons key path =>
    by_contra hOther
    rw [at?_cons, child?_of_not_isMapping (by simpa using hOther)] at h
    cases h

theorem clash_iff_of_not_isMapping {a b c x z : Node} {path : List String}
    (hb : b.isMapping = false) :
    Clash a b c path x z ↔
      path = [] ∧ x = a ∧ z = c ∧ a.isMapping = true ∧ c.isMapping = true := by
  constructor
  · intro h
    cases path with
    | nil =>
      obtain rfl : a = x := Option.some.inj h.first
      obtain rfl : c = z := Option.some.inj h.last
      exact ⟨rfl, rfl, rfl, h.isMapping_first, h.isMapping_last⟩
    | cons key path =>
      obtain ⟨y, hBetween, -⟩ := h.between
      rw [at?_cons, child?_of_not_isMapping hb] at hBetween
      cases hBetween
  · rintro ⟨rfl, rfl, rfl, hFirst, hLast⟩
    exact ⟨at?_nil _, at?_nil _, ⟨b, at?_nil b, hb⟩, hFirst, hLast⟩

theorem clash_mapping_iff {p q r : Place} {A B C : List (Node × Node)} {path : List String}
    {x z : Node} :
    Clash (.mapping p A) (.mapping q B) (.mapping r C) path x z ↔
      ∃ key rest a b c, path = key :: rest ∧ valueAt? A key = some a ∧ valueAt? B key = some b ∧
        valueAt? C key = some c ∧ Clash a b c rest x z := by
  constructor
  · rintro ⟨hFirst, hLast, ⟨y, hBetween, hOther⟩, hx, hz⟩
    cases path with
    | nil =>
      obtain rfl : Node.mapping q B = y := Option.some.inj hBetween
      cases hOther
    | cons key rest =>
      obtain ⟨a, ha, hFirst⟩ := at?_mapping_cons.mp hFirst
      obtain ⟨b, hb, hBetween⟩ := at?_mapping_cons.mp hBetween
      obtain ⟨c, hc, hLast⟩ := at?_mapping_cons.mp hLast
      exact ⟨key, rest, a, b, c, rfl, ha, hb, hc, hFirst, hLast, ⟨y, hBetween, hOther⟩, hx, hz⟩
  · rintro ⟨key, rest, a, b, c, rfl, ha, hb, hc, hFirst, hLast, ⟨y, hBetween, hOther⟩, hx, hz⟩
    refine ⟨?_, ?_, ⟨y, ?_, hOther⟩, hx, hz⟩
    · exact at?_mapping_cons.mpr ⟨a, ha, hFirst⟩
    · exact at?_mapping_cons.mpr ⟨c, hc, hLast⟩
    · exact at?_mapping_cons.mpr ⟨b, hb, hBetween⟩

/-! ## Two and three trees -/

theorem merge_self {t : Node} (h : t.HasDistinctKeys) : merge t t = t := by
  induction h with
  | other hOther => exact merge_of_left hOther _
  | @mapping p entries hKeys hValues ih =>
    have hSame : ∀ e ∈ entries, laidUnder entries e = e := by
      intro e he
      rw [laidUnder, valueAt?_of_mem hKeys he, Option.elim_some, ih e he]
    have hNone : entries.filter (isNewTo entries) = [] := by
      rw [List.filter_eq_nil_iff]
      intro e he
      simp [isNewTo, mem_entryTexts he]
    rw [merge_mapping, mergeEntries_eq hKeys hKeys, hNone, List.append_nil,
      List.map_congr_left hSame, List.map_id']

theorem isNewTo_mergeEntries (base above : List (Node × Node)) (e : Node × Node) :
    isNewTo (mergeEntries base above) e = (isNewTo base e && isNewTo above e) := by
  have hTexts : (entryTexts (mergeEntries base above)).contains e.1.text =
      ((entryTexts base).contains e.1.text || (entryTexts above).contains e.1.text) := by
    rw [Bool.eq_iff_iff, Bool.or_eq_true, List.contains_iff_mem, List.contains_iff_mem,
      List.contains_iff_mem]
    exact mem_entryTexts_mergeEntries
  rw [isNewTo, hTexts, Bool.not_or, isNewTo, isNewTo]

theorem laidUnder_mergeEntries_iff {B C : List (Node × Node)} (hB : (entryTexts B).Nodup)
    (hC : (entryTexts C).Nodup) (e : Node × Node) :
    laidUnder C (laidUnder B e) = laidUnder (mergeEntries B C) e ↔
      ∀ b c, valueAt? B e.1.text = some b → valueAt? C e.1.text = some c →
        merge (merge e.2 b) c = merge e.2 (merge b c) := by
  have hLaid : laidUnder C (laidUnder B e) = (e.1, (valueAt? C e.1.text).elim
      ((valueAt? B e.1.text).elim e.2 (merge e.2))
      (merge ((valueAt? B e.1.text).elim e.2 (merge e.2)))) := rfl
  rw [hLaid, laidUnder, valueAt?_mergeEntries hB hC, Prod.mk.injEq, and_iff_right rfl]
  cases valueAt? B e.1.text with
  | none => cases valueAt? C e.1.text <;> simp [overlaid?]
  | some b => cases valueAt? C e.1.text <;> simp [overlaid?]

theorem mergeEntries_assoc_iff {A B C : List (Node × Node)} (hA : (entryTexts A).Nodup)
    (hB : (entryTexts B).Nodup) (hC : (entryTexts C).Nodup) :
    mergeEntries (mergeEntries A B) C = mergeEntries A (mergeEntries B C) ↔
      ∀ e ∈ A, ∀ b c, valueAt? B e.1.text = some b → valueAt? C e.1.text = some c →
        merge (merge e.2 b) c = merge e.2 (merge b c) := by
  have hNew : C.filter (isNewTo (mergeEntries A B)) =
      (C.filter (isNewTo B)).filter (isNewTo A) := by
    rw [List.filter_filter]
    exact List.filter_congr fun e _ => isNewTo_mergeEntries A B e
  have hMiddle : (B.map (laidUnder C)).filter (isNewTo A) =
      (B.filter (isNewTo A)).map (laidUnder C) := List.filter_map
  have hLeft : mergeEntries (mergeEntries A B) C = A.map (fun e => laidUnder C (laidUnder B e)) ++
      ((B.filter (isNewTo A)).map (laidUnder C) ++
        (C.filter (isNewTo B)).filter (isNewTo A)) := by
    rw [mergeEntries_eq (nodup_entryTexts_mergeEntries hA _) hC, hNew, mergeEntries_eq hA hB,
      List.map_append, List.map_map, List.append_assoc]
    rfl
  have hRight : mergeEntries A (mergeEntries B C) = A.map (laidUnder (mergeEntries B C)) ++
      ((B.filter (isNewTo A)).map (laidUnder C) ++
        (C.filter (isNewTo B)).filter (isNewTo A)) := by
    rw [mergeEntries_eq hA (nodup_entryTexts_mergeEntries hB _), ← hMiddle, ← List.filter_append,
      ← mergeEntries_eq hB hC]
  rw [hLeft, hRight, List.append_left_inj, List.map_inj_left]
  exact forall₂_congr fun e _ => laidUnder_mergeEntries_iff hB hC e

/-- Three trees can be laid over each other in either way if and only if, wherever they clash, the
mapping of the last one replaces that of the first. -/
theorem merge_assoc_iff {a b c : Node} (ha : a.HasDistinctKeys) (hb : b.HasDistinctKeys)
    (hc : c.HasDistinctKeys) :
    merge (merge a b) c = merge a (merge b c) ↔
      ∀ path x z, Clash a b c path x z → merge x z = z := by
  induction ha generalizing b c with
  | @other a hOther =>
    rw [merge_of_left hOther, merge_of_left hOther]
    refine iff_of_true rfl fun path x z h => ?_
    rw [isMapping_of_at? h.first h.isMapping_first] at hOther
    cases hOther
  | @mapping p A hA hValuesA ih =>
    cases hc with
    | other hOther =>
      rw [merge_of_right _ hOther, merge_of_right _ hOther, merge_of_right _ hOther]
      refine iff_of_true rfl fun path x z h => ?_
      rw [isMapping_of_at? h.last h.isMapping_last] at hOther
      cases hOther
    | @mapping r C hC hValuesC =>
      cases hb with
      | other hOther =>
        -- The one clash is at the root.
        rw [merge_of_right _ hOther, merge_of_left hOther]
        constructor
        · intro hEq path x z h
          obtain ⟨-, rfl, rfl, -, -⟩ := (clash_iff_of_not_isMapping hOther).mp h
          exact hEq.symm
        · intro h
          exact (h [] _ _ ((clash_iff_of_not_isMapping hOther).mpr ⟨rfl, rfl, rfl, rfl, rfl⟩)).symm
      | @mapping q B hB hValuesB =>
        have hRightB : HasDistinctKeys (.mapping q B) := .mapping hB hValuesB
        have hRightC : HasDistinctKeys (.mapping r C) := .mapping hC hValuesC
        have hEntries : merge (merge (mapping p A) (mapping q B)) (mapping r C) =
            merge (mapping p A) (merge (mapping q B) (mapping r C)) ↔
              mergeEntries (mergeEntries A B) C = mergeEntries A (mergeEntries B C) := by
          simp only [merge_mapping, mapping.injEq, true_and]
        rw [hEntries, mergeEntries_assoc_iff hA hB hC]
        constructor
        · intro h path x z hClash
          obtain ⟨key, rest, a, b, c, -, hKeyA, hKeyB, hKeyC, hBelow⟩ := clash_mapping_iff.mp hClash
          obtain ⟨e, he, rfl, rfl⟩ := mem_of_valueAt?_eq_some hKeyA
          exact (ih e he (hRightB.value hKeyB) (hRightC.value hKeyC)).mp
            (h e he b c hKeyB hKeyC) rest x z hBelow
        · intro h e he b c hKeyB hKeyC
          refine (ih e he (hRightB.value hKeyB) (hRightC.value hKeyC)).mpr fun path x z hBelow => ?_
          exact h (e.1.text :: path) x z (clash_mapping_iff.mpr
            ⟨e.1.text, path, e.2, b, c, rfl, valueAt?_of_mem hA he, hKeyB, hKeyC, hBelow⟩)

theorem merge_assoc_of_no_clash {a b c : Node} (ha : a.HasDistinctKeys) (hb : b.HasDistinctKeys)
    (hc : c.HasDistinctKeys) (h : ∀ path x z, ¬Clash a b c path x z) :
    merge (merge a b) c = merge a (merge b c) :=
  (merge_assoc_iff ha hb hc).mpr fun path x z hClash => absurd hClash (h path x z)

/-! ## Many trees -/

theorem HasDistinctKeys.foldl {a : Node} {trees : List Node} (ha : a.HasDistinctKeys)
    (h : ∀ t ∈ trees, t.HasDistinctKeys) : (trees.foldl Node.merge a).HasDistinctKeys := by
  induction trees generalizing a with
  | nil => exact ha
  | cons t rest ih =>
    obtain ⟨ht, hRest⟩ := List.forall_mem_cons.mp h
    exact ih (ha.merge ht) hRest

theorem exists_at?_of_foldl {a n : Node} {trees : List Node} (ha : a.HasDistinctKeys)
    (h : ∀ t ∈ trees, t.HasDistinctKeys) {path : List String}
    (hAt : (trees.foldl merge a).at? path = some n) :
    ∃ u ∈ a :: trees, ∃ m, u.at? path = some m ∧ m.isMapping = n.isMapping := by
  induction trees generalizing a with
  | nil => exact ⟨a, List.mem_cons_self, n, hAt, rfl⟩
  | cons t rest ih =>
    obtain ⟨ht, hRest⟩ := List.forall_mem_cons.mp h
    obtain ⟨u, hu, m, hm, hKind⟩ := ih (ha.merge ht) hRest hAt
    rcases List.mem_cons.mp hu with rfl | hu
    · obtain ⟨k, hk, hSame⟩ := exists_at?_of_merge ha ht hm
      rcases hk with hk | hk
      · exact ⟨a, List.mem_cons_self, k, hk, hSame.trans hKind⟩
      · exact ⟨t, by simp, k, hk, hSame.trans hKind⟩
    · exact ⟨u, by simp [hu], m, hm, hKind⟩

theorem merge_foldl {a b : Node} {trees : List Node} (ha : a.HasDistinctKeys)
    (hb : b.HasDistinctKeys) (h : ∀ t ∈ trees, t.HasDistinctKeys)
    (hClash : ∀ u v, [u, v].Sublist (b :: trees) → ∀ path x z, ¬Clash a u v path x z) :
    merge a (trees.foldl merge b) = trees.foldl merge (merge a b) := by
  induction trees using List.reverseRecOn with
  | nil => rfl
  | append_singleton trees t ih =>
    have hTrees : ∀ u ∈ trees, u.HasDistinctKeys := fun u hu => h u (by simp [hu])
    have hAssoc := merge_assoc_of_no_clash ha (hb.foldl hTrees) (h t (by simp)) <| by
      rintro path x z ⟨hFirst, hLast, ⟨y, hBetween, hOther⟩, hx, hz⟩
      obtain ⟨u, hu, m, hm, hKind⟩ := exists_at?_of_foldl hb hTrees hBetween
      refine hClash u t ?_ path x z ⟨hFirst, hLast, ⟨m, hm, hKind.trans hOther⟩, hx, hz⟩
      exact (List.singleton_sublist.mpr hu).append (List.Sublist.refl [t])
    rw [List.foldl_concat, List.foldl_concat, ← hAssoc, ih hTrees]
    intro u v hSub
    exact hClash u v (hSub.trans (List.sublist_append_left (b :: trees) [t]))

/-- The trees of a root. A root without trees counts as the empty mapping. -/
def orEmpty (trees : List Node) : List Node :=
  if trees.isEmpty then [emptyMapping] else trees

theorem sublist_orEmpty (trees : List Node) : trees.Sublist (orEmpty trees) := by
  cases trees with
  | nil => exact List.nil_sublist _
  | cons t rest => exact List.Sublist.refl _

theorem flatten_sublist_flatMap_orEmpty (groups : List (List Node)) :
    groups.flatten.Sublist (groups.flatMap orEmpty) := by
  induction groups with
  | nil => exact List.Sublist.refl _
  | cons g rest ih => exact (sublist_orEmpty g).append ih

theorem hasDistinctKeys_emptyMapping : emptyMapping.HasDistinctKeys :=
  .mapping List.Pairwise.nil (List.forall_mem_nil _)

theorem not_clash_emptyMapping {a c x z : Node} {path : List String} :
    ¬Clash a emptyMapping c path x z := by
  rintro ⟨-, -, ⟨y, hBetween, hOther⟩, -, -⟩
  cases path with
  | nil =>
    obtain rfl : emptyMapping = y := Option.some.inj hBetween
    cases hOther
  | cons key path => cases hBetween

theorem merge_emptyMapping {a : Node} (h : a.isMapping = true) : merge a emptyMapping = a := by
  obtain ⟨p, entries, rfl⟩ := exists_of_isMapping h
  rw [emptyMapping, merge_mapping, mergeEntries]

theorem merge_mergeAll {before group : List Node} (hBefore : ∀ t ∈ before, t.HasDistinctKeys)
    (hGroup : ∀ t ∈ group, t.HasDistinctKeys)
    (hClash : NeverClash (emptyMapping :: before ++ orEmpty group)) :
    merge (mergeAll before) (mergeAll group) = group.foldl merge (mergeAll before) := by
  have hEmpty := hasDistinctKeys_emptyMapping
  by_cases hRoot : (mergeAll before).isMapping = true
  · have hFold : merge (mergeAll before) (mergeAll group) =
        group.foldl merge (merge (mergeAll before) emptyMapping) := by
      apply merge_foldl (hEmpty.foldl hBefore) hEmpty hGroup
      rintro u v hSub path x z hMet
      rcases List.sublist_cons_iff.mp hSub with hSub | ⟨_, hPair, hSub⟩
      · obtain ⟨w, hw, m, hm, hKind⟩ := exists_at?_of_foldl hEmpty hBefore hMet.first
        refine hClash w u v ?_ path m z
          ⟨hm, hMet.last, hMet.between, hKind.trans hMet.isMapping_first, hMet.isMapping_last⟩
        exact (List.singleton_sublist.mpr hw).append (hSub.trans (sublist_orEmpty group))
      · obtain ⟨rfl, -⟩ := List.cons.inj hPair
        exact not_clash_emptyMapping hMet
    rw [hFold, merge_emptyMapping hRoot]
  · -- Something else lies under the group, so that no tree of the group may be a mapping.
    have hLeft : (mergeAll before).isMapping = false := by simpa using hRoot
    obtain ⟨u, hu, m, hm, hKind⟩ :=
      exists_at?_of_foldl hEmpty hBefore (at?_nil (mergeAll before))
    obtain rfl : u = m := Option.some.inj hm
    have hOther : u.isMapping = false := hKind.trans hLeft
    have hMem : u ∈ before := by
      rcases List.mem_cons.mp hu with rfl | hMem
      · cases hOther
      · exact hMem
    have hNone : ∀ t ∈ orEmpty group, t.isMapping = false := by
      intro t ht
      by_contra hMapping
      refine hClash emptyMapping u t ?_ [] emptyMapping t
        ((clash_iff_of_not_isMapping hOther).mpr ⟨rfl, rfl, rfl, rfl, by simpa using hMapping⟩)
      exact ((List.singleton_sublist.mpr hMem).cons_cons emptyMapping).append
        (List.singleton_sublist.mpr ht)
    rcases List.eq_nil_or_concat group with rfl | ⟨init, t, rfl⟩
    · cases hNone emptyMapping List.mem_cons_self
    · have hLast : t.isMapping = false := by
        refine hNone t ((sublist_orEmpty _).subset ?_)
        simp
      rw [List.concat_eq_append, mergeAll_concat, List.foldl_concat, merge_of_right _ hLast,
        merge_of_right _ hLast, merge_of_right _ hLast]

theorem mergeAll_map_mergeAll {groups : List (List Node)}
    (hKeys : ∀ t ∈ groups.flatten, t.HasDistinctKeys)
    (hClash : NeverClash (emptyMapping :: groups.flatMap orEmpty)) :
    mergeAll (groups.map mergeAll) = mergeAll groups.flatten := by
  induction groups using List.reverseRecOn with
  | nil => rfl
  | append_singleton groups group ih =>
    rw [List.flatten_concat] at hKeys
    rw [List.flatMap_append, List.flatMap_singleton] at hClash
    have hBefore : ∀ t ∈ groups.flatten, t.HasDistinctKeys := fun t ht =>
      hKeys t (List.mem_append_left _ ht)
    have hGroup : ∀ t ∈ group, t.HasDistinctKeys := fun t ht => hKeys t (List.mem_append_right _ ht)
    have hEarlier : NeverClash (emptyMapping :: groups.flatMap orEmpty) := by
      intro a b c hSub
      exact hClash a b c (hSub.trans (List.sublist_append_left _ (orEmpty group)))
    have hHere : NeverClash (emptyMapping :: groups.flatten ++ orEmpty group) := by
      intro a b c hSub
      apply hClash a b c
      exact hSub.trans (((flatten_sublist_flatMap_orEmpty groups).append
        (List.Sublist.refl _)).cons_cons emptyMapping)
    rw [List.map_append, List.map_singleton, mergeAll_concat, ih hBefore hEarlier,
      merge_mergeAll hBefore hGroup hHere, List.flatten_concat]
    exact List.foldl_append.symm

end ConfigReference.Yaml.Node

namespace ConfigReference

open Yaml.Node

/-- The trees of some files; those that are empty or cannot be read have none. -/
def treesOf (files : List ScannedFile) : List Yaml.Node := files.filterMap (·.values)

theorem Documentation.values_combine {infos : KeyedMap Documentation}
    {roots : List (String × List ScannedFile)}
    (hRoots : infos.entries = roots.map fun root => (root.1, .ofFiles root.1 root.2))
    (hKeys : ∀ t ∈ roots.flatMap fun root => treesOf root.2, t.HasDistinctKeys)
    (hClash : NeverClash (emptyMapping :: roots.flatMap fun root => orEmpty (treesOf root.2))) :
    (combine infos).values = some (mergeAll (roots.flatMap fun root => treesOf root.2)) := by
  have hMerged : mergeAll (roots.map fun root => mergeAll (treesOf root.2)) =
      mergeAll (roots.flatMap fun root => treesOf root.2) := by
    have hGroups := @mergeAll_map_mergeAll (roots.map fun root => treesOf root.2)
    rw [List.flatMap_map, List.map_map, ← List.flatMap_def] at hGroups
    exact hGroups hKeys hClash
  rw [combine, hRoots]
  obtain _ | ⟨root, _ | ⟨other, rest⟩⟩ := roots
  · rfl
  · rw [List.flatMap_singleton]
    rfl
  · have hTrees : ((root :: other :: rest).map fun root =>
        (root.1, ofFiles root.1 root.2)).filterMap (·.2.values) =
          (root :: other :: rest).map fun root => mergeAll (treesOf root.2) := by
      rw [List.filterMap_map]
      exact congrFun List.filterMap_eq_map _
    rw [← hMerged, ← hTrees]
    rfl

namespace Yaml.Node

/-- Trees in which a mapping has each key once can be merged with themselves, and with each other in
either way unless they clash: the two ways differ just where the first tree's mapping would show
under the last one's. So the values of several roots are those of all their files in order, unless
some of these trees clash with each other or with the empty mapping at the bottom. -/
theorem merge_idempotent_and_regroups :
    (∀ t : Node, t.HasDistinctKeys → merge t t = t) ∧
    (∀ a b c : Node, a.HasDistinctKeys → b.HasDistinctKeys → c.HasDistinctKeys →
      ((∀ path x z, ¬Clash a b c path x z) → merge (merge a b) c = merge a (merge b c)) ∧
      (merge (merge a b) c = merge a (merge b c) ↔
        ∀ path x z, Clash a b c path x z → merge x z = z)) ∧
    (∀ (infos : KeyedMap Documentation) (roots : List (String × List ScannedFile)),
      infos.entries = (roots.map fun root => (root.1, Documentation.ofFiles root.1 root.2)) →
      (∀ t ∈ roots.flatMap fun root => treesOf root.2, t.HasDistinctKeys) →
      NeverClash (emptyMapping :: roots.flatMap fun root => orEmpty (treesOf root.2)) →
      (Documentation.combine infos).values =
        some (mergeAll (roots.flatMap fun root => treesOf root.2))) := by
  refine ⟨fun t h => merge_self h, ?_, ?_⟩
  · intro a b c ha hb hc
    exact ⟨merge_assoc_of_no_clash ha hb hc, merge_assoc_iff ha hb hc⟩
  · intro infos roots hRoots hKeys hClash
    exact Documentation.values_combine hRoots hKeys hClash

/-- Under `x` two mappings meet on both sides of a third, and the files of two roots go together. -/
theorem merge_idempotent_and_regroups_of_nested :
    let entry (key : String) (value : Node) : Node × Node := (scalar {} .str key, value)
    let leaf (text : String) : Node := scalar {} .str text
    let a : Node := mapping { line := 1 } [entry "x" (mapping {} [entry "p" (leaf "1")])]
    let b : Node := mapping { line := 2 } [entry "x" (mapping {} [entry "q" (leaf "2")])]
    let c : Node := mapping { line := 3 } [entry "y" (leaf "3"),
      entry "x" (mapping {} [entry "p" (leaf "4")])]
    let file (t : Node) : ScannedFile := { values := some t, descriptions := .empty }
    let infos : KeyedMap Documentation :=
      ⟨[("r", .ofFiles "r" [file a]), ("s", .ofFiles "s" [file c])],
        List.pairwise_pair.mpr (by decide +kernel)⟩
    (a.HasDistinctKeys ∧ b.HasDistinctKeys ∧ c.HasDistinctKeys ∧
      ∀ path x z, ¬Clash a b c path x z) ∧
    merge a a = a ∧ merge (merge a b) c = merge a (merge b c) ∧
    (Documentation.combine infos).values = some (mergeAll [a, c]) := by
  intro entry leaf a b c file infos
  have hOne (key text : String) : (mapping {} [entry key (leaf text)]).HasDistinctKeys :=
    .mapping (by simp [entryTexts]) (by simpa [entry, leaf] using .other rfl)
  have ha : a.HasDistinctKeys := .mapping (by simp [entryTexts]) (by simpa [entry] using hOne _ _)
  have hb : b.HasDistinctKeys := .mapping (by simp [entryTexts]) (by simpa [entry] using hOne _ _)
  have hc : c.HasDistinctKeys := by
    refine .mapping (by decide) ?_
    simp only [List.forall_mem_cons]
    exact ⟨.other rfl, hOne _ _, List.forall_mem_nil _⟩
  have hClash : ∀ path x z, ¬Clash a b c path x z := by
    intro path x z h
    obtain ⟨_, _, _, _, _, -, hu, hv, hw, hBelow⟩ := clash_mapping_iff.mp h
    obtain ⟨_, hMem, rfl, rfl⟩ := mem_of_valueAt?_eq_some hu
    obtain rfl := List.mem_singleton.mp hMem
    obtain rfl := Option.some.inj hv
    obtain rfl := Option.some.inj hw
    obtain ⟨_, _, _, _, _, -, hu, hv, -⟩ := clash_mapping_iff.mp hBelow
    obtain ⟨_, hMem, rfl, -⟩ := mem_of_valueAt?_eq_some hu
    obtain rfl := List.mem_singleton.mp hMem
    exact absurd hv (by simp [valueAt?, entry, text])
  have hEmptyClash : NeverClash [emptyMapping, a, c] := by
    intro u v w hSub path x z h
    obtain ⟨rfl, rfl, rfl⟩ : u = emptyMapping ∧ v = a ∧ w = c := by
      simpa using hSub.eq_of_length rfl
    cases path with
    | nil =>
      obtain ⟨y, hBetween, hOther⟩ := h.between
      obtain rfl := Option.some.inj hBetween
      cases hOther
    | cons key path => cases h.first
  obtain ⟨hSelf, hAssoc, hRoots⟩ := merge_idempotent_and_regroups
  refine ⟨⟨ha, hb, hc, hClash⟩, hSelf a ha, (hAssoc a b c ha hb hc).1 hClash, ?_⟩
  refine hRoots infos [("r", [file a]), ("s", [file c])] rfl ?_ hEmptyClash
  change ∀ t ∈ [a, c], t.HasDistinctKeys
  simp only [List.forall_mem_cons]
  exact ⟨ha, hc, List.forall_mem_nil _⟩

end Yaml.Node

end ConfigReference
