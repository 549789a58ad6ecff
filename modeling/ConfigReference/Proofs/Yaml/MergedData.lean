import ConfigReference.Proofs.KeyedMap
import ConfigReference.Proofs.Template.Rendering
import ConfigReference.Proofs.Yaml.Overlay
import ConfigReference.Yaml.Node.Json

/-!
# The data of merged trees

Data can be merged as well: objects key by key, the last value counting otherwise. The data of two
trees show a mapping behind an alias as they show any other, and a merge of the trees takes it as a
whole. So the data of a merge are the merged data where no mapping stands behind an alias, and
elsewhere only by chance.
-/

set_option autoImplicit false

namespace ConfigReference

namespace Json

mutual

/-- Objects together key by key, each value of `above` over the one that `base` has for its key. Of
other values the second counts. -/
def merge : Json → Json → Json
  | object base, object above => object (mergeMembers base above)
  | _, above => above

def mergeMembers (base : List (String × Json)) : List (String × Json) → List (String × Json)
  | [] => base
  | (key, value) :: rest =>
    insertKeyed key
      (match base.lookup key with
        | some below => merge below value
        | none => value)
      (mergeMembers base rest)

end

def isObject : Json → Bool
  | object _ => true
  | _ => false

theorem merge_of_left {base : Json} (h : base.isObject = false) (above : Json) :
    merge base above = above := by
  cases base with
  | object members => cases h
  | null => cases above <;> rfl
  | bool b => cases above <;> rfl
  | number n => cases above <;> rfl
  | string s => cases above <;> rfl
  | array items => cases above <;> rfl

theorem merge_of_right (base : Json) {above : Json} (h : above.isObject = false) :
    merge base above = above := by
  cases above with
  | object members => cases h
  | null => cases base <;> rfl
  | bool b => cases base <;> rfl
  | number n => cases base <;> rfl
  | string s => cases base <;> rfl
  | array items => cases base <;> rfl

theorem lookup_mergeMembers (base above : List (String × Json)) (key : String) :
    (mergeMembers base above).lookup key =
      match above.lookup key, base.lookup key with
      | some value, some below => some (merge below value)
      | some value, none => some value
      | none, below? => below? := by
  induction above with
  | nil => rw [mergeMembers, List.lookup_nil]
  | cons member rest ih =>
    obtain ⟨first, value⟩ := member
    rw [mergeMembers, KeyedMap.lookup_insertKeyed, List.lookup_cons]
    by_cases hKey : key = first
    · subst hKey
      rw [if_pos rfl, beq_self_eq_true]
      cases base.lookup key <;> rfl
    · have hBeq : (key == first) = false := by simpa using hKey
      rw [if_neg hKey, hBeq, ih]

theorem ascending_mergeMembers {base : List (String × Json)} (h : Ascending base)
    (above : List (String × Json)) : Ascending (mergeMembers base above) := by
  induction above with
  | nil =>
    rw [mergeMembers]
    exact h
  | cons member rest ih =>
    rw [mergeMembers]
    exact ascending_insertKeyed _ _ ih

end Json

namespace Yaml.Node

/-! ## Data of mappings -/

theorem isObject_scalarJson (tag : ScalarTag) (text : String) :
    (scalarJson tag text).isObject = false := by
  have hFloat : (floatJson text).isObject = false := by
    rw [floatJson]
    split
    · split <;> rfl
    · rfl
  cases tag with
  | int =>
    rw [scalarJson]
    split
    · rfl
    · exact hFloat
  | float => exact hFloat
  | null => rfl
  | bool => rfl
  | str => rfl
  | timestamp => rfl

theorem isObject_toJson (n : Node) : n.toJson.isObject = n.resolve.isMapping := by
  fun_induction resolve n with
  | case1 p target ih => rw [← ih, toJson]
  | case2 n hNoAlias =>
    cases n with
    | scalar p tag text =>
      rw [toJson]
      exact isObject_scalarJson tag text
    | sequence p items => rfl
    | mapping p entries => rfl
    | aliasTo p target => exact absurd rfl (hNoAlias p target)

theorem lookup_jsonMembers {entries : List (Node × Node)} (hKeys : (entryTexts entries).Nodup)
    (key : String) : (Json.sortMembers (jsonMembers entries)).lookup key =
      (valueAt? entries key).map toJson := by
  rw [Json.lookup_sortMembers]
  induction entries with
  | nil => rfl
  | cons e rest ih =>
    obtain ⟨hFirst, hRest⟩ := List.nodup_cons.mp hKeys
    rw [jsonMembers, valueAt?_cons]
    by_cases hKey : e.1.text = key
    · have hNone : (jsonMembers rest).filter (·.1 == key) = [] := by
        have hLookup := ih hRest
        rw [valueAt?_eq_none_iff.mpr (hKey ▸ hFirst)] at hLookup
        simpa using hLookup
      rw [List.filter_cons_of_pos (by simpa using hKey), hNone, if_pos hKey]
      rfl
    · rw [List.filter_cons_of_neg (by simpa using hKey), if_neg hKey, ih hRest]

/-! ## Mappings behind aliases -/

/-- At a key path both trees hold a mapping, at least one of them behind an alias. -/
structure MeetsByAlias (a b : Node) (path : List String) (x y : Node) : Prop where
  below : a.at? path = some x
  above : b.at? path = some y
  isMapping_below : x.resolve.isMapping = true
  isMapping_above : y.resolve.isMapping = true
  byAlias : (x.isMapping && y.isMapping) = false

theorem MeetsByAlias.eq_root {a b x y : Node} {path : List String} (h : MeetsByAlias a b path x y)
    (hOther : a.isMapping = false ∨ b.isMapping = false) : x = a ∧ y = b := by
  cases path with
  | nil => exact ⟨(Option.some.inj h.below).symm, (Option.some.inj h.above).symm⟩
  | cons key path =>
    have hBelow := h.below
    have hAbove := h.above
    rw [at?_cons] at hBelow hAbove
    rcases hOther with ha | hb
    · rw [child?_of_not_isMapping ha] at hBelow
      cases hBelow
    · rw [child?_of_not_isMapping hb] at hAbove
      cases hAbove

theorem meetsByAlias_mapping_iff {p q : Place} {A B : List (Node × Node)} {path : List String}
    {x y : Node} :
    MeetsByAlias (.mapping p A) (.mapping q B) path x y ↔
      ∃ key rest a b, path = key :: rest ∧ valueAt? A key = some a ∧ valueAt? B key = some b ∧
        MeetsByAlias a b rest x y := by
  constructor
  · rintro ⟨hBelow, hAbove, hx, hy, hAlias⟩
    cases path with
    | nil =>
      obtain rfl : Node.mapping p A = x := Option.some.inj hBelow
      obtain rfl : Node.mapping q B = y := Option.some.inj hAbove
      cases hAlias
    | cons key rest =>
      obtain ⟨a, ha, hBelow⟩ := at?_mapping_cons.mp hBelow
      obtain ⟨b, hb, hAbove⟩ := at?_mapping_cons.mp hAbove
      exact ⟨key, rest, a, b, rfl, ha, hb, hBelow, hAbove, hx, hy, hAlias⟩
  · rintro ⟨key, rest, a, b, rfl, ha, hb, hBelow, hAbove, hx, hy, hAlias⟩
    refine ⟨?_, ?_, hx, hy, hAlias⟩
    · exact at?_mapping_cons.mpr ⟨a, ha, hBelow⟩
    · exact at?_mapping_cons.mpr ⟨b, hb, hAbove⟩

theorem toJson_mergeEntries_iff {A B : List (Node × Node)} (hA : (entryTexts A).Nodup)
    (hB : (entryTexts B).Nodup) :
    Json.sortMembers (jsonMembers (mergeEntries A B)) =
        Json.mergeMembers (Json.sortMembers (jsonMembers A)) (Json.sortMembers (jsonMembers B)) ↔
      ∀ key a b, valueAt? A key = some a → valueAt? B key = some b →
        (merge a b).toJson = Json.merge a.toJson b.toJson := by
  rw [KeyedMap.entries_eq_iff (Json.ascending_sortMembers _)
    (Json.ascending_mergeMembers (Json.ascending_sortMembers _) _)]
  refine forall_congr' fun key => ?_
  rw [lookup_jsonMembers (nodup_entryTexts_mergeEntries hA _), valueAt?_mergeEntries hA hB,
    Json.lookup_mergeMembers, lookup_jsonMembers hA, lookup_jsonMembers hB]
  cases valueAt? A key with
  | none => cases valueAt? B key <;> simp [overlaid?]
  | some a => cases valueAt? B key <;> simp [overlaid?]

theorem toJson_eq_merge_iff {a b : Node} (hOther : a.isMapping = false ∨ b.isMapping = false) :
    b.toJson = Json.merge a.toJson b.toJson ↔
      ∀ path x y, MeetsByAlias a b path x y → Json.merge x.toJson y.toJson = y.toJson := by
  constructor
  · intro hEq path x y hMeet
    obtain ⟨rfl, rfl⟩ := hMeet.eq_root hOther
    exact hEq.symm
  · intro h
    by_cases hBelow : a.resolve.isMapping = true
    · by_cases hAbove : b.resolve.isMapping = true
      · have hAlias : (a.isMapping && b.isMapping) = false := by
          rcases hOther with ha | hb
          · simp [ha]
          · simp [hb]
        exact (h [] a b ⟨at?_nil a, at?_nil b, hBelow, hAbove, hAlias⟩).symm
      · rw [Json.merge_of_right _ (by simpa [isObject_toJson] using hAbove)]
    · rw [Json.merge_of_left (by simpa [isObject_toJson] using hBelow)]

theorem toJson_merge_iff {a b : Node} (ha : a.HasDistinctKeys) (hb : b.HasDistinctKeys) :
    (merge a b).toJson = Json.merge a.toJson b.toJson ↔
      ∀ path x y, MeetsByAlias a b path x y → Json.merge x.toJson y.toJson = y.toJson := by
  induction ha generalizing b with
  | other hOther =>
    rw [merge_of_left hOther]
    exact toJson_eq_merge_iff (Or.inl hOther)
  | @mapping p A hA hValuesA ih =>
    cases hb with
    | other hOther =>
      rw [merge_of_right _ hOther]
      exact toJson_eq_merge_iff (Or.inr hOther)
    | @mapping q B hB hValuesB =>
      have hRight : HasDistinctKeys (.mapping q B) := .mapping hB hValuesB
      have hMembers : (merge (mapping p A) (mapping q B)).toJson =
          Json.merge (mapping p A).toJson (mapping q B).toJson ↔
            Json.sortMembers (jsonMembers (mergeEntries A B)) =
              Json.mergeMembers (Json.sortMembers (jsonMembers A))
                (Json.sortMembers (jsonMembers B)) := by
        rw [merge_mapping, toJson, toJson, toJson, Json.ofMembers, Json.ofMembers, Json.ofMembers,
          Json.merge, Json.object.injEq]
      rw [hMembers, toJson_mergeEntries_iff hA hB]
      constructor
      · intro h path x y hMeet
        obtain ⟨key, rest, a, b, -, hKeyA, hKeyB, hBelow⟩ := meetsByAlias_mapping_iff.mp hMeet
        obtain ⟨e, he, -, rfl⟩ := mem_of_valueAt?_eq_some hKeyA
        exact (ih e he (hRight.value hKeyB)).mp (h key e.2 b hKeyA hKeyB) rest x y hBelow
      · intro h key a b hKeyA hKeyB
        obtain ⟨e, he, -, rfl⟩ := mem_of_valueAt?_eq_some hKeyA
        refine (ih e he (hRight.value hKeyB)).mpr fun path x y hBelow => ?_
        exact h (key :: path) x y
          (meetsByAlias_mapping_iff.mpr ⟨key, path, e.2, b, rfl, hKeyA, hKeyB, hBelow⟩)

/-! ## Aliases written out -/

mutual

/-- A tree with the targets of its aliases in their place, as far as values of mappings go. -/
def writtenOut : Node → Node
  | aliasTo _ target => target.writtenOut
  | mapping p entries => mapping p (writtenOutEntries entries)
  | scalar p tag text => scalar p tag text
  | sequence p items => sequence p items

def writtenOutEntries : List (Node × Node) → List (Node × Node)
  | [] => []
  | (key, value) :: rest => (key, value.writtenOut) :: writtenOutEntries rest

end

mutual

theorem toJson_writtenOut (n : Node) : n.writtenOut.toJson = n.toJson := by
  match n with
  | aliasTo p target =>
    rw [writtenOut, toJson]
    exact toJson_writtenOut target
  | mapping p entries => rw [writtenOut, toJson, toJson, jsonMembers_writtenOutEntries entries]
  | scalar p tag text => rw [writtenOut]
  | sequence p items => rw [writtenOut]

theorem jsonMembers_writtenOutEntries (entries : List (Node × Node)) :
    jsonMembers (writtenOutEntries entries) = jsonMembers entries := by
  match entries with
  | [] => rw [writtenOutEntries]
  | (key, value) :: rest =>
    rw [writtenOutEntries, jsonMembers, jsonMembers, toJson_writtenOut value,
      jsonMembers_writtenOutEntries rest]

end

theorem valueAt?_writtenOutEntries (entries : List (Node × Node)) (key : String) :
    valueAt? (writtenOutEntries entries) key = (valueAt? entries key).map writtenOut := by
  induction entries with
  | nil => rw [writtenOutEntries, valueAt?, List.find?_nil, Option.map_none, Option.map_none]
  | cons e rest ih =>
    rw [writtenOutEntries, valueAt?_cons, valueAt?_cons, ih]
    split <;> rfl

theorem isMapping_resolve_writtenOut (n : Node) :
    n.writtenOut.resolve.isMapping = n.writtenOut.isMapping := by
  fun_induction resolve n with
  | case1 p target ih => rwa [writtenOut]
  | case2 n hNoAlias =>
    cases n with
    | aliasTo p target => exact absurd rfl (hNoAlias p target)
    | mapping p entries =>
      rw [writtenOut]
      rfl
    | scalar p tag text =>
      rw [writtenOut]
      rfl
    | sequence p items =>
      rw [writtenOut]
      rfl

theorem exists_of_child?_writtenOut {n v : Node} {key : String}
    (h : n.writtenOut.child? key = some v) : ∃ w : Node, v = w.writtenOut := by
  fun_induction resolve n with
  | case1 p target ih =>
    rw [writtenOut] at h
    exact ih h
  | case2 n hNoAlias =>
    cases n with
    | aliasTo p target => exact absurd rfl (hNoAlias p target)
    | mapping p entries =>
      rw [writtenOut, child?, valueAt?_writtenOutEntries] at h
      obtain ⟨w, -, hEq⟩ := Option.map_eq_some_iff.mp h
      exact ⟨w, hEq.symm⟩
    | scalar p tag text =>
      rw [writtenOut] at h
      cases h
    | sequence p items =>
      rw [writtenOut] at h
      cases h

theorem exists_of_at?_writtenOut {n x : Node} {path : List String}
    (h : n.writtenOut.at? path = some x) : ∃ y : Node, x = y.writtenOut := by
  induction path generalizing n with
  | nil => exact ⟨n, (Option.some.inj h).symm⟩
  | cons key path ih =>
    rw [at?_cons] at h
    obtain ⟨v, hChild, hBelow⟩ := Option.bind_eq_some_iff.mp h
    obtain ⟨w, rfl⟩ := exists_of_child?_writtenOut hChild
    exact ih hBelow

theorem not_meetsByAlias_writtenOut {a b x y : Node} {path : List String} :
    ¬MeetsByAlias a.writtenOut b.writtenOut path x y := by
  rintro ⟨hBelow, hAbove, hx, hy, hAlias⟩
  obtain ⟨u, rfl⟩ := exists_of_at?_writtenOut hBelow
  obtain ⟨v, rfl⟩ := exists_of_at?_writtenOut hAbove
  rw [isMapping_resolve_writtenOut] at hx hy
  simp [hx, hy] at hAlias

theorem toJson_merge_writtenOut {a b : Node} (ha : a.writtenOut.HasDistinctKeys)
    (hb : b.writtenOut.HasDistinctKeys) :
    (merge a.writtenOut b.writtenOut).toJson = Json.merge a.toJson b.toJson := by
  rw [← toJson_writtenOut a, ← toJson_writtenOut b, toJson_merge_iff ha hb]
  exact fun path x y hMeet => absurd hMeet not_meetsByAlias_writtenOut

/-- The data of a merge are the merged data if and only if, wherever two mappings meet of which one
stands behind an alias, the object of the upper one replaces that of the lower one. With the targets
of aliases in their place they always are. -/
theorem merged_data_iff_not_met_by_alias {a b : Node} (ha : a.HasDistinctKeys)
    (hb : b.HasDistinctKeys) :
    ((merge a b).toJson = Json.merge a.toJson b.toJson ↔
      ∀ path x y, MeetsByAlias a b path x y → Json.merge x.toJson y.toJson = y.toJson) ∧
    (a.writtenOut.HasDistinctKeys → b.writtenOut.HasDistinctKeys →
      (merge a.writtenOut b.writtenOut).toJson = Json.merge a.toJson b.toJson) :=
  ⟨toJson_merge_iff ha hb, toJson_merge_writtenOut⟩

/-- Under `x` two mappings are merged, and under `y` an alias covers what is no mapping. -/
theorem merged_data_iff_not_met_by_alias_of_nested :
    let entry (key : String) (value : Node) : Node × Node := (scalar {} .str key, value)
    let leaf (text : String) : Node := scalar {} .str text
    let one (key text : String) : Node := mapping {} [entry key (leaf text)]
    let a : Node := mapping {} [entry "x" (one "p" "v"), entry "y" (leaf "t")]
    let b : Node := mapping {} [entry "x" (one "q" "w"), entry "y" (aliasTo {} (one "q" "w"))]
    (a.HasDistinctKeys ∧ b.HasDistinctKeys ∧ a.writtenOut.HasDistinctKeys ∧
      b.writtenOut.HasDistinctKeys) ∧
    (merge a b).toJson = Json.merge a.toJson b.toJson ∧
    (merge a.writtenOut b.writtenOut).toJson = Json.merge a.toJson b.toJson := by
  intro entry leaf one a b
  have hOne (key text : String) : (one key text).HasDistinctKeys :=
    .mapping (by simp [entryTexts]) (by simpa [entry] using .other rfl)
  have hTwo {first second : Node} (h : first.HasDistinctKeys) (hSecond : second.HasDistinctKeys) :
      (mapping {} [entry "x" first, entry "y" second]).HasDistinctKeys := by
    refine .mapping (by simp [entryTexts, entry, text]) ?_
    simp only [List.forall_mem_cons]
    exact ⟨h, hSecond, List.forall_mem_nil _⟩
  have ha : a.HasDistinctKeys := hTwo (hOne _ _) (.other rfl)
  have hb : b.HasDistinctKeys := hTwo (hOne _ _) (.other rfl)
  have haOut : a.writtenOut.HasDistinctKeys := hTwo (hOne _ _) (.other rfl)
  have hbOut : b.writtenOut.HasDistinctKeys := hTwo (hOne _ _) (hOne _ _)
  obtain ⟨hMerged, hOut⟩ := merged_data_iff_not_met_by_alias ha hb
  refine ⟨⟨ha, hb, haOut, hbOut⟩, hMerged.mpr ?_, hOut haOut hbOut⟩
  intro path x y hMeet
  obtain ⟨_, _, u, v, -, hu, hv, hBelow⟩ := meetsByAlias_mapping_iff.mp hMeet
  obtain ⟨_, hMem, rfl, rfl⟩ := mem_of_valueAt?_eq_some hu
  rcases List.mem_pair.mp hMem with rfl | rfl
  · obtain rfl := Option.some.inj hv
    obtain ⟨_, _, _, _, -, hu, hv, -⟩ := meetsByAlias_mapping_iff.mp hBelow
    obtain ⟨_, hMem, rfl, -⟩ := mem_of_valueAt?_eq_some hu
    obtain rfl := List.mem_singleton.mp hMem
    cases hv
  · obtain rfl := Option.some.inj hv
    obtain ⟨rfl, -⟩ := hBelow.eq_root (Or.inl rfl)
    cases hBelow.isMapping_below

/-- A mapping behind an alias replaces the one that is there, whose key is lost. -/
theorem alias_replaces_mapping :
    ¬∀ a b : Node, a.writtenOut.HasDistinctKeys → b.writtenOut.HasDistinctKeys →
      (merge a b).toJson = Json.merge a.toJson b.toJson := by
  intro h
  let entry (key : String) (value : Node) : Node × Node := (scalar {} .str key, value)
  let one (key text : String) : Node := mapping {} [entry key (scalar {} .str text)]
  have hOne (key text : String) : (one key text).HasDistinctKeys :=
    .mapping (by simp [entryTexts]) (by simpa [entry] using .other rfl)
  have ha : (mapping {} [entry "x" (one "p" "v")]).HasDistinctKeys :=
    .mapping (by simp [entryTexts]) (by simpa [entry] using hOne _ _)
  have hb : (mapping {} [entry "base" (one "q" "w"), entry "x" (one "q" "w")]).HasDistinctKeys := by
    refine .mapping (by simp [entryTexts, entry, text]) ?_
    simp only [List.forall_mem_cons]
    exact ⟨hOne _ _, hOne _ _, List.forall_mem_nil _⟩
  have hLost := h (mapping {} [entry "x" (one "p" "v")])
    (mapping {} [entry "base" (one "q" "w"), entry "x" (aliasTo {} (one "q" "w"))]) ha hb
  have hMember := congrArg (fun j => ((j.member? "x").bind (·.member? "p")).isSome) hLost
  exact absurd hMember (by decide +kernel)

end Yaml.Node

end ConfigReference
