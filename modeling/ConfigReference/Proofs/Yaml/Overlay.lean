import ConfigReference.Proofs.Yaml.Merging

/-!
# Merged mappings entry by entry

Where each mapping has a key once, a mapping laid over another changes the values that it has a key
for, and its other entries follow in their order. What a merge holds at a key path therefore comes
from what the two trees hold there.
-/

set_option autoImplicit false

namespace ConfigReference.Yaml.Node

/-! ## Values by their keys -/

def valueAt? (entries : List (Node × Node)) (key : String) : Option Node :=
  (entries.find? (·.1.text == key)).map (·.2)

/-- The value that a mapping has for a key; other nodes have none, aliases included. -/
def child? (n : Node) (key : String) : Option Node :=
  match n with
  | mapping _ entries => valueAt? entries key
  | _ => none

/-- What a tree holds at a key path, which leads through mappings only. -/
def at? (n : Node) : List String → Option Node
  | [] => some n
  | key :: path => (n.child? key).bind (·.at? path)

/-- No mapping that is reached through the values of mappings has a key text twice. -/
inductive HasDistinctKeys : Node → Prop
  | mapping {p : Place} {entries : List (Node × Node)} (keys : (entryTexts entries).Nodup)
    (values : ∀ e ∈ entries, HasDistinctKeys e.2) : HasDistinctKeys (.mapping p entries)
  | other {n : Node} (h : n.isMapping = false) : HasDistinctKeys n

theorem at?_nil (n : Node) : n.at? [] = some n := by rw [at?]

theorem at?_cons (n : Node) (key : String) (path : List String) :
    n.at? (key :: path) = (n.child? key).bind (·.at? path) := by rw [at?]

theorem at?_mapping_cons {p : Place} {entries : List (Node × Node)} {key : String}
    {path : List String} {n : Node} : (mapping p entries).at? (key :: path) = some n ↔
      ∃ value, valueAt? entries key = some value ∧ value.at? path = some n := by
  rw [at?_cons, child?, Option.bind_eq_some_iff]

theorem child?_of_not_isMapping {n : Node} (h : n.isMapping = false) (key : String) :
    n.child? key = none := by
  cases n with
  | mapping p entries => cases h
  | scalar p tag text => rfl
  | sequence p items => rfl
  | aliasTo p target => rfl

theorem exists_of_isMapping {n : Node} (h : n.isMapping = true) :
    ∃ p entries, n = mapping p entries := by
  cases n with
  | mapping p entries => exact ⟨p, entries, rfl⟩
  | scalar p tag text => cases h
  | sequence p items => cases h
  | aliasTo p target => cases h

theorem mem_entryTexts {entries : List (Node × Node)} {e : Node × Node} (he : e ∈ entries) :
    e.1.text ∈ entryTexts entries := List.mem_map_of_mem he

theorem entryTexts_append (entries others : List (Node × Node)) :
    entryTexts (entries ++ others) = entryTexts entries ++ entryTexts others := List.map_append

theorem text_ne_of_nodup {e x : Node × Node} {rest : List (Node × Node)}
    (hKeys : (entryTexts (e :: rest)).Nodup) (hx : x ∈ rest) : x.1.text ≠ e.1.text := by
  intro hEq
  apply (List.nodup_cons.mp hKeys).1
  change e.1.text ∈ entryTexts rest
  rw [← hEq]
  exact mem_entryTexts hx

theorem valueAt?_cons (e : Node × Node) (entries : List (Node × Node)) (key : String) :
    valueAt? (e :: entries) key = if e.1.text = key then some e.2 else valueAt? entries key := by
  by_cases h : e.1.text = key <;> simp [valueAt?, h]

theorem valueAt?_append (entries others : List (Node × Node)) (key : String) :
    valueAt? (entries ++ others) key = (valueAt? entries key).or (valueAt? others key) := by
  rw [valueAt?, List.find?_append, Option.map_or]
  rfl

theorem valueAt?_eq_none_iff {entries : List (Node × Node)} {key : String} :
    valueAt? entries key = none ↔ key ∉ entryTexts entries := by
  simp [valueAt?, entryTexts]

theorem mem_of_valueAt?_eq_some {entries : List (Node × Node)} {key : String} {value : Node}
    (h : valueAt? entries key = some value) : ∃ e ∈ entries, e.1.text = key ∧ e.2 = value := by
  obtain ⟨e, hFound, hValue⟩ := Option.map_eq_some_iff.mp h
  exact ⟨e, List.mem_of_find?_eq_some hFound, by simpa using List.find?_some hFound, hValue⟩

theorem valueAt?_of_mem {entries : List (Node × Node)} (hKeys : (entryTexts entries).Nodup)
    {e : Node × Node} (he : e ∈ entries) : valueAt? entries e.1.text = some e.2 := by
  induction entries with
  | nil => cases he
  | cons first rest ih =>
    rw [valueAt?_cons]
    rcases List.mem_cons.mp he with rfl | hMem
    · rw [if_pos rfl]
    · rw [if_neg (text_ne_of_nodup hKeys hMem).symm]
      exact ih (List.nodup_cons.mp hKeys).2 hMem

theorem HasDistinctKeys.keys {p : Place} {entries : List (Node × Node)}
    (h : HasDistinctKeys (.mapping p entries)) : (entryTexts entries).Nodup := by
  cases h with
  | mapping keys values => exact keys
  | other hOther => cases hOther

theorem HasDistinctKeys.value {p : Place} {entries : List (Node × Node)} {key : String}
    {value : Node} (h : HasDistinctKeys (.mapping p entries))
    (hValue : valueAt? entries key = some value) : value.HasDistinctKeys := by
  cases h with
  | mapping keys values =>
    obtain ⟨e, he, -, rfl⟩ := mem_of_valueAt?_eq_some hValue
    exact values e he
  | other hOther => cases hOther

/-! ## The entries of a merge -/

theorem merge_of_left {base : Node} (h : base.isMapping = false) (above : Node) :
    merge base above = above := by
  cases base with
  | mapping p entries => cases h
  | scalar p tag text => cases above <;> rfl
  | sequence p items => cases above <;> rfl
  | aliasTo p target => cases above <;> rfl

theorem merge_of_right (base : Node) {above : Node} (h : above.isMapping = false) :
    merge base above = above := by
  cases above with
  | mapping p entries => cases h
  | scalar p tag text => cases base <;> rfl
  | sequence p items => cases base <;> rfl
  | aliasTo p target => cases base <;> rfl

theorem merge_mapping (p q : Place) (base above : List (Node × Node)) :
    merge (mapping p base) (mapping q above) = mapping p (mergeEntries base above) := by rw [merge]

/-- An entry under what `above` has for its key. -/
def laidUnder (above : List (Node × Node)) (e : Node × Node) : Node × Node :=
  (e.1, (valueAt? above e.1.text).elim e.2 (merge e.2))

def isNewTo (base : List (Node × Node)) (e : Node × Node) : Bool :=
  !(entryTexts base).contains e.1.text

theorem isNewTo_congr {base others : List (Node × Node)} (h : entryTexts base = entryTexts others)
    (e : Node × Node) : isNewTo base e = isNewTo others e := by rw [isNewTo, h, isNewTo]

theorem laidUnder_cons_of_ne {new e : Node × Node} (above : List (Node × Node))
    (h : new.1.text ≠ e.1.text) : laidUnder (new :: above) e = laidUnder above e := by
  rw [laidUnder, valueAt?_cons, if_neg h, laidUnder]

theorem alterEntry_of_mem {new : Node × Node} {change : Node → Node}
    {entries : List (Node × Node)} (hKeys : (entryTexts entries).Nodup)
    (h : new.1.text ∈ entryTexts entries) :
    alterEntry new change entries =
      entries.map fun e => if e.1.text = new.1.text then (e.1, change e.2) else e := by
  induction entries with
  | nil => cases h
  | cons e rest ih =>
    have hRest : (entryTexts rest).Nodup := (List.nodup_cons.mp hKeys).2
    rw [alterEntry, List.map_cons]
    by_cases hKey : e.1.text = new.1.text
    · have hSame : ∀ x ∈ rest,
          (if x.1.text = new.1.text then (x.1, change x.2) else x) = x := by
        intro x hx
        have hNe := text_ne_of_nodup hKeys hx
        rw [hKey] at hNe
        rw [if_neg hNe]
      rw [if_pos hKey, if_pos hKey, List.map_congr_left hSame, List.map_id']
    · have hMem : new.1.text ∈ entryTexts rest := by
        rcases List.mem_cons.mp h with hEq | hMem
        · exact absurd hEq.symm hKey
        · exact hMem
      rw [if_neg hKey, if_neg hKey, ih hRest hMem]

theorem alterEntry_of_not_mem {new : Node × Node} {change : Node → Node}
    {entries : List (Node × Node)} (h : new.1.text ∉ entryTexts entries) :
    alterEntry new change entries = entries ++ [new] := by
  induction entries with
  | nil => rfl
  | cons e rest ih =>
    rw [entryTexts_cons, List.mem_cons, not_or] at h
    rw [alterEntry, if_neg (Ne.symm h.1), ih h.2, List.cons_append]

/-- Each entry stays where it is, under what is laid over it, and the entries whose keys are new
come behind. -/
theorem mergeEntries_eq {base above : List (Node × Node)} (hBase : (entryTexts base).Nodup)
    (hAbove : (entryTexts above).Nodup) :
    mergeEntries base above = base.map (laidUnder above) ++ above.filter (isNewTo base) := by
  induction above generalizing base with
  | nil =>
    have hSame : base.map (laidUnder []) = base := List.map_id' base
    rw [mergeEntries, hSame, List.filter_nil, List.append_nil]
  | cons new rest ih =>
    obtain ⟨hNew, hRest⟩ := List.nodup_cons.mp hAbove
    have hNone : valueAt? rest new.1.text = none := valueAt?_eq_none_iff.mpr hNew
    rw [mergeEntries]
    by_cases hMem : new.1.text ∈ entryTexts base
    · -- The value under the key of `new` is changed, and nothing else has that key.
      have hTexts := entryTexts_alterEntry new (fun previous => merge previous new.2) base
      rw [if_pos hMem] at hTexts
      have hEntry : ∀ e ∈ base,
          laidUnder rest (if e.1.text = new.1.text then (e.1, merge e.2 new.2) else e) =
            laidUnder (new :: rest) e := by
        intro e _
        by_cases hKey : e.1.text = new.1.text
        · rw [if_pos hKey, laidUnder, laidUnder, valueAt?_cons, if_pos hKey.symm, hKey, hNone]
          rfl
        · rw [if_neg hKey, laidUnder_cons_of_ne rest (Ne.symm hKey)]
      have hOld : isNewTo base new = false := by simpa [isNewTo] using hMem
      rw [ih (hTexts ▸ hBase) hRest, List.filter_cons_of_neg (by simp [hOld]),
        funext (isNewTo_congr hTexts), alterEntry_of_mem hBase hMem, List.map_map]
      exact congrArg (· ++ _) (List.map_congr_left hEntry)
    · have hDistinct : (entryTexts (base ++ [new])).Nodup := by
        rw [entryTexts_append, List.nodup_append]
        refine ⟨hBase, List.pairwise_singleton _ _, ?_⟩
        intro key hKey other hOther hEq
        obtain rfl : other = new.1.text := List.mem_singleton.mp hOther
        exact hMem (hEq ▸ hKey)
      have hEntry : ∀ e ∈ base, laidUnder rest e = laidUnder (new :: rest) e := by
        intro e he
        refine (laidUnder_cons_of_ne rest ?_).symm
        intro hEq
        exact hMem (hEq ▸ mem_entryTexts he)
      have hLast : laidUnder rest new = new := by
        rw [laidUnder, hNone]
        rfl
      have hOthers : ∀ e ∈ rest, isNewTo (base ++ [new]) e = isNewTo base e := by
        intro e he
        have hNe := text_ne_of_nodup hAbove he
        simp [isNewTo, entryTexts, hNe]
      have hIsNew : isNewTo base new = true := by simpa [isNewTo] using hMem
      rw [alterEntry_of_not_mem hMem, ih hDistinct hRest, List.map_append, List.map_singleton, hLast,
        List.map_congr_left hEntry, List.filter_congr hOthers, List.filter_cons_of_pos hIsNew,
        List.append_assoc]
      rfl

theorem valueAt?_map_laidUnder (above entries : List (Node × Node)) (key : String) :
    valueAt? (entries.map (laidUnder above)) key =
      (valueAt? entries key).map fun value => (valueAt? above key).elim value (merge value) := by
  induction entries with
  | nil => rfl
  | cons e rest ih =>
    rw [List.map_cons, valueAt?_cons, valueAt?_cons, ih]
    change (if e.1.text = key then _ else _) = _
    split
    · rename_i hKey
      rw [laidUnder, hKey]
      rfl
    · rfl

theorem valueAt?_filter_isNewTo (base above : List (Node × Node)) (key : String) :
    valueAt? (above.filter (isNewTo base)) key =
      if key ∈ entryTexts base then none else valueAt? above key := by
  induction above with
  | nil => simp [valueAt?]
  | cons e rest ih =>
    rw [List.filter_cons, valueAt?_cons]
    by_cases hKey : e.1.text = key
    · subst hKey
      by_cases hMem : e.1.text ∈ entryTexts base
      · have hOld : isNewTo base e = false := by simpa [isNewTo] using hMem
        rw [hOld, if_neg Bool.false_ne_true, ih, if_pos hMem, if_pos hMem]
      · have hIsNew : isNewTo base e = true := by simpa [isNewTo] using hMem
        rw [if_pos hIsNew, valueAt?_cons, if_pos rfl, if_neg hMem, if_pos rfl]
    · rw [if_neg hKey, ← ih]
      split
      · rw [valueAt?_cons, if_neg hKey]
      · rfl

def overlaid? : Option Node → Option Node → Option Node
  | some a, some b => some (merge a b)
  | some a, none => some a
  | none, b => b

theorem valueAt?_mergeEntries {base above : List (Node × Node)} (hBase : (entryTexts base).Nodup)
    (hAbove : (entryTexts above).Nodup) (key : String) :
    valueAt? (mergeEntries base above) key =
      overlaid? (valueAt? base key) (valueAt? above key) := by
  rw [mergeEntries_eq hBase hAbove, valueAt?_append, valueAt?_map_laidUnder,
    valueAt?_filter_isNewTo]
  cases hValue : valueAt? base key with
  | none =>
    rw [if_neg (valueAt?_eq_none_iff.mp hValue)]
    rfl
  | some value => cases valueAt? above key <;> rfl

theorem nodup_entryTexts_mergeEntries {base : List (Node × Node)} (hBase : (entryTexts base).Nodup)
    (above : List (Node × Node)) : (entryTexts (mergeEntries base above)).Nodup := by
  induction above generalizing base with
  | nil => rwa [mergeEntries]
  | cons e rest ih =>
    rw [mergeEntries]
    apply ih
    rw [entryTexts_alterEntry]
    split
    · exact hBase
    · rename_i hNew
      refine List.nodup_append.mpr ⟨hBase, List.pairwise_singleton _ _, ?_⟩
      rintro key hKey _ hLast rfl
      exact hNew (List.mem_singleton.mp hLast ▸ hKey)

theorem HasDistinctKeys.merge {a b : Node} (ha : a.HasDistinctKeys) (hb : b.HasDistinctKeys) :
    (merge a b).HasDistinctKeys := by
  induction ha generalizing b with
  | other hOther => rwa [merge_of_left hOther]
  | @mapping p base hBase hValues ih =>
    cases hb with
    | other hOther =>
      rw [merge_of_right _ hOther]
      exact .other hOther
    | @mapping q above hAbove hValuesAbove =>
      rw [merge_mapping]
      refine .mapping (nodup_entryTexts_mergeEntries hBase _) ?_
      intro e he
      rw [mergeEntries_eq hBase hAbove] at he
      rcases List.mem_append.mp he with hLaid | hNew
      · obtain ⟨d, hd, rfl⟩ := List.mem_map.mp hLaid
        rw [laidUnder]
        cases hValue : valueAt? above d.1.text with
        | none => exact hValues d hd
        | some value =>
          obtain ⟨x, hx, -, rfl⟩ := mem_of_valueAt?_eq_some hValue
          exact ih d hd (hValuesAbove x hx)
      · exact hValuesAbove e (List.mem_filter.mp hNew).1

/-- A mapping laid over another keeps the other's place. First come the entries of the lower one, in
their order and with their keys, each value being merged with that above it if there is one; then
come the entries above whose keys are new, in their order and unchanged. No key comes twice, and
none does in the mappings inside if none did before. -/
theorem merge_is_ordered_union {p q : Place} {base above : List (Node × Node)}
    (hBase : (entryTexts base).Nodup) (hAbove : (entryTexts above).Nodup) :
    ∃ merged, Node.merge (.mapping p base) (.mapping q above) = .mapping p merged ∧
      (entryTexts merged).Nodup ∧
      merged =
        base.map (fun e => (e.1, (valueAt? above e.1.text).elim e.2 (Node.merge e.2))) ++
          above.filter (fun e => !(entryTexts base).contains e.1.text) ∧
      (HasDistinctKeys (.mapping p base) → HasDistinctKeys (.mapping q above) →
        HasDistinctKeys (.mapping p merged)) := by
  refine ⟨mergeEntries base above, merge_mapping p q base above,
    nodup_entryTexts_mergeEntries hBase _, mergeEntries_eq hBase hAbove, ?_⟩
  intro hLower hUpper
  rw [← merge_mapping p q]
  exact hLower.merge hUpper

/-- Two mappings with a common key that has a mapping in each, one with another value, and one that
is new. -/
theorem merge_is_ordered_union_of_nested :
    let entry (line : Nat) (key : String) (value : Node) : Node × Node :=
      (scalar { line } .str key, value)
    let leaf (text : String) : Node := scalar {} .str text
    let base := [entry 1 "x" (.mapping {} [entry 2 "p" (leaf "1")]), entry 3 "y" (leaf "2")]
    let above := [entry 4 "z" (leaf "3"), entry 5 "y" (leaf "4"),
      entry 6 "x" (.mapping {} [entry 7 "q" (leaf "5")])]
    ((entryTexts base).Nodup ∧ (entryTexts above).Nodup) ∧
    ∃ merged, Node.merge (.mapping { line := 1 } base) (.mapping { line := 4 } above) =
        .mapping { line := 1 } merged ∧
      merged.map (fun e => (e.1.place.line, e.1.text, e.2.keyTexts, e.2.text)) =
        [(1, "x", ["p", "q"], ""), (3, "y", [], "4"), (4, "z", [], "3")] ∧
      HasDistinctKeys (.mapping { line := 1 } merged) := by
  intro entry leaf base above
  have hBase : (entryTexts base).Nodup := by decide
  have hAbove : (entryTexts above).Nodup := by decide
  have hOne (line : Nat) (key text : String) :
      HasDistinctKeys (.mapping {} [entry line key (leaf text)]) :=
    .mapping (by simp [entryTexts]) (by simpa [entry, leaf] using .other rfl)
  have hLower : HasDistinctKeys (.mapping { line := 1 } base) := by
    refine .mapping hBase ?_
    simp only [base, List.forall_mem_cons]
    exact ⟨hOne 2 "p" "1", .other rfl, List.forall_mem_nil _⟩
  have hUpper : HasDistinctKeys (.mapping { line := 4 } above) := by
    refine .mapping hAbove ?_
    simp only [above, List.forall_mem_cons]
    exact ⟨.other rfl, .other rfl, hOne 7 "q" "5", List.forall_mem_nil _⟩
  obtain ⟨merged, hMerge, -, hEntries, hDistinct⟩ := merge_is_ordered_union hBase hAbove
  refine ⟨⟨hBase, hAbove⟩, merged, hMerge, ?_, hDistinct hLower hUpper⟩
  rw [hEntries]
  decide

theorem exists_at?_of_merge {a b n : Node} (ha : a.HasDistinctKeys) (hb : b.HasDistinctKeys)
    {path : List String} (h : (merge a b).at? path = some n) :
    ∃ m, (a.at? path = some m ∨ b.at? path = some m) ∧ m.isMapping = n.isMapping := by
  induction path generalizing a b with
  | nil =>
    obtain rfl : merge a b = n := Option.some.inj h
    exact ⟨b, Or.inr (at?_nil b), (isMapping_merge a b).symm⟩
  | cons key path ih =>
    cases ha with
    | other hOther =>
      rw [merge_of_left hOther] at h
      exact ⟨n, Or.inr h, rfl⟩
    | @mapping p base hBase hValues =>
      cases hb with
      | other hOther =>
        rw [merge_of_right _ hOther] at h
        exact ⟨n, Or.inr h, rfl⟩
      | @mapping q above hAbove hValuesAbove =>
        have hLeft : HasDistinctKeys (.mapping p base) := .mapping hBase hValues
        have hRight : HasDistinctKeys (.mapping q above) := .mapping hAbove hValuesAbove
        rw [merge_mapping, at?_cons, child?, valueAt?_mergeEntries hBase hAbove] at h
        simp only [at?_cons, child?]
        cases hA : valueAt? base key with
        | none =>
          rw [hA] at h
          exact ⟨n, Or.inr h, rfl⟩
        | some x =>
          cases hB : valueAt? above key with
          | none =>
            rw [hA, hB] at h
            exact ⟨n, Or.inl h, rfl⟩
          | some y =>
            rw [hA, hB] at h
            exact ih (hLeft.value hA) (hRight.value hB) h

end ConfigReference.Yaml.Node
