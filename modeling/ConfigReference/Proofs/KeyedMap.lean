import ConfigReference.KeyedMap
import Mathlib.Data.List.Perm.Basic

/-!
# Keyed maps by their look-ups

A keyed map is what its look-ups are. Entries that agree on each key can therefore be put in in any
order.
-/

set_option autoImplicit false

namespace ConfigReference

variable {α : Type}

theorem lookup_eq_some_iff_mem {entries : List (String × α)} (h : Ascending entries) (key : String)
    (value : α) : entries.lookup key = some value ↔ (key, value) ∈ entries := by
  induction entries with
  | nil => simp
  | cons head rest ih =>
    obtain ⟨headKey, headValue⟩ := head
    obtain ⟨hHead, hRest⟩ := List.pairwise_cons.mp h
    rw [List.lookup_cons, List.mem_cons, ← ih hRest]
    by_cases hKey : key = headKey
    · subst hKey
      have hNone : rest.lookup key ≠ some value := by
        rw [ne_eq, ih hRest]
        exact fun hMem => String.lt_irrefl key (hHead _ hMem)
      simp [hNone, eq_comm]
    · have hBeq : (key == headKey) = false := by simpa using hKey
      simp [hBeq, hKey]

theorem insertKeyed_of_forall_lt {key : String} {value : α} {entries : List (String × α)}
    (h : ∀ e ∈ entries, e.1 < key) : insertKeyed key value entries = entries ++ [(key, value)] := by
  induction entries with
  | nil => rfl
  | cons head rest ih =>
    have hHead := h head List.mem_cons_self
    have hNe : key ≠ head.1 := by
      rintro rfl
      exact String.lt_irrefl _ hHead
    rw [insertKeyed, if_neg (String.lt_asymm hHead), if_neg hNe,
      ih fun e he => h e (List.mem_cons_of_mem _ he)]
    rfl

theorem foldl_insertKeyed_of_ascending {entries sorted : List (String × α)}
    (h : Ascending (sorted ++ entries)) :
    entries.foldl (fun sorted e => insertKeyed e.1 e.2 sorted) sorted = sorted ++ entries := by
  induction entries generalizing sorted with
  | nil => exact (List.append_nil sorted).symm
  | cons e rest ih =>
    have hLast : ∀ d ∈ sorted, d.1 < e.1 := fun d hd =>
      (List.pairwise_append.mp h).2.2 d hd e List.mem_cons_self
    rw [List.append_cons] at h ⊢
    rw [List.foldl_cons, insertKeyed_of_forall_lt hLast]
    exact ih h

theorem Ascending.nodup {entries : List (String × α)} (h : Ascending entries) : entries.Nodup := by
  refine List.Pairwise.imp ?_ h
  rintro a _ hLt rfl
  exact String.lt_irrefl a.1 hLt

namespace KeyedMap

theorem ext {m n : KeyedMap α} (h : ∀ key, m.get? key = n.get? key) : m = n := by
  have hPerm : m.entries.Perm n.entries := by
    rw [List.perm_ext_iff_of_nodup m.ascending.nodup n.ascending.nodup]
    rintro ⟨key, value⟩
    rw [← lookup_eq_some_iff_mem m.ascending, ← lookup_eq_some_iff_mem n.ascending]
    exact Eq.congr_left (h key)
  refine eq_of_entries (hPerm.eq_of_pairwise ?_ m.ascending n.ascending)
  intro a b _ _ hLt hGt
  exact absurd hGt (String.lt_asymm hLt)

theorem entries_eq_iff {entries others : List (String × α)} (h : Ascending entries)
    (hOthers : Ascending others) :
    entries = others ↔ ∀ key, entries.lookup key = others.lookup key := by
  constructor
  · rintro rfl key
    rfl
  · intro hLookups
    exact congrArg KeyedMap.entries (@ext α ⟨entries, h⟩ ⟨others, hOthers⟩ hLookups)

theorem insert_comm (m : KeyedMap α) {key other : String} (hNe : key ≠ other) (value last : α) :
    (m.insert key value).insert other last = (m.insert other last).insert key value := by
  refine ext fun k => ?_
  simp only [get?_insert]
  split
  · rename_i hOther
    rw [if_neg (hOther ▸ hNe.symm)]
  · rfl

theorem entries_foldl_insert (m : KeyedMap α) (entries : List (String × α)) :
    (entries.foldl (fun m e => m.insert e.1 e.2) m).entries =
      entries.foldl (fun sorted e => insertKeyed e.1 e.2 sorted) m.entries := by
  induction entries generalizing m with
  | nil => rfl
  | cons e rest ih => exact ih (m.insert e.1 e.2)

theorem ofList_entries (m : KeyedMap α) : ofList m.entries = m := by
  apply eq_of_entries
  rw [ofList, entries_foldl_insert]
  exact foldl_insertKeyed_of_ascending m.ascending

theorem get?_foldl_insert (m : KeyedMap α) (entries : List (String × α)) (key : String) :
    (entries.foldl (fun m e => m.insert e.1 e.2) m).get? key =
      ((entries.filter (·.1 == key)).getLast?.map (·.2)).or (m.get? key) := by
  induction entries generalizing m with
  | nil => rfl
  | cons e entries ih =>
    rw [List.foldl_cons, ih, get?_insert, List.filter_cons]
    by_cases hKey : e.1 = key
    · rw [if_pos hKey.symm, if_pos (by simpa using hKey), List.getLast?_cons]
      cases (entries.filter (·.1 == key)).getLast? <;> rfl
    · rw [if_neg (Ne.symm hKey), if_neg (by simpa using hKey)]

theorem get?_ofList (entries : List (String × α)) (key : String) :
    (ofList entries).get? key = (entries.filter (·.1 == key)).getLast?.map (·.2) := by
  rw [ofList, get?_foldl_insert, get?_empty, Option.or_none]

theorem mem_of_mem_ofList {entries : List (String × α)} {e : String × α}
    (h : e ∈ (ofList entries).entries) : e ∈ entries := by
  rw [← lookup_eq_some_iff_mem (ofList entries).ascending] at h
  have hLast := (get?_ofList entries e.1).symm.trans h
  obtain ⟨d, hd, hValue⟩ := Option.map_eq_some_iff.mp hLast
  obtain ⟨hMem, hKey⟩ := List.mem_filter.mp (List.mem_of_getLast? hd)
  have hSame : d = e := Prod.ext (by simpa using hKey) hValue
  exact hSame ▸ hMem

theorem exists_mem_ofList {entries : List (String × α)} {e : String × α} (h : e ∈ entries) :
    ∃ value, (e.1, value) ∈ (ofList entries).entries := by
  have hSome : entries.filter (·.1 == e.1) ≠ [] :=
    List.ne_nil_of_mem (List.mem_filter.mpr ⟨h, beq_self_eq_true _⟩)
  refine ⟨((entries.filter (·.1 == e.1)).getLast hSome).2, ?_⟩
  rw [← lookup_eq_some_iff_mem (ofList entries).ascending]
  refine (get?_ofList entries e.1).trans ?_
  rw [List.getLast?_eq_some_getLast hSome, Option.map_some]

theorem get?_of_get?_filter {m : KeyedMap α} {p : String → α → Bool} {key : String} {value : α}
    (h : (m.filter p).get? key = some value) : m.get? key = some value := by
  have hMem := (lookup_eq_some_iff_mem (m.filter p).ascending key value).mp h
  exact (lookup_eq_some_iff_mem m.ascending key value).mpr (List.mem_filter.mp hMem).1

/-- The order of the entries does not matter where no two of them contradict each other. -/
theorem ofList_perm {entries others : List (String × α)} (hPerm : entries.Perm others)
    (hAgree : ∀ a ∈ entries, ∀ b ∈ entries, a.1 = b.1 → a = b) : ofList entries = ofList others := by
  refine hPerm.foldl_eq' ?_ empty
  intro a ha b hb m
  by_cases hKey : a.1 = b.1
  · rw [hAgree a ha b hb hKey]
  · exact m.insert_comm hKey a.2 b.2

end KeyedMap

end ConfigReference
