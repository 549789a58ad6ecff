/-!
# Keyed maps

Finite maps from texts, kept as a list of entries in strictly ascending key order. Two maps with
the same look-ups are therefore equal.
-/

set_option autoImplicit false

namespace ConfigReference

/-- Put `value` under `key`, before the first greater key and instead of an equal one. -/
def insertKeyed {α : Type} (key : String) (value : α) :
    List (String × α) → List (String × α)
  | [] => [(key, value)]
  | (k, v) :: rest =>
    if key < k then (key, value) :: (k, v) :: rest
    else if key = k then (key, value) :: rest
    else (k, v) :: insertKeyed key value rest

theorem mem_insertKeyed {α : Type} {key : String} {value : α} {entries : List (String × α)}
    {e : String × α} (h : e ∈ insertKeyed key value entries) :
    e = (key, value) ∨ e ∈ entries := by
  induction entries with
  | nil => simpa [insertKeyed] using h
  | cons head rest ih =>
    rw [insertKeyed] at h
    split at h
    · simpa using h
    · split at h
      · rcases List.mem_cons.mp h with rfl | hRest
        · exact Or.inl rfl
        · exact Or.inr (List.mem_cons_of_mem _ hRest)
      · rcases List.mem_cons.mp h with rfl | hRest
        · exact Or.inr List.mem_cons_self
        · exact (ih hRest).imp id (List.mem_cons_of_mem _)

theorem insertKeyed_insertKeyed {α : Type} (key : String) (value other : α)
    (entries : List (String × α)) :
    insertKeyed key other (insertKeyed key value entries) = insertKeyed key other entries := by
  induction entries with
  | nil => simp [insertKeyed]
  | cons head rest ih =>
    rw [insertKeyed.eq_2 key value, insertKeyed.eq_2 key other]
    split
    · simp [insertKeyed]
    · split
      · simp [insertKeyed]
      · rw [insertKeyed, if_neg ‹_›, if_neg ‹_›, ih]

def Ascending {α : Type} (entries : List (String × α)) : Prop :=
  entries.Pairwise fun a b => a.1 < b.1

theorem string_lt_of_not_lt_of_ne {a b : String} (hLt : ¬a < b) (hNe : a ≠ b) : b < a := by
  have hle : b ≤ a := String.not_lt.mp hLt
  exact Classical.byContradiction fun h => hNe (String.le_antisymm (String.not_lt.mp h) hle)

theorem ascending_insertKeyed {α : Type} (key : String) (value : α)
    {entries : List (String × α)} (h : Ascending entries) :
    Ascending (insertKeyed key value entries) := by
  induction entries with
  | nil => exact List.pairwise_singleton _ _
  | cons head rest ih =>
    have hRest : Ascending rest := (List.pairwise_cons.mp h).2
    have hHead : ∀ e ∈ rest, head.1 < e.1 := (List.pairwise_cons.mp h).1
    rw [insertKeyed]
    split
    · rename_i hLt
      refine List.pairwise_cons.mpr ⟨?_, h⟩
      intro e he
      rcases List.mem_cons.mp he with rfl | he
      · exact hLt
      · exact String.lt_trans hLt (hHead e he)
    · rename_i hLt
      split
      · rename_i hEq
        refine List.pairwise_cons.mpr ⟨?_, hRest⟩
        intro e he
        exact hEq ▸ hHead e he
      · rename_i hNe
        refine List.pairwise_cons.mpr ⟨?_, ih hRest⟩
        intro e he
        rcases mem_insertKeyed he with rfl | he
        · exact string_lt_of_not_lt_of_ne hLt hNe
        · exact hHead e he

structure KeyedMap (α : Type) where
  entries : List (String × α) := []
  ascending : Ascending entries := by exact List.Pairwise.nil

namespace KeyedMap

variable {α β : Type}

def empty : KeyedMap α := {}

instance : Inhabited (KeyedMap α) := ⟨empty⟩

def insert (m : KeyedMap α) (key : String) (value : α) : KeyedMap α :=
  ⟨insertKeyed key value m.entries, ascending_insertKeyed key value m.ascending⟩

def get? (m : KeyedMap α) (key : String) : Option α := m.entries.lookup key

def contains (m : KeyedMap α) (key : String) : Bool := (m.get? key).isSome

def keys (m : KeyedMap α) : List String := m.entries.map (·.1)

def values (m : KeyedMap α) : List α := m.entries.map (·.2)

def isEmpty (m : KeyedMap α) : Bool := m.entries.isEmpty

def size (m : KeyedMap α) : Nat := m.entries.length

/-- The map of a list of entries, a later one replacing an earlier one of the same key. -/
def ofList (entries : List (String × α)) : KeyedMap α :=
  entries.foldl (fun m e => m.insert e.1 e.2) empty

def union (m other : KeyedMap α) : KeyedMap α :=
  other.entries.foldl (fun m e => m.insert e.1 e.2) m

def filter (m : KeyedMap α) (p : String → α → Bool) : KeyedMap α :=
  ⟨m.entries.filter fun e => p e.1 e.2, m.ascending.filter _⟩

theorem eq_of_entries {m n : KeyedMap α} (h : m.entries = n.entries) : m = n := by
  cases m; cases n; cases h; rfl

theorem get?_empty (key : String) : (empty : KeyedMap α).get? key = none := rfl

theorem lookup_insertKeyed (key k : String) (value : α) (entries : List (String × α)) :
    (insertKeyed key value entries).lookup k =
      if k = key then some value else entries.lookup k := by
  induction entries with
  | nil =>
    by_cases hKey : k = key
    · simp [insertKeyed, hKey]
    · have hBeq : (k == key) = false := by simpa using hKey
      simp [insertKeyed, List.lookup_cons, hKey, hBeq]
  | cons head rest ih =>
    obtain ⟨headKey, headValue⟩ := head
    rw [insertKeyed]
    by_cases hKey : k = key
    · subst hKey
      by_cases hEq : k = headKey
      · subst hEq
        simp
      · have hBeq : (k == headKey) = false := by simpa using hEq
        split <;> simp [List.lookup_cons, hBeq, ih]
    · have hBeq : (k == key) = false := by simpa using hKey
      by_cases hEq : key = headKey
      · subst hEq
        simp [List.lookup_cons, hKey, hBeq]
      · split <;> simp [List.lookup_cons, hBeq, hKey, ih]

theorem get?_insert (m : KeyedMap α) (key k : String) (value : α) :
    (m.insert key value).get? k = if k = key then some value else m.get? k :=
  lookup_insertKeyed key k value m.entries

end KeyedMap

end ConfigReference
