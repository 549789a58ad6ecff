import Mathlib.Data.List.Nodup
import ConfigReference.Proofs.Audit.Agreement
import ConfigReference.Proofs.Comment.Header
import ConfigReference.Proofs.Yaml.Merging
import ConfigReference.Proofs.Yaml.Reach

/-!
# Decoding key paths

Behind the first step of a key path every step begins with a dot or with a bracket. A key that has
neither brackets nor double quotes, and is not empty, ends where the next step begins, so the steps
can be read off the path again. The rows of a tree with such keys have different keys.
-/

set_option autoImplicit false

namespace ConfigReference

namespace KeyPath

/-- A key that can be told from what stands around it in a key path. -/
structure IsClear (key : String) : Prop where
  ne_empty : key ≠ ""
  noQuote : '"' ∉ key.toList
  noBracket : '[' ∉ key.toList

instance (key : String) : Decidable (IsClear key) :=
  decidable_of_iff (key ≠ "" ∧ '"' ∉ key.toList ∧ '[' ∉ key.toList)
    ⟨fun ⟨hSome, hQuote, hBracket⟩ => ⟨hSome, hQuote, hBracket⟩,
      fun h => ⟨h.ne_empty, h.noQuote, h.noBracket⟩⟩

def Step.IsClear : Step → Prop
  | key text => KeyPath.IsClear text
  | item _ => True

def Step.behind : Step → List Char
  | key text => '.' :: quote text.toList
  | item index => itemChars [] index

def EndsStep (rest : List Char) : Prop := ∀ c ∈ rest.head?, c = '.' ∨ c = '['

theorem foldl_ontoChars_of_ne_nil {base : List Char} (hBase : base ≠ []) (steps : List Step) :
    steps.foldl Step.ontoChars base = base ++ steps.flatMap Step.behind := by
  induction steps generalizing base with
  | nil => simp
  | cons s rest ih =>
    have hStep : s.ontoChars base = base ++ s.behind := by
      cases s with
      | key text => simp [Step.ontoChars, childChars, Step.behind, hBase]
      | item index => simp [Step.ontoChars, itemChars, Step.behind]
    have hNext : base ++ s.behind ≠ [] := by simp [hBase]
    rw [List.foldl_cons, hStep, ih hNext, List.flatMap_cons, List.append_assoc]

theorem endsStep_flatMap_behind (steps : List Step) : EndsStep (steps.flatMap Step.behind) := by
  cases steps with
  | nil => nofun
  | cons s rest =>
    intro c hc
    rw [List.flatMap_cons] at hc
    cases s with
    | key text => exact Or.inl (Option.some.inj hc).symm
    | item index => exact Or.inr (Option.some.inj hc).symm

/-! ## One step -/

theorem IsClear.exists_quote_eq {key : String} (h : IsClear key) :
    ∃ c cs, quote key.toList = c :: cs ∧ c ≠ '[' ∧
      (c = '"' ↔ (Step.key key).isPlainKey = false) := by
  cases hPlain : (Step.key key).isPlainKey with
  | false => exact ⟨'"', _, quote_of_not_isPlainKey hPlain, by decide, by simp⟩
  | true =>
    have hSome : key.toList ≠ [] := fun hNil => h.ne_empty (by simpa using hNil)
    obtain ⟨c, cs, hChars⟩ := List.exists_cons_of_ne_nil hSome
    have hMem : c ∈ key.toList := hChars ▸ List.mem_cons_self
    have hBracket : c ≠ '[' := fun hEq => h.noBracket (hEq ▸ hMem)
    have hQuote : c ≠ '"' := fun hEq => h.noQuote (hEq ▸ hMem)
    exact ⟨c, cs, (quote_of_isPlainKey hPlain).trans hChars, hBracket, by simp [hQuote]⟩

theorem quote_append_inj {key other : String} (hKey : IsClear key) (hOther : IsClear other)
    {rest more : List Char} (hRest : EndsStep rest) (hMore : EndsStep more)
    (h : quote key.toList ++ rest = quote other.toList ++ more) : key = other ∧ rest = more := by
  obtain ⟨c, cs, hChars, -, hForm⟩ := hKey.exists_quote_eq
  obtain ⟨d, ds, hOtherChars, -, hOtherForm⟩ := hOther.exists_quote_eq
  have hSame : (Step.key key).isPlainKey = (Step.key other).isPlainKey := by
    obtain rfl : c = d := by
      rw [hChars, hOtherChars] at h
      exact (List.cons.inj h).1
    rw [Bool.eq_iff_iff, ← Bool.not_eq_false, ← Bool.not_eq_false, ← hForm, ← hOtherForm]
  cases hPlain : (Step.key key).isPlainKey with
  | true =>
    -- without quotes a key goes up to the next dot or bracket
    rw [quote_of_isPlainKey hPlain, quote_of_isPlainKey (hSame ▸ hPlain)] at h
    let inKey (c : Char) : Bool := c != '.' && c != '['
    have hInside {key : String} (hKey : IsClear key) (hPlain : (Step.key key).isPlainKey = true) :
        ∀ c ∈ key.toList, inKey c = true := by
      intro c hc
      have hBracket : c ≠ '[' := fun hEq => hKey.noBracket (hEq ▸ hc)
      have hDot : c ≠ '.' := by
        rintro rfl
        simp [Step.isPlainKey, hc] at hPlain
      simp [inKey, hBracket, hDot]
    have hOutside {rest : List Char} (hRest : EndsStep rest) :
        ∀ c ∈ rest.head?, inKey c = false := by
      intro c hc
      rcases hRest c hc with rfl | rfl <;> rfl
    obtain ⟨hText, hEq⟩ := Text.append_inj_of_boundary (hInside hKey hPlain)
      (hInside hOther (hSame ▸ hPlain)) (hOutside hRest) (hOutside hMore) h
    exact ⟨String.toList_inj.mp hText, hEq⟩
  | false =>
    rw [quote_of_not_isPlainKey hPlain, quote_of_not_isPlainKey (hSame ▸ hPlain)] at h
    have hTail : key.toList ++ '"' :: rest = other.toList ++ '"' :: more := by simpa using h
    have hInside {key : String} (hKey : IsClear key) : ∀ c ∈ key.toList, (c != '"') = true := by
      intro c hc
      have hQuote : c ≠ '"' := fun hEq => hKey.noQuote (hEq ▸ hc)
      simpa using hQuote
    obtain ⟨hText, hEq⟩ := Text.append_inj_of_boundary (hInside hKey) (hInside hOther)
      (by simp) (by simp) hTail
    exact ⟨String.toList_inj.mp hText, (List.cons.inj hEq).2⟩

theorem natDigits_inj {m n : Nat} (h : Text.natDigits m = Text.natDigits n) : m = n := by
  have hValue := congrArg (fun digits => Nat.ofDigitChars 10 digits 0) h
  simpa [Text.natDigits] using hValue

theorem itemChars_append_inj {m n : Nat} {rest more : List Char}
    (h : itemChars [] m ++ rest = itemChars [] n ++ more) : m = n ∧ rest = more := by
  have hTail : Text.natDigits m ++ ']' :: rest = Text.natDigits n ++ ']' :: more := by
    simpa [itemChars] using h
  have hInside (n : Nat) : ∀ c ∈ Text.natDigits n, c.isDigit = true := fun _ hc =>
    Nat.isDigit_of_mem_toDigits (by decide) (by decide) hc
  obtain ⟨hDigits, hEq⟩ := Text.append_inj_of_boundary (hInside m) (hInside n) (by simp) (by simp)
    hTail
  exact ⟨natDigits_inj hDigits, (List.cons.inj hEq).2⟩

theorem Step.behind_append_inj {s t : Step} (hs : s.IsClear) (ht : t.IsClear)
    {rest more : List Char} (hRest : EndsStep rest) (hMore : EndsStep more)
    (h : s.behind ++ rest = t.behind ++ more) : s = t ∧ rest = more := by
  cases s with
  | key text =>
    cases t with
    | key other =>
      obtain ⟨rfl, hEq⟩ := quote_append_inj hs ht hRest hMore (List.cons.inj h).2
      exact ⟨rfl, hEq⟩
    | item index => exact absurd (List.cons.inj h).1 (by decide)
  | item index =>
    cases t with
    | key other => exact absurd (List.cons.inj h).1 (by decide)
    | item other =>
      obtain ⟨rfl, hEq⟩ := itemChars_append_inj h
      exact ⟨rfl, hEq⟩

/-! ## Whole paths -/

theorem flatMap_behind_inj {steps others : List Step} (hSteps : ∀ s ∈ steps, s.IsClear)
    (hOthers : ∀ s ∈ others, s.IsClear)
    (h : steps.flatMap Step.behind = others.flatMap Step.behind) : steps = others := by
  have hNext (s : Step) (rest : List Step) : (s :: rest).flatMap Step.behind ≠ [] := by
    cases s <;> simp [Step.behind, itemChars]
  induction steps generalizing others with
  | nil =>
    cases others with
    | nil => rfl
    | cons t more => exact absurd h.symm (hNext t more)
  | cons s rest ih =>
    cases others with
    | nil => exact absurd h (hNext s rest)
    | cons t more =>
      obtain ⟨hs, hRest⟩ := List.forall_mem_cons.mp hSteps
      obtain ⟨ht, hMore⟩ := List.forall_mem_cons.mp hOthers
      rw [List.flatMap_cons, List.flatMap_cons] at h
      obtain ⟨rfl, hTail⟩ := Step.behind_append_inj hs ht (endsStep_flatMap_behind rest)
        (endsStep_flatMap_behind more) h
      rw [ih hRest hMore hTail]

theorem Step.IsClear.ontoChars_ne_nil {s : Step} (hs : s.IsClear) : s.ontoChars [] ≠ [] := by
  cases s with
  | key text =>
    obtain ⟨c, cs, hChars, -⟩ := KeyPath.IsClear.exists_quote_eq hs
    show quote text.toList ≠ []
    simp [hChars]
  | item index => simp [Step.ontoChars, itemChars]

theorem toList_ofSteps_cons {s : Step} (hs : s.IsClear) (rest : List Step) :
    (ofSteps (s :: rest)).toList = s.ontoChars [] ++ rest.flatMap Step.behind := by
  rw [toList_ofSteps, List.foldl_cons, foldl_ontoChars_of_ne_nil hs.ontoChars_ne_nil]

theorem Step.ontoChars_append_inj {s t : Step} (hs : s.IsClear) (ht : t.IsClear)
    {rest more : List Char} (hRest : EndsStep rest) (hMore : EndsStep more)
    (h : s.ontoChars [] ++ rest = t.ontoChars [] ++ more) : s = t ∧ rest = more := by
  cases s with
  | key text =>
    cases t with
    | key other => exact behind_append_inj hs ht hRest hMore (congrArg ('.' :: ·) h)
    | item index =>
      obtain ⟨c, cs, hChars, hBracket, -⟩ := KeyPath.IsClear.exists_quote_eq hs
      change quote text.toList ++ rest = _ at h
      rw [hChars] at h
      exact absurd (List.cons.inj h).1 hBracket
  | item index =>
    cases t with
    | key other =>
      obtain ⟨c, cs, hChars, hBracket, -⟩ := KeyPath.IsClear.exists_quote_eq ht
      change _ = quote other.toList ++ more at h
      rw [hChars] at h
      exact absurd (List.cons.inj h).1.symm hBracket
    | item other => exact behind_append_inj hs ht hRest hMore h

theorem ofSteps_inj {steps others : List Step} (hSteps : ∀ s ∈ steps, s.IsClear)
    (hOthers : ∀ s ∈ others, s.IsClear) (h : ofSteps steps = ofSteps others) : steps = others := by
  have hNotEmpty {s : Step} {rest : List Step} (hs : s.IsClear) : ofSteps (s :: rest) ≠ "" := by
    intro hEmpty
    have hNil := toList_ofSteps_cons hs rest
    rw [hEmpty] at hNil
    exact hs.ontoChars_ne_nil (List.append_eq_nil_iff.mp hNil.symm).1
  cases steps with
  | nil =>
    cases others with
    | nil => rfl
    | cons t more => exact absurd h.symm (hNotEmpty (hOthers t List.mem_cons_self))
  | cons s rest =>
    obtain ⟨hs, hRest⟩ := List.forall_mem_cons.mp hSteps
    cases others with
    | nil => exact absurd h (hNotEmpty hs)
    | cons t more =>
      obtain ⟨ht, hMore⟩ := List.forall_mem_cons.mp hOthers
      have hChars := congrArg String.toList h
      rw [toList_ofSteps_cons hs, toList_ofSteps_cons ht] at hChars
      obtain ⟨rfl, hTail⟩ := Step.ontoChars_append_inj hs ht (endsStep_flatMap_behind rest)
        (endsStep_flatMap_behind more) hChars
      rw [flatMap_behind_inj hRest hMore hTail]

end KeyPath

namespace Yaml.Node

open KeyPath

/-- In every mapping of a tree the keys are clear, and no two have the same text. -/
structure HasClearKeys (root : Node) : Prop where
  nodup : ∀ p entries, root.Reaches (.mapping p entries) → (entryTexts entries).Nodup
  clear : ∀ p entries, root.Reaches (.mapping p entries) → ∀ e ∈ entries, KeyPath.IsClear e.1.text

theorem HasClearKeys.of_reaches {n m : Node} (h : n.HasClearKeys) (hReaches : n.Reaches m) :
    m.HasClearKeys where
  nodup p entries hInside := h.nodup p entries (hReaches.trans hInside)
  clear p entries hInside := h.clear p entries (hReaches.trans hInside)

theorem HasClearKeys.part {n : Node} {part : KeyPath.Step × Node} (h : n.HasClearKeys)
    (hPart : part ∈ n.parts) : part.2.HasClearKeys := h.of_reaches (reaches_of_mem_parts hPart)

theorem HasClearKeys.target {p : Place} {n : Node} (h : (aliasTo p n).HasClearKeys) :
    n.HasClearKeys := h.of_reaches (.target (.self n))

theorem HasClearKeys.isClear_step {n : Node} (h : n.HasClearKeys) {part : KeyPath.Step × Node}
    (hPart : part ∈ n.parts) : part.1.IsClear := by
  fun_induction parts n with
  | case1 p tag text => cases hPart
  | case2 p target ih => exact ih h.target hPart
  | case3 p items =>
    obtain ⟨i, hi, rfl⟩ := List.mem_mapIdx.mp hPart
    trivial
  | case4 p entries =>
    obtain ⟨e, he, rfl⟩ := List.mem_map.mp hPart
    exact h.clear p entries (.self _) e he

theorem HasClearKeys.nodup_steps {n : Node} (h : n.HasClearKeys) :
    (n.parts.map (·.1)).Nodup := by
  fun_induction parts n with
  | case1 p tag text => exact List.nodup_nil
  | case2 p target ih => exact ih h.target
  | case3 p items =>
    have hSteps : (items.mapIdx fun i item => (KeyPath.Step.item i, item)).map (·.1) =
        (List.range items.length).map KeyPath.Step.item := by
      apply List.ext_getElem <;> simp
    rw [hSteps]
    exact List.Nodup.map (fun _ _ hEq => KeyPath.Step.item.inj hEq) List.nodup_range
  | case4 p entries =>
    have hSteps : (entries.map fun e => (KeyPath.Step.key e.1.text, e.2)).map (·.1) =
        (entryTexts entries).map KeyPath.Step.key := by simp [entryTexts]
    rw [hSteps]
    exact List.Nodup.map (fun _ _ hEq => KeyPath.Step.key.inj hEq) (h.nodup p entries (.self _))

theorem addresses_eq_flatMap (n : Node) :
    n.addresses = n.parts.flatMap fun part => [part.1] :: part.2.addresses.map (part.1 :: ·) := by
  rw [addresses, addressesBelow_eq]
  refine List.flatMap_congr fun part _ => ?_
  rw [addressesBelow_eq_map_spots, addresses_eq_map_spots, List.map_map]
  rfl

theorem HasClearKeys.isClear_of_mem_addresses {n : Node} (h : n.HasClearKeys)
    {steps : List KeyPath.Step} (hSteps : steps ∈ n.addresses) : ∀ s ∈ steps, s.IsClear := by
  induction n using induction_on_parts generalizing steps with
  | step n ih =>
    rw [addresses_eq_flatMap, List.mem_flatMap] at hSteps
    obtain ⟨part, hPart, hSteps⟩ := hSteps
    have hFirst := h.isClear_step hPart
    rcases List.mem_cons.mp hSteps with rfl | hInside
    · exact List.forall_mem_singleton.mpr hFirst
    · obtain ⟨rest, hRest, rfl⟩ := List.mem_map.mp hInside
      exact List.forall_mem_cons.mpr ⟨hFirst, ih part hPart (h.part hPart) hRest⟩

theorem nil_not_mem_addresses (n : Node) : [] ∉ n.addresses := by
  rw [addresses_eq_flatMap, List.mem_flatMap]
  rintro ⟨part, -, hNil⟩
  simp at hNil

theorem HasClearKeys.nodup_addresses {n : Node} (h : n.HasClearKeys) : n.addresses.Nodup := by
  induction n using induction_on_parts with
  | step n ih =>
    rw [addresses_eq_flatMap, List.nodup_flatMap]
    constructor
    · intro part hPart
      have hInside : (part.2.addresses.map (part.1 :: ·)).Nodup :=
        List.Nodup.map List.cons_injective (ih part hPart (h.part hPart))
      refine List.nodup_cons.mpr ⟨?_, hInside⟩
      intro hMem
      obtain ⟨rest, hRest, hEq⟩ := List.mem_map.mp hMem
      obtain rfl : rest = [] := (List.cons.inj hEq).2
      exact nil_not_mem_addresses _ hRest
    · -- addresses that lead through different parts differ in their first step
      have hHead (part : KeyPath.Step × Node) :
          ∀ steps ∈ [part.1] :: part.2.addresses.map (part.1 :: ·), steps.head? = some part.1 := by
        intro steps hSteps
        rcases List.mem_cons.mp hSteps with rfl | hInside
        · rfl
        · obtain ⟨rest, -, rfl⟩ := List.mem_map.mp hInside
          rfl
      refine (List.pairwise_map.mp h.nodup_steps).imp ?_
      intro part other hNe steps hSteps hOther
      exact hNe (Option.some.inj ((hHead part steps hSteps).symm.trans (hHead other steps hOther)))

end Yaml.Node

namespace KeyPath

open Yaml.Node

theorem nodup_keys_positions {root : Yaml.Node} (h : root.HasClearKeys) :
    ((Row.positions root).map (·.key)).Nodup := by
  rw [Row.keys_positions, List.nodup_cons]
  constructor
  · intro hMem
    obtain ⟨steps, hSteps, hEmpty⟩ := List.mem_map.mp hMem
    have hNil : steps = [] :=
      ofSteps_inj (h.isClear_of_mem_addresses hSteps) (List.forall_mem_nil _) hEmpty
    exact nil_not_mem_addresses root (hNil ▸ hSteps)
  · refine List.Nodup.map_on ?_ h.nodup_addresses
    intro steps hSteps others hOthers hEq
    exact ofSteps_inj (h.isClear_of_mem_addresses hSteps) (h.isClear_of_mem_addresses hOthers) hEq

theorem nodup_keys_rows {root : Yaml.Node} (h : root.HasClearKeys) {ds : Descriptions}
    {rows : List Row} (hRows : Yaml.Node.rows (some root) ds = .ok rows) :
    (rows.map (·.key)).Nodup := by
  have hKeys : rows.map (·.key) =
      ((Row.positions root).filter (·.isListed ds)).map (·.key) := by
    symm
    rw [← List.forall₂_eq_eq_eq]
    exact List.forall₂_map_left_iff.mpr (List.forall₂_map_right_iff.mpr
      ((Row.forall₂_rows hRows).imp fun _ _ hDoc => hDoc.key.symm))
  rw [hKeys]
  exact (nodup_keys_positions h).sublist (List.filter_sublist.map _)

/-- Two addresses with the same key path are the same, unless a key on one of them is empty or has a
double quote or an opening bracket. In a tree without such keys, and without a key twice in a
mapping, no two positions and no two rows have the same key. -/
theorem key_paths_decode_uniquely :
    (∀ steps others : List Step, steps ≠ others → ofSteps steps = ofSteps others →
      ∃ text, (Step.key text ∈ steps ∨ Step.key text ∈ others) ∧
        (text = "" ∨ '"' ∈ text.toList ∨ '[' ∈ text.toList)) ∧
    ∀ root : Yaml.Node, root.HasClearKeys →
      ((Row.positions root).map (·.key)).Nodup ∧
      ∀ ds rows, Yaml.Node.rows (some root) ds = .ok rows → (rows.map (·.key)).Nodup := by
  refine ⟨?_, fun root h => ⟨nodup_keys_positions h, fun ds rows => nodup_keys_rows h⟩⟩
  intro steps others hNe hEq
  by_contra hNone
  have hClear : ∀ s, s ∈ steps ∨ s ∈ others → s.IsClear := by
    intro s hs
    cases s with
    | item index => trivial
    | key text =>
      refine ⟨?_, ?_, ?_⟩
      · exact fun h => hNone ⟨text, hs, Or.inl h⟩
      · exact fun h => hNone ⟨text, hs, Or.inr (Or.inl h)⟩
      · exact fun h => hNone ⟨text, hs, Or.inr (Or.inr h)⟩
  exact hNe (ofSteps_inj (fun s hs => hClear s (Or.inl hs)) (fun s hs => hClear s (Or.inr hs)) hEq)

/-- The path `a[0]` is that of an item and that of a key with a bracket. Behind an alias in a list
the keys `x` and `x y` have paths of their own. -/
theorem key_paths_decode_uniquely_behind_alias :
    let leaf (key : String) : Yaml.Node × Yaml.Node := (.scalar {} .str key, .scalar {} .null "")
    let root : Yaml.Node := .mapping {} [(.scalar {} .str "a.b",
      .sequence {} [.aliasTo {} (.mapping {} [leaf "x", leaf "x y"])]), leaf "a"]
    (∃ text, (Step.key text ∈ [Step.key "a", .item 0] ∨ Step.key text ∈ [Step.key "a[0]"]) ∧
      (text = "" ∨ '"' ∈ text.toList ∨ '[' ∈ text.toList)) ∧
    root.HasClearKeys ∧ ((Row.positions root).map (·.key)).Nodup ∧
    (Row.positions root).map (·.key) =
      ["", "\"a.b\"", "\"a.b\"[0]", "\"a.b\"[0].x", "\"a.b\"[0].\"x y\"", "a"] := by
  intro leaf root
  obtain ⟨hPaths, hTrees⟩ := key_paths_decode_uniquely
  have hKeys : root.HasClearKeys := by
    constructor
    all_goals
      intro p entries hReaches
      simp only [root, leaf, reaches_mapping_iff, reaches_sequence_iff, reaches_aliasTo_iff,
        reaches_scalar_iff, List.mem_cons, List.not_mem_nil, or_false, exists_eq_or_imp,
        exists_eq_left, mapping.injEq, reduceCtorEq, false_or] at hReaches
      rcases hReaches with ⟨-, rfl⟩ | ⟨-, rfl⟩
    · decide
    · decide
    · decide +kernel
    · decide +kernel
  exact ⟨hPaths _ _ (by decide) (by decide +kernel), hKeys, (hTrees root hKeys).1,
    by decide +kernel⟩

end KeyPath

end ConfigReference
