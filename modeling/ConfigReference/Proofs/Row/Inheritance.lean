import ConfigReference.Proofs.Section.Filing

/-!
# Inheritance of sections

Every row shows the section in force at it. The section in force is settled by the rows alone: it is
the one that the last row with a section names, and the name `@default` ends it. How the rows were
found, and by how many walks over values, plays no part.
-/

set_option autoImplicit false

namespace ConfigReference.Row

def shownInForce (r : Row) : InForce := { name := r.autoSection, text := r.autoSectionText }

/-- The section in force behind some rows: that of the last row that names one. -/
def inForceBehind (rows : List Row) : InForce :=
  match rows.reverse.find? fun r => !r.sectionName.isEmpty with
  | none => {}
  | some r =>
    if r.sectionName = resetSection then {} else { name := r.sectionName, text := r.sectionText }

/-- One walk over a value: its key, the place of the key, and whether values without parts get
rows of their own. -/
structure Walk where
  key : String := ""
  head : Option Yaml.Place := none
  leaves : Bool := true
  value : Yaml.Node

/-- The rows of walks one after the other, and the section in force after them. -/
def flattenWalks (ds : Descriptions) (inForce : InForce) : List Walk → List Row × InForce
  | [] => ([], inForce)
  | w :: rest =>
    let first := flatten ds inForce w.key w.head w.leaves w.value
    let others := flattenWalks ds first.2 rest
    (first.1 ++ others.1, others.2)

/-- Rows found from a section in force to another, each of which shows what is in force at it. -/
inductive Follows : InForce → List Row → InForce → Prop where
  | nil (s : InForce) : Follows s [] s
  | cons {s last : InForce} {r : Row} {rest : List Row}
      (shown : r.shownInForce = s.next r.sectionName r.sectionText)
      (others : Follows r.shownInForce rest last) : Follows s (r :: rest) last

namespace Follows

theorem append {s middle last : InForce} {first others : List Row} (h : Follows s first middle)
    (hOthers : Follows middle others last) : Follows s (first ++ others) last := by
  induction h with
  | nil s => exact hOthers
  | cons shown _ ih => exact cons shown (ih hOthers)

theorem ofValue (s : InForce) (key : String) (head : Option Yaml.Place) (value : Yaml.Node)
    (said : Said) (shown : Shown) (isEmpty : Bool) :
    Follows s [(Row.ofValue s key head value said shown isEmpty).1]
      (Row.ofValue s key head value said shown isEmpty).2 :=
  cons rfl (nil _)

theorem ofEmpty (ds : Descriptions) (s : InForce) (key : String) (head : Option Yaml.Place)
    (leaves : Bool) (value : Yaml.Node) (json : Json) :
    Follows s (Row.ofEmpty ds s key head leaves value json).1
      (Row.ofEmpty ds s key head leaves value json).2 := by
  rw [Row.ofEmpty]
  split
  · exact nil s
  · exact ofValue s key head value _ _ true

theorem ofContainer (ds : Descriptions) (s : InForce) (key : String) (head : Option Yaml.Place)
    (value : Yaml.Node) :
    Follows s (Row.ofContainer ds s key head value).1 (Row.ofContainer ds s key head value).2 := by
  rw [Row.ofContainer]
  split
  · exact ofValue s key head value _ _ false
  · exact nil s

theorem ofScalar (ds : Descriptions) (s : InForce) (key : String) (head : Option Yaml.Place)
    (leaves : Bool) (value : Yaml.Node) (tag : Yaml.ScalarTag) :
    Follows s (Row.ofScalar ds s key head leaves value tag).1
      (Row.ofScalar ds s key head leaves value tag).2 := by
  rw [Row.ofScalar]
  split
  · exact ofValue s key head value _ _ false
  · exact nil s

mutual

theorem flatten (ds : Descriptions) (s : InForce) (key : String) (head : Option Yaml.Place)
    (leaves : Bool) (value : Yaml.Node) :
    Follows s (Row.flatten ds s key head leaves value).1
      (Row.flatten ds s key head leaves value).2 := by
  match value with
  | .aliasTo _ target =>
    rw [Row.flatten]
    exact flatten ds s key head leaves target
  | .scalar p tag text =>
    rw [Row.flatten]
    exact ofScalar ds s key head leaves _ tag
  | .sequence p items =>
    rw [Row.flatten]
    split
    · exact ofEmpty ds s key head leaves _ _
    · exact (ofContainer ds s key head _).append (flattenItems ds _ key _ 0 items)
  | .mapping p entries =>
    rw [Row.flatten]
    split
    · exact ofEmpty ds s key head leaves _ _
    · exact (ofContainer ds s key head _).append (flattenEntries ds _ key _ entries)

theorem flattenItems (ds : Descriptions) (s : InForce) (key : String) (leaves : Bool) (index : Nat)
    (items : List Yaml.Node) :
    Follows s (Row.flattenItems ds s key leaves index items).1
      (Row.flattenItems ds s key leaves index items).2 := by
  match items with
  | [] =>
    rw [Row.flattenItems]
    exact nil s
  | item :: rest =>
    rw [Row.flattenItems]
    exact (flatten ds s _ _ leaves item).append (flattenItems ds _ key leaves (index + 1) rest)

theorem flattenEntries (ds : Descriptions) (s : InForce) (key : String) (leaves : Bool)
    (entries : List (Yaml.Node × Yaml.Node)) :
    Follows s (Row.flattenEntries ds s key leaves entries).1
      (Row.flattenEntries ds s key leaves entries).2 := by
  match entries with
  | [] =>
    rw [Row.flattenEntries]
    exact nil s
  | (k, value) :: rest =>
    rw [Row.flattenEntries]
    exact (flatten ds s _ _ leaves value).append (flattenEntries ds _ key leaves rest)

end

theorem flattenWalks (ds : Descriptions) (s : InForce) (walks : List Walk) :
    Follows s (Row.flattenWalks ds s walks).1 (Row.flattenWalks ds s walks).2 := by
  induction walks generalizing s with
  | nil => exact nil s
  | cons w rest ih => exact (flatten ds s w.key w.head w.leaves w.value).append (ih _)

end Follows

theorem next_eq (s : InForce) (r : Row) :
    s.next r.sectionName r.sectionText =
      if r.sectionName.isEmpty then s
      else if r.sectionName = resetSection then {}
      else { name := r.sectionName, text := r.sectionText } := rfl

theorem inForceBehind_append (rows : List Row) (r : Row) :
    inForceBehind (rows ++ [r]) = (inForceBehind rows).next r.sectionName r.sectionText := by
  rw [next_eq, inForceBehind, List.reverse_append]
  by_cases hName : r.sectionName.isEmpty = true
  · rw [if_pos hName]
    simp [hName, inForceBehind]
  · rw [if_neg hName]
    simp [hName]

theorem Follows.shown_eq {s last : InForce} {rows : List Row} (h : Follows s rows last)
    (passed : List Row) (hStart : s = inForceBehind passed) (before after : List Row) (r : Row)
    (hRows : rows = before ++ r :: after) :
    r.shownInForce = inForceBehind (passed ++ before ++ [r]) := by
  induction h generalizing passed before with
  | nil s => simp at hRows
  | @cons s last q rest shown others ih =>
    have hHere : q.shownInForce = inForceBehind (passed ++ [q]) := by
      rw [shown, hStart, inForceBehind_append]
    cases before with
    | nil =>
      obtain ⟨rfl, -⟩ := List.cons.inj hRows
      simpa using hHere
    | cons p before =>
      obtain ⟨rfl, hRest⟩ := List.cons.inj hRows
      simpa using ih (passed ++ [q]) hHere before hRest

theorem name_inForceBehind_ne_reset (rows : List Row) :
    (inForceBehind rows).name ≠ resetSection := by
  rw [inForceBehind]
  split
  · decide
  · split
    · decide
    · assumption

theorem shownInForce_flattenWalks (ds : Descriptions) (walks : List Walk) {before after : List Row}
    {r : Row} (hRows : (flattenWalks ds {} walks).1 = before ++ r :: after) :
    r.shownInForce = inForceBehind (before ++ [r]) :=
  (Follows.flattenWalks ds {} walks).shown_eq [] rfl before after r hRows

theorem autoSection_ne_reset {ds : Descriptions} {walks : List Walk} {r : Row}
    (hr : r ∈ (flattenWalks ds {} walks).1) : r.autoSection ≠ resetSection := by
  obtain ⟨before, after, hRows⟩ := List.append_of_mem hr
  have hShown := congrArg InForce.name (shownInForce_flattenWalks ds walks hRows)
  intro hReset
  exact name_inForceBehind_ne_reset _ (hShown.symm.trans hReset)

theorem hasNoSection_inherit {r : Row} (hReset : r.autoSection ≠ resetSection) :
    r.inherit.hasNoSection = true ↔ r.autoSection = "" := by
  simp [hasNoSection, inherit, hReset]

theorem mem_arrange_inherit {a : Arrangement} {rows : List Row} {r : Row}
    (hInherit : a.inheritSections = true) (hr : r ∈ rows)
    (hKept : a.describedOnly = true → r.isDescribed = true) : r.inherit ∈ a.arrange rows := by
  rw [Arrangement.arrange, mem_sort, if_pos hInherit]
  apply List.mem_map_of_mem
  split
  · rename_i hOnly
    exact List.mem_filter.mpr ⟨hr, hKept hOnly⟩
  · exact hr

/-- The section shown as in force at a row is that of the last row, up to the row itself, that
names one, over all walks; so it is never the name that ends inheritance. With inheritance, a row
that is listed stands under that section, and among the rows without a section exactly when none
is in force. -/
theorem section_in_force (ds : Descriptions) (walks : List Walk) (a : Arrangement)
    (hInherit : a.inheritSections = true) {before after : List Row} {r : Row}
    (hRows : (flattenWalks ds {} walks).1 = before ++ r :: after) :
    r.shownInForce = inForceBehind (before ++ [r]) ∧
    r.autoSection ≠ resetSection ∧
    ((a.describedOnly = true → r.isDescribed = true) →
      let filed := (a.organize (flattenWalks ds {} walks).1).2
      (r.inherit ∈ filed.unnamed.rows ↔ r.autoSection = "") ∧
      (∀ s ∈ filed.named, r.inherit ∈ s.rows ↔ s.name = r.autoSection) ∧
      (r.autoSection ≠ "" → ∃ s ∈ filed.named, s.name = r.autoSection)) := by
  have hMem : r ∈ (flattenWalks ds {} walks).1 := by
    rw [hRows]
    exact List.mem_append_right _ List.mem_cons_self
  have hReset := autoSection_ne_reset hMem
  refine ⟨shownInForce_flattenWalks ds walks hRows, hReset, ?_⟩
  intro hKept
  have hListed := mem_arrange_inherit hInherit hMem hKept
  have hNone := hasNoSection_inherit hReset
  refine ⟨?_, ?_, ?_⟩
  · rw [Arrangement.mem_unnamed_organize, ← hNone]
    exact and_iff_right hListed
  · intro s hs
    rw [Arrangement.mem_rows_of_mem_named hs]
    constructor
    · rintro ⟨-, -, hName⟩
      exact hName.symm
    · intro hName
      obtain ⟨q, hNamed, hqName⟩ := Arrangement.exists_row_of_mem_named hs
      have hSame : r.inherit.sectionName = q.sectionName := hName.symm.trans hqName.symm
      exact ⟨hListed, by rw [hasNoSection, hSame]; exact hNamed, hName.symm⟩
  · intro hSome
    have hNamed : r.inherit.hasNoSection = false := by
      rw [Bool.eq_false_iff, ne_eq, hNone]
      exact hSome
    exact Arrangement.exists_named_organize hListed hNamed

/-- The section named at the key of one walk is in force at the row of the next. -/
theorem section_in_force_next_walk :
    let ds : Descriptions :=
      KeyedMap.empty.insert "a" { sectionName := "S", sectionText := "first" }
    let walks : List Walk :=
      [{ key := "a", value := .scalar {} .null "" }, { key := "b", value := .scalar {} .null "" }]
    let shown : Row :=
      { typeName := "string", defaultText := "`nil`", autoSection := "S",
        autoSectionText := "first" }
    let before : List Row := [{ shown with key := "a", sectionName := "S", sectionText := "first" }]
    let r : Row := { shown with key := "b" }
    (flattenWalks ds {} walks).1 = before ++ r :: [] ∧
      r.shownInForce = inForceBehind (before ++ [r]) ∧
      ∃ s ∈ (({} : Arrangement).organize (flattenWalks ds {} walks).1).2.named, s.name = "S" := by
  intro ds walks shown before r
  have hRows : (flattenWalks ds {} walks).1 = before ++ r :: [] := by decide +kernel
  obtain ⟨hShown, -, hFiled⟩ := section_in_force ds walks {} rfl hRows
  exact ⟨hRows, hShown, (hFiled (by simp)).2.2 (by decide)⟩

end ConfigReference.Row
