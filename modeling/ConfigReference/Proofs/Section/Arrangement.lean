import ConfigReference.Proofs.Row.Sorting
import ConfigReference.Proofs.Section.Filing
import ConfigReference.Proofs.Text.TotalOrder

/-!
# Arranged rows

The rows of a reference are a stable sort of the rows that it is to list, and its sections hold each
of them once. The rows are filed in sorted order, so the rows of a section stay as they were filed
when the section is sorted again, and its examples, which are not sorted, are in the same order. The
order in which the rows came is lost in sorting, save among rows that tie.
-/

set_option autoImplicit false

namespace ConfigReference

namespace Section

theorem forall_mem_file {P : Section → Prop} {pageBreak : Bool} {r : Row} {all : List Section}
    (hAll : ∀ s ∈ all, P s) (hPush : ∀ s, P s → P (s.push r))
    (hNew : P (({ name := r.sectionName, text := r.sectionText, pageBreak } : Section).push r)) :
    ∀ s ∈ file pageBreak r all, P s := by
  induction all with
  | nil => simpa [file] using hNew
  | cons t rest ih =>
    obtain ⟨hHere, hRest⟩ := List.forall_mem_cons.mp hAll
    rw [file]
    split
    · exact List.forall_mem_cons.mpr ⟨hPush t hHere, hRest⟩
    · exact List.forall_mem_cons.mpr ⟨hHere, ih hRest⟩

theorem flatMap_rows_file (pageBreak : Bool) (r : Row) (all : List Section) :
    ((file pageBreak r all).flatMap (·.rows)).Perm (all.flatMap (·.rows) ++ [r]) := by
  induction all with
  | nil => simp [file, rows_push]
  | cons t rest ih =>
    rw [file]
    split
    · simp only [List.flatMap_cons, rows_push, List.append_assoc]
      exact List.perm_append_comm.append_left t.rows
    · simp only [List.flatMap_cons, List.append_assoc]
      exact ih.append_left t.rows

def ShowsExamples (s : Section) : Prop := s.examples = s.rows.filterMap (·.example?)

/-- The text is that of the first row. There is one. -/
def ShowsFirstText (s : Section) : Prop := s.rows.head?.map (·.sectionText) = some s.text

theorem ShowsExamples.push {s : Section} (h : s.ShowsExamples) (r : Row) :
    (s.push r).ShowsExamples := by
  rw [ShowsExamples] at h ⊢
  rw [rows_push, List.filterMap_append, ← h]
  cases hExample : r.example? <;> simp [Section.push, hExample]

theorem ShowsFirstText.push {s : Section} (h : s.ShowsFirstText) (r : Row) :
    (s.push r).ShowsFirstText := by
  rw [ShowsFirstText] at h ⊢
  rw [rows_push]
  cases hRows : s.rows with
  | nil => simp [hRows] at h
  | cons q rest => simpa [hRows, Section.push] using h

theorem sortRows_of_ascending {order : RowOrder} {s : Section}
    (h : s.rows.Pairwise fun a b => order.le a b = true) : s.sortRows order = s := by
  rw [sortRows, Row.sort_of_ascending h]

end Section

namespace Sections

def allRows (all : Sections) : List Row := all.unnamed.rows ++ all.named.flatMap (·.rows)

/-- What the sections show beside their rows. -/
structure Told (all : Sections) : Prop where
  examples : ∀ s ∈ all.unnamed :: all.named, s.ShowsExamples
  texts : ∀ s ∈ all.named, s.ShowsFirstText

theorem allRows_add (pageBreak : Bool) (all : Sections) (r : Row) :
    (all.add pageBreak r).allRows.Perm (all.allRows ++ [r]) := by
  rw [add, allRows, allRows]
  split
  · simp only [Section.rows_push, List.append_assoc]
    exact List.perm_append_comm.append_left all.unnamed.rows
  · simp only [List.append_assoc]
    exact (Section.flatMap_rows_file pageBreak r all.named).append_left all.unnamed.rows

theorem Told.add {all : Sections} (h : all.Told) (pageBreak : Bool) (r : Row) :
    (all.add pageBreak r).Told := by
  obtain ⟨hUnnamed, hNamed⟩ := List.forall_mem_cons.mp h.examples
  rw [Sections.add]
  split
  · exact ⟨List.forall_mem_cons.mpr ⟨hUnnamed.push r, hNamed⟩, h.texts⟩
  · refine ⟨List.forall_mem_cons.mpr ⟨hUnnamed, ?_⟩, ?_⟩
    · have hNew : ({ name := r.sectionName, text := r.sectionText, pageBreak } :
          Section).ShowsExamples := rfl
      exact Section.forall_mem_file hNamed (fun s hs => hs.push r) (hNew.push r)
    · exact Section.forall_mem_file h.texts (fun s hs => hs.push r) rfl

theorem allRows_foldl (pageBreak : Bool) (all : Sections) (rows : List Row) :
    (rows.foldl (add pageBreak) all).allRows.Perm (all.allRows ++ rows) := by
  induction rows generalizing all with
  | nil => simp
  | cons r rows ih =>
    have hRest := ih (all.add pageBreak r)
    have hHere := (allRows_add pageBreak all r).append_right rows
    rw [List.append_assoc] at hHere
    exact hRest.trans hHere

theorem Told.foldl {all : Sections} (h : all.Told) (pageBreak : Bool) (rows : List Row) :
    (rows.foldl (Sections.add pageBreak) all).Told := by
  induction rows generalizing all with
  | nil => exact h
  | cons r rows ih => exact ih (h.add pageBreak r)

theorem allRows_ofRows (pageBreak : Bool) (rows : List Row) :
    (ofRows pageBreak rows).allRows.Perm rows := by
  simpa [ofRows, allRows] using
    allRows_foldl pageBreak { unnamed := { name := unnamedHeading, pageBreak } } rows

theorem told_ofRows (pageBreak : Bool) (rows : List Row) : (ofRows pageBreak rows).Told := by
  have hStart : Told { unnamed := { name := unnamedHeading, pageBreak } } :=
    ⟨by simp [Section.ShowsExamples], by simp⟩
  exact hStart.foldl pageBreak rows

theorem sortRows_ofRows {order : RowOrder} {rows : List Row} (pageBreak : Bool)
    (h : rows.Pairwise fun a b => order.le a b = true) :
    (ofRows pageBreak rows).sortRows order = ofRows pageBreak rows := by
  have hFiled := filed_ofRows pageBreak rows
  have hUnnamed : (ofRows pageBreak rows).unnamed.sortRows order =
      (ofRows pageBreak rows).unnamed := by
    apply Section.sortRows_of_ascending
    rw [hFiled.unnamed_rows]
    exact h.filter _
  have hNamed : (ofRows pageBreak rows).named.map (·.sortRows order) =
      (ofRows pageBreak rows).named := by
    refine (List.map_congr_left fun s hs => ?_).trans (List.map_id _)
    apply Section.sortRows_of_ascending
    rw [hFiled.named_rows s hs]
    exact h.filter _
  rw [sortRows, hUnnamed, hNamed]

theorem named_sorted (all : Sections) :
    all.sorted.named.Pairwise fun s t => (Text.naturalCompare s.name t.name).isLE = true := by
  refine List.pairwise_mergeSort (fun _ _ _ => Std.TransCmp.isLE_trans) (fun s t => ?_) _
  have hSwap : Text.naturalCompare t.name s.name = (Text.naturalCompare s.name t.name).swap :=
    Std.OrientedCmp.eq_swap
  rw [hSwap]
  cases Text.naturalCompare s.name t.name <;> rfl

theorem sorted_named_perm (all : Sections) : all.sorted.named.Perm all.named :=
  List.mergeSort_perm all.named _

theorem names_sorted_congr {all other : Sections}
    (h : (all.named.map (·.name)).Perm (other.named.map (·.name))) :
    all.sorted.named.map (·.name) = other.sorted.named.map (·.name) := by
  have hAscending (some : Sections) : (some.sorted.named.map (·.name)).Pairwise fun a b =>
      (Text.naturalCompare a b).isLE = true :=
    List.pairwise_map.mpr (named_sorted some)
  have hPerm (some : Sections) :
      (some.sorted.named.map (·.name)).Perm (some.named.map (·.name)) :=
    (sorted_named_perm some).map _
  refine List.Perm.eq_of_pairwise ?_ (hAscending all) (hAscending other)
    ((hPerm all).trans (h.trans (hPerm other).symm))
  intro a b _ _ hab hba
  have hEq : Text.naturalCompare a b = .eq := Std.OrientedCmp.isLE_antisymm hab hba
  exact Std.LawfulEqCmp.eq_of_compare hEq

/-- Natural order is a total order of texts, and names have one order under it. -/
theorem natural_order_is_total :
    (∀ a b, Text.naturalCompare b a = (Text.naturalCompare a b).swap) ∧
    (∀ a b c, (Text.naturalCompare a b).isLE = true → (Text.naturalCompare b c).isLE = true →
      (Text.naturalCompare a c).isLE = true) ∧
    (∀ a b c, Text.naturalCompare a b = .lt → Text.naturalCompare b c = .lt →
      Text.naturalCompare a c = .lt) ∧
    (∀ a b, Text.naturalCompare a b = .eq ↔ a = b) ∧
    ∀ all other : Sections, (all.named.map (·.name)).Perm (other.named.map (·.name)) →
      all.sorted.named.map (·.name) = other.sorted.named.map (·.name) := by
  refine ⟨?_, ?_, ?_, ?_, ?_⟩
  · intro a b
    exact Std.OrientedCmp.eq_swap
  · intro a b c hab hbc
    exact Std.TransCmp.isLE_trans hab hbc
  · intro a b c hab hbc
    exact Std.TransCmp.lt_trans hab hbc
  · intro a b
    exact Std.LawfulEqCmp.compare_eq_iff_eq
  · intro all other hNames
    exact names_sorted_congr hNames

end Sections

namespace Arrangement

/-- The rows to be listed, each under the section that it is to belong to. -/
def listed (a : Arrangement) (rows : List Row) : List Row :=
  (rows.filter fun r => r.isDescribed || !a.describedOnly).map fun r =>
    if a.inheritSections then r.inherit else r

theorem arrange_eq (a : Arrangement) (rows : List Row) :
    a.arrange rows = Row.sort a.order (a.listed rows) := by
  have hAll : rows.filter (fun _ => true) = rows := List.filter_eq_self.mpr fun _ _ => rfl
  obtain ⟨order, describedOnly, inheritSections, pageBreaks⟩ := a
  cases describedOnly <;> cases inheritSections <;> simp [arrange, listed, hAll]

theorem ties_inherit (order : RowOrder) (r q : Row) :
    order.ties r.inherit q.inherit = order.ties r q := by
  cases order <;> rfl

theorem listed_perm (a : Arrangement) {rows others : List Row} (h : rows.Perm others) :
    (a.listed rows).Perm (a.listed others) := (h.filter _).map _

theorem listed_apart {a : Arrangement} {rows : List Row}
    (h : rows.Pairwise fun q r => a.order.ties q r = false) :
    (a.listed rows).Pairwise fun q r => a.order.ties q r = false := by
  rw [listed, List.pairwise_map]
  refine (h.filter _).imp fun {q r} hApart => ?_
  split
  · rw [ties_inherit, hApart]
  · exact hApart

theorem organize_eq (a : Arrangement) (rows : List Row) :
    a.organize rows = (a.arrange rows, (Sections.ofRows a.pageBreaks (a.arrange rows)).sorted) := by
  have hAscending : (a.arrange rows).Pairwise fun q r => a.order.le q r = true := by
    rw [arrange_eq]
    exact Row.ascending_sort a.order (a.listed rows)
  rw [organize, Sections.sortRows_ofRows a.pageBreaks hAscending]

/-- The order in which rows come plays no part unless two of them tie: a reference lists the same
rows, and has the same sections with the same texts, rows, examples and page breaks. -/
theorem organize_perm (a : Arrangement) {rows others : List Row} (hPerm : rows.Perm others)
    (hApart : rows.Pairwise fun q r => a.order.ties q r = false) :
    a.organize rows = a.organize others := by
  have hArranged : a.arrange rows = a.arrange others := by
    rw [arrange_eq, arrange_eq]
    exact Row.sort_congr (a.listed_perm hPerm) (listed_apart hApart)
  rw [organize_eq, organize_eq, hArranged]

/-- The text of a section is that of its first row by place, whichever row comes first. -/
theorem organize_perm_of_section :
    let a : Arrangement := { order := .byPlace, inheritSections := false }
    let first : Row := { key := "b", sectionName := "S", sectionText := "one", line := 1 }
    let second : Row := { key := "a", sectionName := "S", sectionText := "two", line := 2 }
    a.organize [second, first] = a.organize [first, second] ∧
      (a.organize [second, first]).2.named.map (·.text) = ["one"] := by
  intro a first second
  have hSame : a.organize [second, first] = a.organize [first, second] :=
    organize_perm a (.swap first second []) (by decide)
  have hArranged : a.arrange [first, second] = [first, second] := by
    rw [arrange_eq]
    exact Row.sort_of_ascending (by decide)
  have hText : (a.organize [first, second]).2.named.map (·.text) = ["one"] := by
    rw [organize_eq, hArranged]
    exact congrArg (List.map Section.text) (List.mergeSort_singleton _)
  exact ⟨hSame, by rw [hSame, hText]⟩

end Arrangement

end ConfigReference
