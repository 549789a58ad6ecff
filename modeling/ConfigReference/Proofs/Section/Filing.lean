import ConfigReference.Section

/-!
# Filing rows under sections

Rows are filed one after the other. What is kept on the way: the rows that name no section are
together, every named section holds the rows of its name in the order in which they came and at
least one, no two sections share a name, and no row is without a section.
-/

set_option autoImplicit false

namespace ConfigReference

namespace Section

theorem name_push (s : Section) (r : Row) : (s.push r).name = s.name := rfl

theorem rows_push (s : Section) (r : Row) : (s.push r).rows = s.rows ++ [r] := rfl

theorem mem_file {pageBreak : Bool} {r : Row} {s : Section} {all : List Section}
    (hNames : (all.map (·.name)).Nodup) (h : s ∈ file pageBreak r all) :
    (s ∈ all ∧ s.name ≠ r.sectionName) ∨
    (∃ t ∈ all, t.name = r.sectionName ∧ s = t.push r) ∨
    ((∀ t ∈ all, t.name ≠ r.sectionName) ∧
      s = ({ name := r.sectionName, text := r.sectionText, pageBreak } : Section).push r) := by
  induction all with
  | nil => exact Or.inr (Or.inr ⟨by simp, by simpa [file] using h⟩)
  | cons t rest ih =>
    obtain ⟨hFresh, hRest⟩ := List.nodup_cons.mp hNames
    rw [file] at h
    split at h
    · rename_i hName
      rcases List.mem_cons.mp h with rfl | hs
      · exact Or.inr (Or.inl ⟨t, List.mem_cons_self, hName, rfl⟩)
      · refine Or.inl ⟨List.mem_cons_of_mem _ hs, fun hsName => hFresh ?_⟩
        exact List.mem_map.mpr ⟨s, hs, hsName.trans hName.symm⟩
    · rename_i hName
      rcases List.mem_cons.mp h with rfl | hs
      · exact Or.inl ⟨List.mem_cons_self, hName⟩
      · rcases ih hRest hs with ⟨hMem, hNe⟩ | ⟨u, hu, huName, rfl⟩ | ⟨hNone, rfl⟩
        · exact Or.inl ⟨List.mem_cons_of_mem _ hMem, hNe⟩
        · exact Or.inr (Or.inl ⟨u, List.mem_cons_of_mem _ hu, huName, rfl⟩)
        · refine Or.inr (Or.inr ⟨?_, rfl⟩)
          intro u hu
          rcases List.mem_cons.mp hu with rfl | hu
          · exact hName
          · exact hNone u hu

theorem names_file (pageBreak : Bool) (r : Row) (all : List Section) :
    (file pageBreak r all).map (·.name) =
      if r.sectionName ∈ all.map (·.name) then all.map (·.name)
      else all.map (·.name) ++ [r.sectionName] := by
  induction all with
  | nil => simp [file, name_push]
  | cons t rest ih =>
    rw [file]
    by_cases hName : t.name = r.sectionName
    · simp [hName, name_push]
    · rw [if_neg hName, List.map_cons, ih]
      have hNe : ¬r.sectionName = t.name := fun h => hName h.symm
      by_cases hMem : r.sectionName ∈ rest.map (·.name)
      · rw [if_pos hMem, List.map_cons, if_pos (List.mem_cons_of_mem _ hMem)]
      · rw [if_neg hMem, List.map_cons, if_neg (by simpa [hNe] using hMem)]
        rfl

end Section

namespace Sections

/-- The rows of a list that belong to the section of a name. -/
def rowsNamed (rows : List Row) (name : String) : List Row :=
  rows.filter fun r => !r.hasNoSection && r.sectionName == name

/-- What holds of sections once `rows` are filed. -/
structure Filed (rows : List Row) (all : Sections) : Prop where
  unnamed_rows : all.unnamed.rows = rows.filter (·.hasNoSection)
  named_rows : ∀ s ∈ all.named, s.rows = rowsNamed rows s.name
  names_nodup : (all.named.map (·.name)).Nodup
  has_section : ∀ r ∈ rows, r.hasNoSection = false → ∃ s ∈ all.named, s.name = r.sectionName
  has_row : ∀ s ∈ all.named, ∃ r ∈ rows, r.hasNoSection = false ∧ r.sectionName = s.name

theorem rowsNamed_append (rows : List Row) (r : Row) (name : String) :
    rowsNamed (rows ++ [r]) name =
      rowsNamed rows name ++ if !r.hasNoSection && r.sectionName == name then [r] else [] := by
  rw [rowsNamed, List.filter_append]
  exact congrArg _ List.filter_cons

theorem Filed.add_unnamed {rows : List Row} {all : Sections} (h : Filed rows all) {r : Row}
    (hr : r.hasNoSection = true) : Filed (rows ++ [r]) { all with unnamed := all.unnamed.push r }
    where
  unnamed_rows := by
    rw [Section.rows_push, h.unnamed_rows, List.filter_append]
    simp [hr]
  named_rows s hs := by
    rw [h.named_rows s hs, rowsNamed_append]
    simp [hr]
  names_nodup := h.names_nodup
  has_section q hq hNamed := by
    rcases List.mem_append.mp hq with hq | hq
    · exact h.has_section q hq hNamed
    · rw [List.mem_singleton.mp hq, hr] at hNamed
      cases hNamed
  has_row s hs := by
    obtain ⟨q, hq, hNamed⟩ := h.has_row s hs
    exact ⟨q, List.mem_append_left _ hq, hNamed⟩

theorem Filed.rowsNamed_eq_nil {rows : List Row} {all : Sections} (h : Filed rows all)
    {name : String} (hNew : ∀ s ∈ all.named, s.name ≠ name) : rowsNamed rows name = [] := by
  apply List.filter_eq_nil_iff.mpr
  intro q hq hKept
  obtain ⟨hNamed, hName⟩ := Bool.and_eq_true_iff.mp hKept
  obtain ⟨s, hs, hsName⟩ := h.has_section q hq (by simpa using hNamed)
  exact hNew s hs (hsName.trans (by simpa using hName))

theorem Filed.add_named {rows : List Row} {all : Sections} (h : Filed rows all) {r : Row}
    (pageBreak : Bool) (hr : r.hasNoSection = false) :
    Filed (rows ++ [r]) { all with named := Section.file pageBreak r all.named } where
  unnamed_rows := by
    rw [h.unnamed_rows, List.filter_append]
    simp [hr]
  named_rows s hs := by
    rw [rowsNamed_append]
    rcases Section.mem_file h.names_nodup hs with ⟨hMem, hNe⟩ | ⟨t, ht, hName, rfl⟩ | ⟨hNew, rfl⟩
    · have hOther : ¬r.sectionName = s.name := fun hEq => hNe hEq.symm
      rw [h.named_rows s hMem]
      simp [hOther]
    · rw [Section.rows_push, Section.name_push, h.named_rows t ht, hName]
      simp [hr]
    · rw [Section.rows_push, Section.name_push, h.rowsNamed_eq_nil hNew]
      simp [hr]
  names_nodup := by
    rw [Section.names_file]
    split
    · exact h.names_nodup
    · rename_i hNew
      exact List.nodup_append.mpr ⟨h.names_nodup, by simp, by
        intro a ha b hb hEq
        rw [List.mem_singleton.mp hb] at hEq
        exact hNew (hEq ▸ ha)⟩
  has_section q hq hNamed := by
    have hName : q.sectionName ∈ (Section.file pageBreak r all.named).map (·.name) := by
      rw [Section.names_file]
      rcases List.mem_append.mp hq with hq | hq
      · obtain ⟨s, hs, hsName⟩ := h.has_section q hq hNamed
        have hOld : q.sectionName ∈ all.named.map (·.name) := hsName ▸ List.mem_map_of_mem hs
        split
        · exact hOld
        · exact List.mem_append_left _ hOld
      · rw [List.mem_singleton.mp hq]
        split
        · assumption
        · exact List.mem_append_right _ List.mem_cons_self
    obtain ⟨s, hs, hsName⟩ := List.mem_map.mp hName
    exact ⟨s, hs, hsName⟩
  has_row s hs := by
    have hLast : r ∈ rows ++ [r] := List.mem_append_right _ List.mem_cons_self
    rcases Section.mem_file h.names_nodup hs with ⟨hMem, -⟩ | ⟨t, -, hName, rfl⟩ | ⟨-, rfl⟩
    · obtain ⟨q, hq, hNamed⟩ := h.has_row s hMem
      exact ⟨q, List.mem_append_left _ hq, hNamed⟩
    · exact ⟨r, hLast, hr, hName.symm⟩
    · exact ⟨r, hLast, hr, rfl⟩

theorem Filed.add {rows : List Row} {all : Sections} (h : Filed rows all) (pageBreak : Bool)
    (r : Row) : Filed (rows ++ [r]) (all.add pageBreak r) := by
  rw [Sections.add]
  split
  · rename_i hr
    exact h.add_unnamed hr
  · rename_i hr
    exact h.add_named pageBreak (by simpa using hr)

theorem Filed.foldl {rows : List Row} {all : Sections} (h : Filed rows all) (pageBreak : Bool)
    (more : List Row) : Filed (rows ++ more) (more.foldl (Sections.add pageBreak) all) := by
  induction more generalizing rows all with
  | nil => simpa using h
  | cons r more ih => simpa using ih (h.add pageBreak r)

theorem filed_ofRows (pageBreak : Bool) (rows : List Row) : Filed rows (ofRows pageBreak rows) := by
  have hStart : Filed [] { unnamed := { name := unnamedHeading, pageBreak } } :=
    ⟨rfl, by simp, List.nodup_nil, by simp, by simp⟩
  simpa [ofRows] using hStart.foldl pageBreak rows

end Sections

namespace Row

theorem mem_sort {order : RowOrder} {r : Row} {rows : List Row} :
    r ∈ sort order rows ↔ r ∈ rows := List.mem_mergeSort

end Row

namespace Arrangement

theorem mem_unnamed_organize {a : Arrangement} {r : Row} {rows : List Row} :
    r ∈ (a.organize rows).2.unnamed.rows ↔ r ∈ a.arrange rows ∧ r.hasNoSection = true := by
  have hRows := (Sections.filed_ofRows a.pageBreaks (a.arrange rows)).unnamed_rows
  change r ∈ Row.sort a.order (Sections.ofRows a.pageBreaks (a.arrange rows)).unnamed.rows ↔ _
  rw [Row.mem_sort, hRows, List.mem_filter]

theorem mem_named_organize {a : Arrangement} {s : Section} {rows : List Row} :
    s ∈ (a.organize rows).2.named ↔
      ∃ t ∈ (Sections.ofRows a.pageBreaks (a.arrange rows)).named, s = t.sortRows a.order := by
  change s ∈ List.mergeSort (List.map _ _) _ ↔ _
  rw [List.mem_mergeSort, List.mem_map]
  constructor
  · rintro ⟨t, ht, rfl⟩
    exact ⟨t, ht, rfl⟩
  · rintro ⟨t, ht, rfl⟩
    exact ⟨t, ht, rfl⟩

theorem mem_rows_of_mem_named {a : Arrangement} {s : Section} {r : Row} {rows : List Row}
    (hs : s ∈ (a.organize rows).2.named) :
    r ∈ s.rows ↔ r ∈ a.arrange rows ∧ r.hasNoSection = false ∧ r.sectionName = s.name := by
  obtain ⟨t, ht, rfl⟩ := mem_named_organize.mp hs
  have hRows := (Sections.filed_ofRows a.pageBreaks (a.arrange rows)).named_rows t ht
  change r ∈ Row.sort a.order t.rows ↔ _
  rw [Row.mem_sort, hRows, Sections.rowsNamed, List.mem_filter]
  simp [Section.sortRows]

theorem exists_row_of_mem_named {a : Arrangement} {s : Section} {rows : List Row}
    (hs : s ∈ (a.organize rows).2.named) :
    ∃ r : Row, r.hasNoSection = false ∧ r.sectionName = s.name := by
  obtain ⟨t, ht, rfl⟩ := mem_named_organize.mp hs
  obtain ⟨r, -, hNamed, hName⟩ :=
    (Sections.filed_ofRows a.pageBreaks (a.arrange rows)).has_row t ht
  exact ⟨r, hNamed, hName⟩

theorem exists_named_organize {a : Arrangement} {r : Row} {rows : List Row}
    (hr : r ∈ a.arrange rows) (hNamed : r.hasNoSection = false) :
    ∃ s ∈ (a.organize rows).2.named, s.name = r.sectionName := by
  obtain ⟨t, ht, hName⟩ :=
    (Sections.filed_ofRows a.pageBreaks (a.arrange rows)).has_section r hr hNamed
  exact ⟨t.sortRows a.order, mem_named_organize.mpr ⟨t, ht, rfl⟩, hName⟩

end Arrangement

end ConfigReference
