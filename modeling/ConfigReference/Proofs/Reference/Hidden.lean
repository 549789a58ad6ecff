import ConfigReference.Proofs.Reference.Pages
import Mathlib.Data.List.Forall2

/-!
# Hidden rows

A page has no line for a hidden row, so most of its texts can be other ones without a difference:
rows are put behind a veil that only leaves what arranging them looks at, and the page is the same.
The example of a row is collected before anything looks at what is hidden, and the page has it.
-/

set_option autoImplicit false

namespace ConfigReference

open Template

/-! ## Rows behind a veil -/

namespace Row

/-- The texts that a hidden row is to keep to itself. -/
def texts (r : Row) : List String :=
  [r.typeName, r.defaultText, r.autoDefault, r.text, r.autoText, r.exampleName, r.exampleText,
    r.exampleCode]

def untold (r : Row) : Row :=
  { r with
    typeName := "", defaultText := "", autoDefault := "", text := "", autoText := ""
    exampleName := "", exampleText := "", exampleCode := "" }

/-- The same row with other texts if it is hidden, empty ones staying empty and others not. -/
structure Retells (r q : Row) : Prop where
  untold : q.untold = r.untold
  blanks : q.texts.map (·.isEmpty) = r.texts.map (·.isEmpty)
  shown : r.hidden = false → q = r

/-- What is left of a hidden row: its example, and whether anything describes it. -/
def veiled (r : Row) : Row :=
  if r.hidden then
    { r with
      typeName := "", defaultText := "", autoDefault := ""
      text := if r.isDescribed then "described" else "", autoText := ""
      exampleName := if r.exampleCode.isEmpty then "" else r.exampleName
      exampleText := if r.exampleCode.isEmpty then "" else r.exampleText }
  else r

theorem veiled_of_shown {r : Row} (h : r.hidden = false) : r.veiled = r := by
  simp [veiled, h]

theorem veiled_of_hidden {r : Row} (h : r.hidden = true) :
    r.veiled =
      { r.untold with
        text := if r.isDescribed then "described" else ""
        exampleName := if r.exampleCode.isEmpty then "" else r.exampleName
        exampleText := if r.exampleCode.isEmpty then "" else r.exampleText
        exampleCode := r.exampleCode } := by
  rw [veiled, if_pos h]
  rfl

theorem hidden_veiled (r : Row) : r.veiled.hidden = r.hidden := by
  rw [veiled]
  split <;> rfl

theorem hasNoSection_veiled (r : Row) : r.veiled.hasNoSection = r.hasNoSection := by
  rw [veiled]
  split <;> rfl

theorem sectionName_veiled (r : Row) : r.veiled.sectionName = r.sectionName := by
  rw [veiled]
  split <;> rfl

theorem sectionText_veiled (r : Row) : r.veiled.sectionText = r.sectionText := by
  rw [veiled]
  split <;> rfl

theorem inherit_veiled (r : Row) : r.veiled.inherit = r.inherit.veiled := by
  rw [veiled, veiled]
  split <;> rename_i hHidden
  · rw [if_pos (show r.inherit.hidden = true from hHidden)]
    rfl
  · rw [if_neg (show ¬r.inherit.hidden = true from hHidden)]

theorem isDescribed_veiled (r : Row) : r.veiled.isDescribed = r.isDescribed := by
  rw [veiled]
  split
  · cases hDescribed : r.isDescribed <;> simp [isDescribed]
  · rfl

theorem example?_veiled (r : Row) : r.veiled.example? = r.example? := by
  rw [veiled]
  split
  · cases hCode : r.exampleCode.isEmpty <;> simp [example?, hCode]
  · rfl

theorem le_veiled (order : RowOrder) (r q : Row) : order.le r.veiled q.veiled = order.le r q := by
  have hPlace (r : Row) : r.veiled.key = r.key ∧ r.veiled.line = r.line ∧
      r.veiled.column = r.column := by
    rw [veiled]
    split <;> exact ⟨rfl, rfl, rfl⟩
  obtain ⟨hKey, hLine, hColumn⟩ := hPlace r
  obtain ⟨hKey', hLine', hColumn'⟩ := hPlace q
  cases order <;> simp only [RowOrder.le, hKey, hLine, hColumn, hKey', hLine', hColumn']

theorem exampleFields_eq {r q : Row} (hExample : q.example? = r.example?)
    (hCode : q.exampleCode.isEmpty = r.exampleCode.isEmpty)
    (hName : q.exampleName.isEmpty = r.exampleName.isEmpty)
    (hSome : r.exampleCode.isEmpty = false) :
    q.exampleName = r.exampleName ∧ q.exampleText = r.exampleText ∧
      q.exampleCode = r.exampleCode := by
  simp only [example?, hCode, hSome, Bool.false_eq_true, if_false, Option.some.injEq,
    Example.mk.injEq, orElse, hName] at hExample
  obtain ⟨hNames, hText, hCodes⟩ := hExample
  refine ⟨?_, hText, hCodes⟩
  cases hEmpty : r.exampleName.isEmpty with
  | true =>
    rw [hEmpty] at hName
    rw [String.isEmpty_iff.mp hName, String.isEmpty_iff.mp hEmpty]
  | false => simpa [hEmpty] using hNames

theorem Retells.isDescribed_eq {r q : Row} (h : r.Retells q) : q.isDescribed = r.isDescribed := by
  have hBlanks := h.blanks
  simp only [texts, List.map_cons, List.map_nil, List.cons.injEq, and_true] at hBlanks
  obtain ⟨-, -, -, hText, hAutoText, -⟩ := hBlanks
  rw [isDescribed, isDescribed, hText, hAutoText]

theorem Retells.veiled_eq {r q : Row} (h : r.Retells q) (hExample : q.example? = r.example?) :
    q.veiled = r.veiled := by
  cases hHidden : r.hidden with
  | false => rw [h.shown hHidden]
  | true =>
    have hHidden' : q.hidden = true := (congrArg Row.hidden h.untold).trans hHidden
    have hBlanks := h.blanks
    simp only [texts, List.map_cons, List.map_nil, List.cons.injEq, and_true] at hBlanks
    obtain ⟨-, -, -, -, -, hName, -, hCode⟩ := hBlanks
    have hFields : q.exampleCode = r.exampleCode ∧
        (if q.exampleCode.isEmpty then "" else q.exampleName) =
          (if r.exampleCode.isEmpty then "" else r.exampleName) ∧
        (if q.exampleCode.isEmpty then "" else q.exampleText) =
          if r.exampleCode.isEmpty then "" else r.exampleText := by
      cases hEmpty : r.exampleCode.isEmpty with
      | true =>
        rw [hEmpty] at hCode
        rw [hCode, String.isEmpty_iff.mp hCode, String.isEmpty_iff.mp hEmpty]
        exact ⟨rfl, rfl, rfl⟩
      | false =>
        obtain ⟨hNames, hTexts, hCodes⟩ := exampleFields_eq hExample hCode hName hEmpty
        rw [hCodes, hNames, hTexts, hEmpty]
        exact ⟨rfl, rfl, rfl⟩
    obtain ⟨hCodes, hNames, hTexts⟩ := hFields
    rw [veiled_of_hidden hHidden, veiled_of_hidden hHidden', h.untold, h.isDescribed_eq, hNames,
      hTexts, hCodes]

theorem sort_map_veiled (order : RowOrder) (rows : List Row) :
    sort order (rows.map veiled) = (sort order rows).map veiled :=
  (List.map_mergeSort fun r _ q _ => (le_veiled order r q).symm).symm

end Row

/-! ## Arranging them -/

namespace Section

def veiled (s : Section) : Section := { s with rows := s.rows.map Row.veiled }

theorem push_veiled (s : Section) (r : Row) : s.veiled.push r.veiled = (s.push r).veiled := by
  simp [veiled, push, Row.example?_veiled]

theorem file_veiled (pageBreak : Bool) (r : Row) (all : List Section) :
    file pageBreak r.veiled (all.map veiled) = (file pageBreak r all).map veiled := by
  induction all with
  | nil =>
    rw [List.map_nil, file, file, Row.sectionName_veiled, Row.sectionText_veiled]
    exact congrArg ([·])
      (push_veiled { name := r.sectionName, text := r.sectionText, pageBreak } r)
  | cons s rest ih =>
    rw [List.map_cons, file, file, Row.sectionName_veiled]
    change (if s.name = r.sectionName then _ else _) = _
    split
    · rw [push_veiled, List.map_cons]
    · rw [ih, List.map_cons]

end Section

namespace Sections

def veiled (all : Sections) : Sections where
  unnamed := all.unnamed.veiled
  named := all.named.map Section.veiled

theorem add_veiled (pageBreak : Bool) (all : Sections) (r : Row) :
    all.veiled.add pageBreak r.veiled = (all.add pageBreak r).veiled := by
  rw [add, add, Row.hasNoSection_veiled]
  split
  · exact congrArg (Sections.mk · _) (Section.push_veiled all.unnamed r)
  · exact congrArg (Sections.mk _) (Section.file_veiled pageBreak r all.named)

theorem ofRows_map_veiled (pageBreak : Bool) (rows : List Row) :
    ofRows pageBreak (rows.map Row.veiled) = (ofRows pageBreak rows).veiled := by
  suffices ∀ all : Sections, (rows.map Row.veiled).foldl (add pageBreak) all.veiled =
      (rows.foldl (add pageBreak) all).veiled from
    this { unnamed := { name := unnamedHeading, pageBreak } }
  induction rows with
  | nil => exact fun _ => rfl
  | cons r rows ih =>
    intro all
    rw [List.map_cons, List.foldl_cons, List.foldl_cons, add_veiled]
    exact ih (all.add pageBreak r)

theorem sorted_veiled (all : Sections) : all.veiled.sorted = all.sorted.veiled :=
  congrArg (Sections.mk all.unnamed.veiled)
    (List.map_mergeSort (f := Section.veiled) fun _ _ _ _ => rfl).symm

end Sections

namespace Arrangement

theorem organize_map_veiled (a : Arrangement) (rows : List Row) :
    a.organize (rows.map Row.veiled) =
      ((a.organize rows).1.map Row.veiled, (a.organize rows).2.veiled) := by
  have hListed : a.listed (rows.map Row.veiled) = (a.listed rows).map Row.veiled := by
    rw [listed, listed, List.filter_map, List.map_map, List.map_map]
    congr 1
    · funext r
      simp only [Function.comp]
      split
      · exact r.inherit_veiled
      · rfl
    · simp only [Function.comp_def, Row.isDescribed_veiled]
  have hRows : a.arrange (rows.map Row.veiled) = (a.arrange rows).map Row.veiled := by
    rw [arrange_eq, arrange_eq, hListed, Row.sort_map_veiled]
  rw [organize_eq, organize_eq, hRows, Sections.ofRows_map_veiled, Sections.sorted_veiled]

/-- A row is not left out for want of a description. -/
def keeps (a : Arrangement) (r : Row) : Bool := r.isDescribed || !a.describedOnly

theorem organize_filter_keeps (a : Arrangement) (rows : List Row) :
    a.organize (rows.filter a.keeps) = a.organize rows := by
  have hListed : a.listed (rows.filter a.keeps) = a.listed rows := by
    rw [listed, listed]
    congr 1
    exact (List.filter_filter ..).trans (congrArg (List.filter · rows) (by simp [keeps]))
  rw [organize_eq, organize_eq, arrange_eq, arrange_eq, hListed]

theorem map_veiled_eq_of_retells {a : Arrangement} {rows others : List Row}
    (h : List.Forall₂ (fun r q => r.Retells q ∧ (a.keeps r = true → q.example? = r.example?)) rows
      others) :
    (others.filter a.keeps).map Row.veiled = (rows.filter a.keeps).map Row.veiled := by
  induction h with
  | nil => rfl
  | @cons r q _ _ hHere _ ih =>
    obtain ⟨hRetells, hExample⟩ := hHere
    have hKeeps : a.keeps q = a.keeps r := by rw [keeps, keeps, hRetells.isDescribed_eq]
    rw [List.filter_cons, List.filter_cons, hKeeps]
    split
    · rename_i hKept
      rw [List.map_cons, List.map_cons, hRetells.veiled_eq (hExample hKept), ih]
    · exact ih

end Arrangement

/-! ## The page -/

theorem flatMap_stretches_map_veiled (rows : List Row) :
    (rows.map Row.veiled).flatMap Row.stretches = rows.flatMap Row.stretches := by
  rw [List.flatMap_map]
  congr 1
  funext r
  cases hHidden : r.hidden with
  | false => rw [Row.veiled_of_shown hHidden]
  | true => simp [Row.stretches, Row.hidden_veiled, hHidden]

theorem tableStretches_map_veiled (rows : List Row) :
    tableStretches (rows.map Row.veiled) = tableStretches rows := by
  rw [tableStretches, tableStretches, flatMap_stretches_map_veiled]

namespace Section

theorem stretches_veiled (s : Section) : s.veiled.stretches = s.stretches := by
  change _ ++ tableStretches (s.rows.map Row.veiled) ++ _ = _
  rw [tableStretches_map_veiled]
  rfl

theorem otherStretches_veiled (s : Section) : s.veiled.otherStretches = s.otherStretches := by
  change (if !(s.rows.map Row.veiled).isEmpty then
    _ ++ tableStretches (s.rows.map Row.veiled) else _) = _
  rw [List.isEmpty_map, tableStretches_map_veiled]
  rfl

theorem otherExamplesText_veiled (s : Section) :
    s.veiled.otherExamplesText = s.otherExamplesText := by
  rw [otherExamplesText, otherExamplesText]
  simp only [veiled, List.isEmpty_map]

end Section

namespace Reference

def veiled (r : Reference) : Reference :=
  { r with rows := r.rows.map Row.veiled, sections := r.sections.veiled }

theorem stretches_veiled (r : Reference) : r.veiled.stretches = r.stretches := by
  have hNamed : r.veiled.sections.named = r.sections.named.map Section.veiled := rfl
  have hOthers : r.veiled.sections.unnamed.otherStretches =
      r.sections.unnamed.otherStretches := r.sections.unnamed.otherStretches_veiled
  have hRows : tableStretches r.veiled.rows = tableStretches r.rows :=
    tableStretches_map_veiled r.rows
  rw [stretches, stretches, hNamed, hOthers, hRows, List.isEmpty_map, List.flatMap_map]
  simp only [Section.stretches_veiled]

theorem page_veiled (r : Reference) (header : String) : r.veiled.page header = r.page header := by
  have hContents : r.veiled.sections.contentsText = r.sections.contentsText := by
    rw [Sections.contentsText, Sections.contentsText]
    simp only [veiled, Sections.veiled, Section.veiled, Section.ruleText, List.map_map,
      List.isEmpty_map, Function.comp_def]
    rfl
  have hExamples : r.veiled.sections.unnamed.otherExamplesText =
      r.sections.unnamed.otherExamplesText := r.sections.unnamed.otherExamplesText_veiled
  have hValues : r.veiled.valuesText = r.valuesText := by
    rw [valuesText, valuesText, stretches_veiled]
    simp only [veiled, Sections.veiled, Section.veiled, List.isEmpty_map]
  rw [page, page, hContents, hExamples, hValues]
  rfl

/-! ## Documents -/

def documentOf (w : Workspace) (options : RenderOptions) (version : String) (info : Documentation)
    (rows : List Row) : Except Failure String := do
  let library ← (library BuiltIn.defaultText).mapError .template
  let text ← fill w (filesAround w info.configPath) library
    (ofRows options version info rows).toJson
  return Markdown.format text

theorem documentOf_eq (w : Workspace) (options : RenderOptions) (version : String)
    (info : Documentation) (rows : List Row) :
    documentOf w options version info rows =
      .ok (Markdown.format ((ofRows options version info rows).page
        (includedText w options.headerFile))) := by
  have hLibrary : (library BuiltIn.defaultText).mapError Failure.template =
      .ok ((templateName, BuiltIn.whole) :: BuiltIn.library) := by
    rw [library_defaultText]
    rfl
  rw [documentOf]
  -- The reading of the text is put out of sight, for it is long.
  generalize (library BuiltIn.defaultText).mapError Failure.template = found at hLibrary ⊢
  subst hLibrary
  simp only [bind, Except.bind, fill_whole]
  rfl

theorem render_eq_documentOf {w : Workspace} {options : RenderOptions} {info : Documentation}
    {rows : List Row} (h : templateSource w options.templateFiles = BuiltIn.defaultText)
    (hRows : Yaml.Node.rows info.values info.descriptions = .ok rows) (version : String) :
    render w options version info = documentOf w options version info rows := by
  have hReference : ofDocumentation options version info =
      .ok (ofRows options version info rows) := by
    rw [ofDocumentation, hRows]
    rfl
  have hLibrary := library_defaultText
  rw [render, h, hReference, Engine.standard]
  unfold documentOf
  dsimp only
  generalize library BuiltIn.defaultText = found at hLibrary ⊢
  subst hLibrary
  rfl

end Reference

/-! ## Examples on the page -/

def Within (part whole : String) : Prop := ∃ before after, whole = before ++ part ++ after

theorem Within.trans {first second third : String} (h : Within first second)
    (hNext : Within second third) : Within first third := by
  obtain ⟨before, after, rfl⟩ := h
  obtain ⟨above, below, rfl⟩ := hNext
  exact ⟨above ++ before, after ++ below, by simp only [String.append_assoc]⟩

theorem within_join {part : String} {texts : List String} (h : part ∈ texts) :
    Within part (.join texts) := by
  obtain ⟨before, after, rfl⟩ := List.append_of_mem h
  refine ⟨.join before, .join after, ?_⟩
  rw [String.join_append, String.join_cons, String.append_assoc]

theorem within_blocks {e : Example} {examples : List Example} (mark : String) (h : e ∈ examples) :
    Within (e.block mark) (.join (examples.map (·.block mark))) :=
  within_join (List.mem_map.mpr ⟨e, h, rfl⟩)

namespace Section

variable {s : Section} {e : Example}

theorem within_otherExamplesText (h : e ∈ s.examples) :
    Within (e.block "\n### ") s.otherExamplesText := by
  rw [otherExamplesText, if_pos (by simpa using List.ne_nil_of_mem h)]
  exact (within_blocks _ h).trans (within_join (by simp))

theorem within_stretches (h : e ∈ s.examples) (lineOf : Row → String) :
    Within (e.block "\n##### ") (shownText lineOf s.stretches) := by
  have hBlocks : Within (.join (s.examples.map (·.block "\n##### "))) s.examplesText := by
    rw [examplesText, if_pos (by simpa using List.ne_nil_of_mem h)]
    exact within_join (by simp)
  have hShown : s.examplesText ∈ s.stretches.map (·.shown lineOf) :=
    List.mem_map.mpr ⟨.text s.examplesText, by simp [stretches], rfl⟩
  exact (within_blocks _ h).trans (hBlocks.trans (within_join hShown))

end Section

namespace Reference

theorem within_page {r : Reference} {s : Section} {e : Example}
    (hs : s ∈ r.sections.unnamed :: r.sections.named) (he : e ∈ s.examples) (hRows : r.rows ≠ [])
    (header : String) : ∃ mark, Within (e.block mark) (r.page header) := by
  rcases List.mem_cons.mp hs with rfl | hs
  · exact ⟨_, (Section.within_otherExamplesText he).trans (within_join (by simp))⟩
  · refine ⟨_, (Section.within_stretches he Row.lineText).trans ?_⟩
    have hNamed : (!r.sections.named.isEmpty) = true := by simpa using List.ne_nil_of_mem hs
    have hTables : Within (shownText Row.lineText s.stretches)
        (shownText Row.lineText r.stretches) := by
      have hSections : shownText Row.lineText s.stretches ∈
          r.sections.named.map (shownText Row.lineText ·.stretches) :=
        List.mem_map.mpr ⟨s, hs, rfl⟩
      rw [stretches, if_pos hNamed, shownText, shownText, List.map_append, String.join_append,
        List.map_flatMap, join_flatMap]
      obtain ⟨before, after, hText⟩ := within_join hSections
      refine ⟨before, after ++ shownText Row.lineText r.sections.unnamed.otherStretches, ?_⟩
      rw [← String.append_assoc]
      exact congrArg (· ++ shownText Row.lineText r.sections.unnamed.otherStretches) hText
    have hValues : Within (shownText Row.lineText r.stretches) r.valuesText := by
      have hSome : (!r.rows.isEmpty) = true := by simpa using hRows
      have hHere : Within (shownText Row.lineText r.stretches)
          (.join ["\n\n", shownText Row.lineText r.stretches]) := within_join (by simp)
      rw [valuesText, if_pos hSome]
      exact hHere.trans (within_join (by simp))
    exact hTables.trans (hValues.trans (within_join (by simp)))

end Reference

theorem Arrangement.exists_section_of_example {a : Arrangement} {rows : List Row} {r : Row}
    {e : Example} (hr : r ∈ (a.organize rows).1) (he : r.example? = some e) :
    ∃ s ∈ (a.organize rows).2.unnamed :: (a.organize rows).2.named, e ∈ s.examples := by
  rw [organize_eq] at hr ⊢
  have hFiled := Sections.filed_ofRows a.pageBreaks (a.arrange rows)
  have hTold := (Sections.told_ofRows a.pageBreaks (a.arrange rows)).examples
  have hExample {s : Section} (hs : s.ShowsExamples) (hRow : r ∈ s.rows) : e ∈ s.examples := by
    rw [hs]
    exact List.mem_filterMap.mpr ⟨r, hRow, he⟩
  cases hSection : r.hasNoSection with
  | true =>
    refine ⟨_, List.mem_cons_self, hExample (hTold _ List.mem_cons_self) ?_⟩
    change r ∈ (Sections.ofRows a.pageBreaks (a.arrange rows)).unnamed.rows
    rw [hFiled.unnamed_rows]
    exact List.mem_filter.mpr ⟨hr, hSection⟩
  | false =>
    obtain ⟨s, hs, hName⟩ := hFiled.has_section r hr hSection
    have hSorted := (Sections.sorted_named_perm _).mem_iff.mpr hs
    refine ⟨s, List.mem_cons_of_mem _ hSorted, hExample (hTold s (List.mem_cons_of_mem _ hs)) ?_⟩
    rw [hFiled.named_rows s hs]
    exact List.mem_filter.mpr ⟨hr, by simp [hSection, hName]⟩

/-! ## What a document has of hidden rows -/

namespace Reference

/-- The texts of hidden rows make no difference to a document, unless they make an example of a row
that is listed. The examples of all rows that are listed are in it, hidden or not: they stand so in
the page that `Markdown.format` makes the document of, which takes spaces at line ends and all but
one of several blank lines out of them as well. -/
theorem hidden_rows_show_examples_only (w : Workspace) (options : RenderOptions)
    (version : String) (info : Documentation) (rows others : List Row)
    (h : List.Forall₂ (fun r q => r.Retells q ∧
      (options.arrangement.keeps r = true → q.example? = r.example?)) rows others) :
    ∃ page, documentOf w options version info rows = .ok (Markdown.format page) ∧
      documentOf w options version info others = .ok (Markdown.format page) ∧
      (templateSource w options.templateFiles = BuiltIn.defaultText →
        Yaml.Node.rows info.values info.descriptions = .ok rows →
        render w options version info = .ok (Markdown.format page)) ∧
      ∀ r ∈ (options.arrangement.organize rows).1, ∀ e, r.example? = some e →
        ∃ before mark after, page = before ++ e.block mark ++ after := by
  have hDocument := documentOf_eq w options version info rows
  -- Rows that are left out may have other examples, so they go before the veil is put on.
  have hPage (rows : List Row) (header : String) :
      (ofRows options version info ((rows.filter options.arrangement.keeps).map Row.veiled)).page
        header = (ofRows options version info rows).page header := by
    rw [ofRows, Arrangement.organize_map_veiled, Arrangement.organize_filter_keeps]
    exact page_veiled (ofRows options version info rows) header
  refine ⟨_, hDocument, ?_, ?_, ?_⟩
  · rw [documentOf_eq, ← hPage others, Arrangement.map_veiled_eq_of_retells h, hPage rows]
  · intro hTemplate hRows
    rw [render_eq_documentOf hTemplate hRows, hDocument]
  · intro r hr e he
    obtain ⟨s, hs, hExample⟩ := Arrangement.exists_section_of_example hr he
    obtain ⟨mark, before, after, hText⟩ :=
      within_page (r := ofRows options version info rows) hs hExample (List.ne_nil_of_mem hr)
        (includedText w options.headerFile)
    exact ⟨before, mark, after, hText⟩

theorem hidden_rows_show_examples_only_of_secret :
    let info : Documentation := {
      values := some (.mapping {} [(.scalar {} .str "a", .scalar {} .null "")])
      descriptions := KeyedMap.empty.insert "a"
        { typeLabel := "int", exampleCode := "x", hidden := true } }
    let secret : Row :=
      { key := "a", typeName := "int", defaultText := "`nil`", hidden := true, exampleCode := "x" }
    let other : Row := { secret with typeName := "string", defaultText := "1" }
    List.Forall₂ (fun r q : Row => r.Retells q ∧
      (Arrangement.keeps {} r = true → q.example? = r.example?)) [secret] [other] ∧
    ∃ page, render default {} "" info = .ok (Markdown.format page) ∧
      documentOf default {} "" info [other] = .ok (Markdown.format page) ∧
      ∃ before mark after,
        page = before ++ Example.block mark { name := "a", code := "x" } ++ after := by
  intro info secret other
  have hRetells : secret.Retells other := ⟨rfl, by decide, by simp [secret]⟩
  have hRetold : List.Forall₂ (fun r q : Row => r.Retells q ∧
      (Arrangement.keeps {} r = true → q.example? = r.example?)) [secret] [other] :=
    .cons ⟨hRetells, fun _ => rfl⟩ .nil
  have hRows : Yaml.Node.rows info.values info.descriptions = .ok [secret] := by rfl
  have hListed : (Arrangement.organize {} [secret]).1 = [secret] := by decide +kernel
  obtain ⟨page, -, hOther, hRender, hExamples⟩ :=
    hidden_rows_show_examples_only default {} "" info [secret] [other] hRetold
  rw [hListed] at hExamples
  exact ⟨hRetold, page, hRender (by simp [templateSource]) hRows, hOther,
    hExamples secret List.mem_cons_self _ rfl⟩

end Reference

/-! ## An example that is not hidden -/

namespace Markdown

/-- A character that formatting leaves where it is. -/
def isSolid (c : Char) : Bool := c != ' ' && c != '\n'

theorem filter_dropLineEndSpaces (s : List Char) :
    (dropLineEndSpaces s).filter isSolid = s.filter isSolid := by
  induction s with
  | nil => rfl
  | cons c rest ih =>
    rw [dropLineEndSpaces]
    split
    · rename_i hSpace
      have hNot : isSolid c = false := by simp_all [isSolid]
      simp [hNot, ih]
    · rw [List.filter_cons, List.filter_cons, ih]

theorem filter_collapseBlankLines (s : List Char) :
    (collapseBlankLines s).filter isSolid = s.filter isSolid := by
  induction s with
  | nil => rfl
  | cons c rest ih =>
    rw [collapseBlankLines]
    split
    · rename_i hFeed
      have hNot : isSolid c = false := by simp_all [isSolid]
      simp [hNot, ih]
    · rw [List.filter_cons, List.filter_cons, ih]

theorem filter_format (page : String) :
    (format page).toList.filter isSolid = page.toList.filter isSolid := by
  rw [format, String.toList_ofList, formatChars, filter_collapseBlankLines,
    filter_dropLineEndSpaces]

end Markdown

namespace Reference

theorem page_around (r : Reference) (header : String) (h : r.sections.unnamed.examples ≠ []) :
    r.page header = .join [header,
        if !r.options.skipContents then .join ["\n", r.sections.contentsText] else "", "\n",
        if !r.sections.unnamed.rows.isEmpty then "## Examples" else "", "\n\n"] ++
      .join (r.sections.unnamed.examples.map (·.block "\n### ")) ++
      .join ["-----------------\n", "\n", r.valuesText,
        if !r.options.skipVersionFooter then .join ["\n", footerText r.version] else "", "\n"] := by
  have hSome : (!r.sections.unnamed.examples.isEmpty) = true := by simpa using h
  rw [page, Section.otherExamplesText, if_pos hSome]
  simp only [String.join_cons, String.join_nil, String.append_empty, String.append_assoc]

def hiddenRow (code : String) : Row := { key := "a", hidden := true, exampleCode := code }

theorem ofRows_hiddenRow {code : String} (h : code.isEmpty = false) :
    ofRows {} "" {} [hiddenRow code] =
      { info := {}, version := "", rows := [hiddenRow code], options := {}
        sections.unnamed :=
          { name := Sections.unnamedHeading, rows := [hiddenRow code]
            examples := [{ name := "a", code }], pageBreak := true } } := by
  simp [ofRows, Arrangement.organize, Arrangement.arrange, Row.inherit, Row.sort, Sections.ofRows,
    Sections.add, Row.hasNoSection, Section.push, Row.example?, Row.orElse, Sections.sortRows,
    Section.sortRows, Sections.sorted, hiddenRow, h]

/-- What is said of hidden rows and their examples is not so: the code of an example is shown. -/
theorem example_of_hidden_row_is_shown :
    ¬∀ (w : Workspace) (options : RenderOptions) (version : String) (info : Documentation)
      (rows others : List Row), List.Forall₂ Row.Retells rows others →
        documentOf w options version info rows = documentOf w options version info others := by
  intro h
  have hRetells : (hiddenRow "x").Retells (hiddenRow "y") := ⟨rfl, rfl, by simp [hiddenRow]⟩
  have hSame := h default {} "" {} [hiddenRow "x"] [hiddenRow "y"] (.cons hRetells .nil)
  rw [documentOf_eq, documentOf_eq, ofRows_hiddenRow rfl, ofRows_hiddenRow rfl] at hSame
  -- Formatting only takes blanks and line feeds away, so the pages agree in all else.
  have hPages := congrArg (·.toList.filter Markdown.isSolid) (Except.ok.inj hSame)
  simp only [Markdown.filter_format] at hPages
  rw [page_around _ _ (by simp), page_around _ _ (by simp)] at hPages
  simp only [String.toList_append, List.filter_append] at hPages
  have hBlocks := List.append_cancel_left (List.append_cancel_right hPages)
  revert hBlocks
  decide

end Reference

end ConfigReference
