import ConfigReference.Proofs.Section.Arrangement
import ConfigReference.Proofs.Template.BuiltIn
import ConfigReference.Proofs.Template.Rendering
import ConfigReference.Reference.Publish

/-!
# Tables of values

The tables of a reference are set out as stretches: lines of rows, and the text between them. The
built-in template shows these stretches whatever its macro makes of a row, so the lines can be told
from the rest of the text. Every row that is not hidden has one.
-/

set_option autoImplicit false

namespace ConfigReference

open Template

/-! ## Texts -/

def paragraph (t : String) : String := if !t.isEmpty then .join [t, "\n\n"] else ""

def Example.block (mark : String) (e : Example) : String :=
  .join [mark, e.name, "\n\n", paragraph e.text,
    codeBlock (.ofList (Text.trimStart e.code.toList)), "\n\n"]

def Row.lineText (r : Row) : String :=
  .join ["| ",
    if r.experimental then "<span style='cursor: help;' title='Experimental'>✨</span> " else "",
    if r.deprecated then "<span style='cursor: help;' title='Deprecated'>⚠️</span> " else "",
    r.key, " | ", r.typeName, " | ", if r.required then "**true**" else "false", " | ",
    Row.orElse r.defaultText r.autoDefault, " | ", Row.orElse r.text r.autoText, " |"]

/-- A piece of the tables of a reference. -/
inductive Stretch where
  | text (t : String)
  | line (r : Row)

namespace Stretch

def row? : Stretch → Option Row
  | text _ => none
  | line r => some r

def shown (lineOf : Row → String) : Stretch → String
  | text t => t
  | line r => lineOf r

end Stretch

/-- The text of stretches, each line being what `lineOf` says. -/
def shownText (lineOf : Row → String) (stretches : List Stretch) : String :=
  .join (stretches.map (·.shown lineOf))

def Row.stretches (r : Row) : List Stretch := if !r.hidden then [.line r, .text "\n"] else []

def tableStretches (rows : List Row) : List Stretch :=
  [.text BuiltIn.headerText, .text "\n"] ++ rows.flatMap Row.stretches

namespace Section

def examplesText (s : Section) : String :=
  if !s.examples.isEmpty then
    .join ["#### Examples\n\n", .join (s.examples.map (·.block "\n##### ")), "#### Values\n\n"]
  else ""

def stretches (s : Section) : List Stretch :=
  [.text "\n\n### ", .text s.name, .text "\n\n", .text (paragraph s.text), .text s.examplesText] ++
    tableStretches s.rows ++ [.text (if s.pageBreak then BuiltIn.breakText else "")]

def otherStretches (s : Section) : List Stretch :=
  if !s.rows.isEmpty then
    [.text "\n\n### ", .text s.name, .text "\n\n"] ++ tableStretches s.rows
  else []

end Section

namespace Reference

/-- The reference of some rows, arranged as the options tell. -/
def ofRows (options : RenderOptions) (version : String) (info : Documentation) (rows : List Row) :
    Reference where
  info
  version
  rows := (options.arrangement.organize rows).1
  sections := (options.arrangement.organize rows).2
  options

def stretches (r : Reference) : List Stretch :=
  if !r.sections.named.isEmpty then
    r.sections.named.flatMap Section.stretches ++ r.sections.unnamed.otherStretches
  else tableStretches r.rows

end Reference

/-! ## Rows of stretches -/

theorem filterMap_flatMap_stretches (rows : List Row) :
    (rows.flatMap Row.stretches).filterMap Stretch.row? = rows.filter (!·.hidden) := by
  induction rows with
  | nil => rfl
  | cons r rows ih =>
    rw [List.flatMap_cons, List.filterMap_append, ih, Row.stretches]
    cases hHidden : r.hidden <;> simp [Stretch.row?, hHidden]

theorem filterMap_tableStretches (rows : List Row) :
    (tableStretches rows).filterMap Stretch.row? = rows.filter (!·.hidden) := by
  rw [tableStretches, List.filterMap_append, filterMap_flatMap_stretches]
  rfl

theorem Section.filterMap_stretches (s : Section) :
    s.stretches.filterMap Stretch.row? = s.rows.filter (!·.hidden) := by
  rw [stretches, List.filterMap_append, List.filterMap_append, filterMap_tableStretches]
  exact List.append_nil _

theorem Section.filterMap_otherStretches (s : Section) :
    s.otherStretches.filterMap Stretch.row? = s.rows.filter (!·.hidden) := by
  rw [otherStretches]
  split
  · rw [List.filterMap_append, filterMap_tableStretches]
    rfl
  · rename_i hNone
    have hRows : s.rows = [] := by simpa using hNone
    rw [hRows]
    rfl

/-- The rows that have a line: those of the named sections and then the others, or all as they are
listed when no section has a name. -/
theorem Reference.filterMap_stretches (r : Reference) :
    r.stretches.filterMap Stretch.row? =
      (if r.sections.named = [] then r.rows
        else r.sections.named.flatMap (·.rows) ++ r.sections.unnamed.rows).filter (!·.hidden) := by
  rw [stretches]
  cases hNamed : r.sections.named with
  | nil => exact filterMap_tableStretches r.rows
  | cons first rest =>
    have hSome : (!(first :: rest).isEmpty) = true := rfl
    rw [if_pos hSome, if_neg (List.cons_ne_nil first rest), List.filterMap_append,
      Section.filterMap_otherStretches, List.filter_append, List.filterMap_flatMap,
      List.filter_flatMap]
    simp only [Section.filterMap_stretches]

/-! ## Showing them -/

section Showing

open BuiltIn

variable {s : Setting} {callee : Callee} {p : Place} {scope : Scope} {name : String}
  {path : List String} {lineOf : Row → String}

theorem join_flatMap {α : Type} (f : α → List String) (items : List α) :
    String.join (items.flatMap f) = .join (items.map fun item => .join (f item)) := by
  induction items with
  | nil => rfl
  | cons item items ih =>
    rw [List.flatMap_cons, List.map_cons, String.join_append, String.join_cons, ih]

theorem shows_whenSet {truth : Bool} {parts : List Part} {t : String}
    (h : Holds s callee p scope (member name path) truth)
    (hParts : Shows s callee p scope parts t) :
    (whenSet name path parts).Shows s callee p scope (if truth then t else "") :=
  h.shows_branch hParts .nil

theorem shows_member {t : String} (h : scope.lookup? s.data ⟨name, path⟩ = some (.string t)) :
    (Part.output (member name path)).Shows s callee p scope t :=
  (gives_var h).shows_string

theorem shows_paragraph {t : String} (h : scope.lookup? s.data ⟨name, path⟩ = some (.string t)) :
    (whenSet name path [.output (member name path), .text "\n\n"]).Shows s callee p scope
      (paragraph t) :=
  shows_whenSet (holds_string h) (.cons (shows_member h) (.cons (shows_text _) .nil))

theorem shows_orElse {other t u : String}
    (h : scope.lookup? s.data ⟨name, path⟩ = some (.string t))
    (hOther : scope.lookup? s.data ⟨name, [other]⟩ = some (.string u)) :
    (Part.branch (member name path) [.output (member name path)]
      [.output (member name [other])]).Shows s callee p scope (Row.orElse t u) := by
  have hText : Row.orElse t u = if !t.isEmpty then t else u := by
    rw [Row.orElse]
    cases t.isEmpty <;> rfl
  rw [hText]
  exact (holds_string h).shows_branch (shows_member h).alone (shows_member hOther).alone

theorem shows_valueRow (r : Row) :
    Shows s callee p [{ assigned := [("row", r.toJson)] }] valueRow.body r.lineText := by
  refine .cons (shows_text _) ?_
  refine .cons (shows_whenSet (holds_bool (Scope.lookup?_assigned_member [] rfl))
    (shows_text _).alone) ?_
  refine .cons (shows_whenSet (holds_bool (Scope.lookup?_assigned_member [] rfl))
    (shows_text _).alone) ?_
  refine .cons (shows_member (Scope.lookup?_assigned_member [] rfl)) (.cons (shows_text _) ?_)
  refine .cons (shows_member (Scope.lookup?_assigned_member [] rfl)) (.cons (shows_text _) ?_)
  refine .cons ((holds_bool (Scope.lookup?_assigned_member [] rfl)).shows_branch
    (shows_text _).alone (shows_text _).alone) (.cons (shows_text _) ?_)
  refine .cons (shows_orElse (Scope.lookup?_assigned_member [] rfl)
    (Scope.lookup?_assigned_member [] rfl)) (.cons (shows_text _) ?_)
  refine .cons (shows_orElse (Scope.lookup?_assigned_member [] rfl)
    (Scope.lookup?_assigned_member [] rfl)) ?_
  exact .cons (shows_text _) .nil

theorem shows_example {scope : Scope} (mark : String) (e : Example) :
    Shows s callee p ({ given := [("example", e.toJson)] } :: scope) (exampleParts mark)
      (e.block mark) := by
  have hCode : Gives s callee p ({ given := [("example", e.toJson)] } :: scope)
      (member "example" ["CodeBlock"]) (.string e.code) :=
    gives_var (Scope.lookup?_given_member scope rfl)
  have hTrimmed : Gives s callee p _ (.filter (member "example" ["CodeBlock"]) "trim_lead" []) _ :=
    hCode.textFilter rfl
  have hBlock : Gives s callee p _ (.filter _ "to_yaml_code_block" []) _ := hTrimmed.textFilter rfl
  refine .cons (shows_text _) ?_
  refine .cons (shows_member (Scope.lookup?_given_member scope rfl)) (.cons (shows_text _) ?_)
  refine .cons (shows_paragraph (Scope.lookup?_given_member scope rfl)) ?_
  exact .cons hBlock.shows_string (.cons (shows_text _) .nil)

theorem shows_examples {mark : String} {examples : List Example}
    (h : scope.lookup? s.data ⟨name, path⟩ = some (.array (examples.map Example.toJson))) :
    (Part.loop none "example" (member name path) (exampleParts mark)).Shows s callee p scope
      (.join (examples.map (·.block mark))) :=
  (gives_var h).shows_loop fun e _ => shows_example mark e

/-- What a callee makes of the macros of a table: the head, and a line for each row. -/
structure AnswersMacros (callee : Callee) (lineOf : Row → String) : Prop where
  header : callee ⟨"config.macros", some ⟨"macros", "table_header"⟩⟩ [{}] tableHeader.body =
    .ok headerText
  row : ∀ r : Row, callee ⟨"config.macros", some ⟨"macros", "value_row"⟩⟩
    [{ assigned := [("row", r.toJson)] }] valueRow.body = .ok (lineOf r)

theorem findMacro_tableMacros {library : Library} {m : MacroDefinition} (h : StandIn library)
    (hMacro : tableMacros.macros.find? (·.name = name) = some m) :
    library.findMacro "config.valuesTable" "macros" name = .ok ("config.macros", m) :=
  findMacro_of_import h.table rfl h.macros hMacro

/-- What the body of the tables is rendered under: the built-in templates, at its own place, with
macros that answer as told. -/
structure ShowsTables (s : Setting) (callee : Callee) (p : Place) (lineOf : Row → String) : Prop
    where
  standIn : StandIn s.library
  macros : AnswersMacros callee lineOf
  place : p.template = "config.valuesTable"

theorem ShowsTables.inLoop (h : ShowsTables s callee p lineOf) :
    ShowsTables s callee ⟨p.template, none⟩ lineOf := ⟨h.standIn, h.macros, h.place⟩

theorem ShowsTables.row (h : ShowsTables s callee p lineOf) (scope : Scope) (r : Row) :
    Shows s callee p ({ given := [("row", r.toJson)] } :: scope)
      [.branch (.not (member "row" ["Hidden"])) [
        .output (.macroCall "macros" "value_row" [("row", member "row" [])]), .text "\n"] []]
      (shownText lineOf r.stretches) := by
  have hMacro : s.library.findMacro p.template "macros" "value_row" =
      .ok ("config.macros", valueRow) := by
    rw [h.place]
    exact findMacro_tableMacros h.standIn rfl
  have hRow : Gives s callee p ({ given := [("row", r.toJson)] } :: scope) (member "row" [])
      r.toJson := gives_var (Scope.lookup?_given scope rfl)
  have hArgs : valueRow.bind p (argValues s callee p ({ given := [("row", r.toJson)] } :: scope)
      [("row", member "row" [])]) = .ok [("row", r.toJson)] := by
    rw [argValues, argValues, hRow]
    rfl
  have hLine := (Gives.macroCall hMacro hArgs (h.macros.row r)).shows_string
  have hHidden : Holds s callee p ({ given := [("row", r.toJson)] } :: scope)
      (.not (member "row" ["Hidden"])) !r.hidden :=
    holds_not_bool (Scope.lookup?_given_member scope rfl)
  have hText : shownText lineOf r.stretches =
      if !r.hidden then .join [lineOf r, "\n"] else "" := by
    rw [Row.stretches]
    cases r.hidden <;> rfl
  rw [hText]
  exact (hHidden.shows_branch (.cons hLine (.cons (shows_text _) .nil)) .nil).alone

theorem ShowsTables.table (h : ShowsTables s callee p lineOf) {rows : List Row}
    (hRows : scope.lookup? s.data ⟨name, path⟩ = some (.array (rows.map Row.toJson))) :
    Shows s callee p scope (tableParts name path) (shownText lineOf (tableStretches rows)) := by
  have hMacro : s.library.findMacro p.template "macros" "table_header" =
      .ok ("config.macros", tableHeader) := by
    rw [h.place]
    exact findMacro_tableMacros h.standIn rfl
  have hArgs : tableHeader.bind p (argValues s callee p scope []) = .ok [] := rfl
  have hHeader := (Gives.macroCall hMacro hArgs h.macros.header).shows_string
  have hLoop := (gives_var hRows).shows_loop fun r _ => h.inLoop.row scope r
  have hText : shownText lineOf (tableStretches rows) =
      .join [headerText, "\n", .join (rows.map fun r => shownText lineOf r.stretches)] := by
    rw [shownText, tableStretches, List.map_append, List.map_flatMap, String.join_append,
      join_flatMap]
    rfl
  rw [hText]
  exact .cons hHeader (.cons (shows_text _) (.cons hLoop .nil))

theorem ShowsTables.namedSection (h : ShowsTables s callee p lineOf) (scope : Scope)
    (named : Section) :
    Shows s callee p ({ given := [("section", named.toJson)] } :: scope) sectionParts
      (shownText lineOf named.stretches) := by
  have hRows : Scope.lookup? s.data ⟨"section", ["SectionItems"]⟩
      ({ given := [("section", named.toJson)] } :: scope) =
        some (.array (named.rows.map Row.toJson)) := Scope.lookup?_given_member scope rfl
  have hExamples : Scope.lookup? s.data ⟨"section", ["Examples"]⟩
      ({ given := [("section", named.toJson)] } :: scope) =
        some (.array (named.examples.map Example.toJson)) := Scope.lookup?_given_member scope rfl
  rw [Section.stretches, shownText, List.map_append, List.map_append]
  refine .append (.append ?_ (h.table hRows)) ?_
  · refine .cons (shows_text _) (.cons (shows_member (Scope.lookup?_given_member scope rfl)) ?_)
    refine .cons (shows_text _) (.cons (shows_paragraph (Scope.lookup?_given_member scope rfl)) ?_)
    refine .cons (shows_whenSet (holds_array hExamples) (.cons (shows_text _) ?_)) .nil
    exact .cons (shows_examples hExamples) (.cons (shows_text _) .nil)
  · exact .cons (shows_whenSet (holds_bool (Scope.lookup?_given_member scope rfl))
      (shows_text _).alone) .nil

end Showing

namespace Reference

open BuiltIn

/-- A setting shows a reference when its data are those of the reference. -/
structure Filled (r : Reference) (s : Setting) : Prop where
  standIn : StandIn s.library
  data : Json.object s.data = r.toJson

variable {r : Reference} {s : Setting} {callee : Callee} {p : Place} {scope : Scope}
  {lineOf : Row → String}

theorem Filled.lookup? (h : r.Filled s) {name : String} (hScope : scope.LeavesFree name)
    (path : List String) : scope.lookup? s.data ⟨name, path⟩ = r.toJson.follow? (name :: path) := by
  rw [hScope.lookup?_eq, h.data]

theorem follow?_named (r : Reference) :
    r.toJson.follow? ["Sections", "Sections"] =
      some (.array (r.sections.named.map Section.toJson)) :=
  (Json.follow?_ofMembers rfl _).trans (Json.follow?_member rfl)

theorem follow?_unnamed (r : Reference) (path : List String) :
    r.toJson.follow? ("Sections" :: "DefaultSection" :: path) =
      r.sections.unnamed.toJson.follow? path :=
  (Json.follow?_ofMembers rfl _).trans (Json.follow?_ofMembers rfl _)

theorem Filled.otherTable (h : r.Filled s) (hTables : ShowsTables s callee p lineOf)
    (hScope : scope.LeavesFree "Sections") :
    (whenSet "Sections" ["DefaultSection", "SectionItems"]
      ([.text "\n\n### ", .output (member "Sections" ["DefaultSection", "SectionName"]),
        .text "\n\n"] ++ tableParts "Sections" ["DefaultSection", "SectionItems"])).Shows s callee p
      scope (shownText lineOf r.sections.unnamed.otherStretches) := by
  have hName : scope.lookup? s.data ⟨"Sections", ["DefaultSection", "SectionName"]⟩ =
      some (.string r.sections.unnamed.name) := by
    rw [h.lookup? hScope, follow?_unnamed]
    exact Json.follow?_member rfl
  have hRows : scope.lookup? s.data ⟨"Sections", ["DefaultSection", "SectionItems"]⟩ =
      some (.array (r.sections.unnamed.rows.map Row.toJson)) := by
    rw [h.lookup? hScope, follow?_unnamed]
    exact Json.follow?_member rfl
  have hText : shownText lineOf r.sections.unnamed.otherStretches =
      if !r.sections.unnamed.rows.isEmpty then
        .join (["\n\n### ", r.sections.unnamed.name, "\n\n"] ++
          (tableStretches r.sections.unnamed.rows).map (·.shown lineOf))
      else "" := by
    rw [Section.otherStretches]
    split <;> rfl
  rw [hText]
  refine shows_whenSet (holds_array hRows) (.append ?_ (hTables.table hRows))
  exact .cons (shows_text _) (.cons (shows_member hName) (.cons (shows_text _) .nil))

theorem Filled.tables (h : r.Filled s) (hTables : ShowsTables s callee p lineOf)
    (hSections : scope.LeavesFree "Sections") (hValues : scope.LeavesFree "Values") :
    Shows s callee p scope table.body (shownText lineOf r.stretches) := by
  have hNamed : scope.lookup? s.data ⟨"Sections", ["Sections"]⟩ =
      some (.array (r.sections.named.map Section.toJson)) := by
    rw [h.lookup? hSections, follow?_named]
  have hRows : scope.lookup? s.data ⟨"Values", []⟩ = some (.array (r.rows.map Row.toJson)) := by
    rw [h.lookup? hValues]
    exact Json.follow?_member rfl
  have hLoop := (gives_var hNamed).shows_loop fun named _ => hTables.inLoop.namedSection scope named
  have hText : shownText lineOf r.stretches =
      if !r.sections.named.isEmpty then
        .join [.join (r.sections.named.map fun named => shownText lineOf named.stretches),
          shownText lineOf r.sections.unnamed.otherStretches]
      else shownText lineOf (tableStretches r.rows) := by
    rw [stretches]
    split
    · rw [shownText, List.map_append, List.map_flatMap, String.join_append, join_flatMap,
        String.join_cons, String.join_cons, String.join_nil, String.append_empty]
      rfl
    · rfl
  rw [hText]
  refine ((holds_array hNamed).shows_branch ?_ (hTables.table hRows)).alone
  exact .cons hLoop (.cons (h.otherTable hTables hSections) .nil)

/-! ## Macros -/

theorem answersMacros_renderBody (s : Setting) (depth : Nat) :
    AnswersMacros (renderBody s (depth + 1)) Row.lineText where
  header := (shows_text _).alone.renderBody
  row r := (shows_valueRow r).renderBody

/-- A callee that answers the macro of rows with a mark instead of a line. -/
def marking (mark : Json → String) (callee : Callee) : Callee := fun p scope body =>
  if p.site = some ⟨"macros", "value_row"⟩ then
    .ok (mark ((scope.lookup? [] ⟨"row", []⟩).getD .null))
  else callee p scope body

theorem answersMacros_marking {mark : Json → String} (h : AnswersMacros callee lineOf) :
    AnswersMacros (marking mark callee) fun r => mark r.toJson where
  header := by
    rw [marking, if_neg (by simp)]
    exact h.header
  row r := by
    rw [marking, if_pos rfl, Scope.lookup?_assigned [] rfl]
    rfl

theorem perm_of_organize (a : Arrangement) (rows : List Row) :
    ((a.organize rows).2.named.flatMap (·.rows) ++ (a.organize rows).2.unnamed.rows).Perm
      (a.organize rows).1 := by
  rw [a.organize_eq]
  have hNamed := Sections.sorted_named_perm (Sections.ofRows a.pageBreaks (a.arrange rows))
  exact List.perm_append_comm.trans (((hNamed.flatMap_right fun s => s.rows).append_left _).trans
    (Sections.allRows_ofRows a.pageBreaks (a.arrange rows)))

theorem object_members_toJson (r : Reference) : Json.object r.toJson.members = r.toJson := by
  rw [toJson]
  exact Json.object_members_ofMembers _

theorem filled_setting (r : Reference) (t : Template)
    (function? : String → Option (Args → Except Cause Json)) :
    r.Filled ⟨(templateName, t) :: BuiltIn.library, function?, r.toJson.members⟩ where
  standIn := standIn_cons t (by simp [readings, templateName])
  data := by
    dsimp only
    exact r.object_members_toJson

/-- The tables of a reference have one line for each row that is not hidden, and no other: first
the rows of the named sections, section by section, and then the others, or all of them as they are
listed when no section has a name. The lines are what the macro of rows gives, whatever that is. -/
theorem values_tables_are_complete (t : Template)
    (function? : String → Option (Args → Except Cause Json)) (info : Documentation)
    (version : String) (options : RenderOptions) (rows : List Row) (scope : Scope) (depth : Nat)
    (hScope : ∀ name ∈ ["Sections", "Values"], scope.LeavesFree name) :
    let r : Reference := .ofRows options version info rows
    let s : Setting := ⟨(templateName, t) :: BuiltIn.library, function?, r.toJson.members⟩
    let body := ((s.library.lookup "config.valuesTable").map (·.body)).getD []
    ∃ stretches : List Stretch,
      stretches.filterMap Stretch.row? =
        (if r.sections.named = [] then r.rows
          else r.sections.named.flatMap (·.rows) ++ r.sections.unnamed.rows).filter (!·.hidden) ∧
      (stretches.filterMap Stretch.row?).Perm (r.rows.filter (!·.hidden)) ∧
      (∀ mark : Json → String,
        renderParts s (marking mark (renderBody s (depth + 1))) ⟨"config.valuesTable", none⟩ scope
          body = .ok (shownText (fun r => mark r.toJson) stretches, scope)) ∧
      renderBody s (depth + 2) ⟨"config.valuesTable", none⟩ scope body =
        .ok (shownText Row.lineText stretches) := by
  intro r s body
  have hFilled : r.Filled s := r.filled_setting t function?
  have hBody : body = table.body := by
    change ((s.library.lookup "config.valuesTable").map (·.body)).getD [] = _
    rw [hFilled.standIn.table]
    rfl
  have hSections : scope.LeavesFree "Sections" := hScope _ (by simp)
  have hValues : scope.LeavesFree "Values" := hScope _ (by simp)
  have hAnswers := answersMacros_renderBody s depth
  rw [hBody]
  refine ⟨r.stretches, r.filterMap_stretches, ?_, ?_, ?_⟩
  · rw [r.filterMap_stretches]
    refine List.Perm.filter _ ?_
    split
    · exact List.Perm.refl r.rows
    · exact perm_of_organize options.arrangement rows
  · intro mark
    exact hFilled.tables ⟨hFilled.standIn, answersMacros_marking hAnswers, rfl⟩ hSections hValues
  · exact (hFilled.tables ⟨hFilled.standIn, hAnswers, rfl⟩ hSections hValues).renderBody

theorem values_tables_are_complete_for_hidden_section :
    let scope : Scope := [{ given := [("row", .null)] }]
    let rows : List Row := [{ key := "a", autoSection := "S", hidden := true }, { key := "b" }]
    let r : Reference := .ofRows {} "" {} rows
    let s : Setting := ⟨(templateName, {}) :: BuiltIn.library, fun _ => none, r.toJson.members⟩
    let body := ((s.library.lookup "config.valuesTable").map (·.body)).getD []
    (∀ name ∈ ["Sections", "Values"], scope.LeavesFree name) ∧
    ∃ stretches : List Stretch,
      stretches.filterMap Stretch.row? = [{ key := "b" }] ∧
      renderBody s 2 ⟨"config.valuesTable", none⟩ scope body =
        .ok (shownText Row.lineText stretches) := by
  intro scope rows r s body
  have hScope : ∀ name ∈ ["Sections", "Values"], scope.LeavesFree name := by
    simp [scope, Scope.LeavesFree]
  obtain ⟨stretches, hRows, -, -, hText⟩ :=
    values_tables_are_complete {} (fun _ => none) {} "" {} rows scope 0 hScope
  have hArranged : Arrangement.arrange {} rows =
      [{ key := "a", sectionName := "S", autoSection := "S", hidden := true }, { key := "b" }] := by
    rw [Arrangement.arrange_eq, Row.sort_of_ascending (by decide +kernel)]
    rfl
  refine ⟨hScope, stretches, hRows.trans ?_, hText⟩
  rw [Reference.ofRows]
  change List.filter _ (if (Arrangement.organize {} rows).2.named = [] then _ else _) = _
  rw [Arrangement.organize_eq, hArranged]
  simp [Sections.ofRows, Sections.add, Row.hasNoSection, Row.resetSection, Section.file,
    Section.push, Row.example?, Sections.sorted]

end Reference

end ConfigReference
