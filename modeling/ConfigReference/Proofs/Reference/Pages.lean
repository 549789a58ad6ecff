import ConfigReference.Proofs.Reference.Tables

/-!
# Pages

The whole text that the built-in template shows for a reference: a file at the top, a table of
contents, examples, tables of values and a footer. It is set out here once more, part by part, and
the template shows it for every reference.
-/

set_option autoImplicit false

namespace ConfigReference

open Template BuiltIn

/-! ## Texts -/

def linkText (heading : String) : String := .join ["- ", Markdown.link heading, "\n"]

namespace Section

def ruleText (s : Section) : String :=
  .join [if s.pageBreak then breakText else "\n-----------------\n", "\n"]

/-- The examples of the rows that name no section. -/
def otherExamplesText (s : Section) : String :=
  if !s.examples.isEmpty then
    .join [if !s.rows.isEmpty then "## Examples" else "", "\n\n",
      .join (s.examples.map (·.block "\n### ")), "-----------------\n"]
  else ""

end Section

def Sections.contentsText (all : Sections) : String :=
  .join [all.unnamed.ruleText, "\n\n## Contents\n\n", .join (all.named.map (linkText ·.name)),
    if !all.unnamed.rows.isEmpty then linkText all.unnamed.name else "", "\n",
    all.unnamed.ruleText, "\n"]

namespace Reference

def valuesText (r : Reference) : String :=
  .join [if !r.sections.unnamed.rows.isEmpty && !r.sections.unnamed.examples.isEmpty then
      "## Values" else "",
    if !r.rows.isEmpty then .join ["\n\n", shownText Row.lineText r.stretches] else "", "\n"]

def footerText (version : String) : String :=
  if !version.isEmpty then
    .join ["\n-----------------\nAutogenerated from configuration metadata using [yaml-docs v",
      version, "](https://github.com/blakyaks/yaml-docs/releases/v", version, ")\n"]
  else ""

/-- The page of a reference below the text of a file. -/
def page (r : Reference) (header : String) : String :=
  .join [header,
    if !r.options.skipContents then .join ["\n", r.sections.contentsText] else "",
    "\n", r.sections.unnamed.otherExamplesText, "\n", r.valuesText,
    if !r.options.skipVersionFooter then .join ["\n", footerText r.version] else "", "\n"]

/-! ## Showing them -/

section Showing

theorem shows_link {s : Setting} {callee : Callee} {p : Place} {scope : Scope} {name t : String}
    {path : List String} (h : scope.lookup? s.data ⟨name, path⟩ = some (.string t)) :
    Shows s callee p scope (linkParts name path) (linkText t) := by
  have hLink : Gives s callee p scope (.filter (member name path) "to_markdown_link" []) _ :=
    (gives_var h).textFilter rfl
  exact .cons (shows_text _) (.cons hLink.shows_string (.cons (shows_text _) .nil))

variable {r : Reference} {s : Setting} {callee : Callee} {p : Place} {scope : Scope} {depth : Nat}

def IsBlank (scope : Scope) : Prop := ∀ name, scope.LeavesFree name

theorem IsBlank.inserted (h : IsBlank scope) : IsBlank ({} :: scope) := fun name =>
  (h name).empty_frame

variable (h : r.Filled s) (hScope : IsBlank scope)

include h hScope

theorem Filled.lookup?_of_isBlank {name : String} {path : List String} {value : Json}
    (hValue : r.toJson.follow? (name :: path) = some value) :
    scope.lookup? s.data ⟨name, path⟩ = some value := by
  rw [h.lookup? (hScope name), hValue]

theorem Filled.lookup?_unnamed {key : String} {value : Json}
    (hValue : r.sections.unnamed.toJson.follow? [key] = some value) :
    scope.lookup? s.data ⟨"Sections", ["DefaultSection", key]⟩ = some value :=
  h.lookup?_of_isBlank hScope ((r.follow?_unnamed [key]).trans hValue)

theorem Filled.unnamedRows : scope.lookup? s.data ⟨"Sections", ["DefaultSection", "SectionItems"]⟩ =
    some (.array (r.sections.unnamed.rows.map Row.toJson)) :=
  h.lookup?_unnamed hScope (Json.follow?_member rfl)

theorem Filled.unnamedExamples : scope.lookup? s.data ⟨"Sections", ["DefaultSection", "Examples"]⟩ =
    some (.array (r.sections.unnamed.examples.map Example.toJson)) :=
  h.lookup?_unnamed hScope (Json.follow?_member rfl)

theorem Filled.shows_rule : Shows s callee p scope pageBreak.body r.sections.unnamed.ruleText := by
  have hBreak : scope.lookup? s.data ⟨"Sections", ["DefaultSection", "SectionBreak"]⟩ =
      some (.bool r.sections.unnamed.pageBreak) :=
    h.lookup?_unnamed hScope (Json.follow?_member rfl)
  refine .cons ((holds_bool hBreak).shows_branch (shows_text _).alone (shows_text _).alone) ?_
  exact .cons (shows_text _) .nil

theorem Filled.shows_examples :
    Shows s callee p scope examples.body r.sections.unnamed.otherExamplesText := by
  have hExamples := h.unnamedExamples hScope
  have hRows := h.unnamedRows hScope
  refine (shows_whenSet (holds_array hExamples) ?_).alone
  refine .cons (shows_whenSet (holds_array hRows) (shows_text _).alone) (.cons (shows_text _) ?_)
  exact .cons (ConfigReference.shows_examples hExamples) (.cons (shows_text _) .nil)

theorem Filled.shows_footer : Shows s callee p scope footer.body (footerText r.version) := by
  have hVersion : scope.lookup? s.data ⟨"YamlDocsVersion", []⟩ = some (.string r.version) :=
    h.lookup?_of_isBlank hScope (Json.follow?_member rfl)
  refine (shows_whenSet (holds_string hVersion) (.cons (shows_text _) ?_)).alone
  refine .cons (shows_member hVersion) (.cons (shows_text _) ?_)
  exact .cons (shows_member hVersion) (.cons (shows_text _) .nil)

theorem Filled.shows_contents :
    Shows s (renderBody s (depth + 1)) p scope contents.body r.sections.contentsText := by
  have hNamed : scope.lookup? s.data ⟨"Sections", ["Sections"]⟩ =
      some (.array (r.sections.named.map Section.toJson)) :=
    h.lookup?_of_isBlank hScope r.follow?_named
  have hName : scope.lookup? s.data ⟨"Sections", ["DefaultSection", "SectionName"]⟩ =
      some (.string r.sections.unnamed.name) :=
    h.lookup?_unnamed hScope (Json.follow?_member rfl)
  have hRule : (Part.insert "config.pageBreak").Shows s (renderBody s (depth + 1)) p scope _ :=
    shows_insert h.standIn.pageBreak (h.shows_rule hScope.inserted).renderBody
  refine .cons hRule (.cons (shows_text _) ?_)
  refine .cons ((gives_var hNamed).shows_loop fun named _ =>
    shows_link (Scope.lookup?_given_member scope rfl)) ?_
  refine .cons (shows_whenSet (holds_array (h.unnamedRows hScope)) (shows_link hName)) ?_
  exact .cons (shows_text _) (.cons hRule (.cons (shows_text _) .nil))

theorem Filled.shows_values :
    Shows s (renderBody s (depth + 2)) p scope values.body r.valuesText := by
  have hRows : scope.lookup? s.data ⟨"Values", []⟩ = some (.array (r.rows.map Row.toJson)) :=
    h.lookup?_of_isBlank hScope (Json.follow?_member rfl)
  have hTables : ShowsTables s (renderBody s (depth + 1)) ⟨"config.valuesTable", none⟩
      Row.lineText := ⟨h.standIn, answersMacros_renderBody s depth, rfl⟩
  have hTable : (Part.insert "config.valuesTable").Shows s (renderBody s (depth + 2)) p scope _ :=
    shows_insert h.standIn.table (h.tables hTables (hScope.inserted "Sections")
      (hScope.inserted "Values")).renderBody
  refine .cons (((holds_array (h.unnamedRows hScope)).and (holds_array
    (h.unnamedExamples hScope))).shows_branch (shows_text _).alone .nil) ?_
  refine .cons (shows_whenSet (holds_array hRows) ?_) (.cons (shows_text _) .nil)
  exact .cons (shows_text _) (.cons hTable .nil)

theorem Filled.shows_page {header : String}
    (hHeader : Gives s (renderBody s (depth + 3)) p scope
      (.call "include_file" [("path", member "DocumentHeader" [])]) (.string header)) :
    Shows s (renderBody s (depth + 3)) p scope whole.body (r.page header) := by
  have hContents : scope.lookup? s.data ⟨"CreateToc", []⟩ =
      some (.bool !r.options.skipContents) :=
    h.lookup?_of_isBlank hScope (Json.follow?_member rfl)
  have hFooter : scope.lookup? s.data ⟨"SkipVersionFooter", []⟩ =
      some (.bool r.options.skipVersionFooter) :=
    h.lookup?_of_isBlank hScope (Json.follow?_member rfl)
  have hBlank := hScope.inserted
  refine .cons hHeader.shows_string ?_
  refine .cons (shows_whenSet (holds_bool hContents) (.cons (shows_text _) (.cons
    (shows_insert h.standIn.contents (h.shows_contents hBlank).renderBody) .nil))) ?_
  refine .cons (shows_text _) (.cons
    (shows_insert h.standIn.examples (h.shows_examples hBlank).renderBody) ?_)
  refine .cons (shows_text _) (.cons
    (shows_insert h.standIn.values (h.shows_values hBlank).renderBody) ?_)
  refine .cons ((holds_not_bool hFooter).shows_branch (.cons (shows_text _) (.cons
    (shows_insert h.standIn.footer (h.shows_footer hBlank).renderBody) .nil)) .nil) ?_
  exact .cons (shows_text _) .nil

end Showing

/-! ## Pages of documentation -/

theorem gives_include {s : Setting} {callee : Callee} {p : Place} {scope : Scope} {w : Workspace}
    {l : Listing} {name file : String} {path : List String} {chance : Int → Int → Int}
    (hFunctions : s.function? = Reference.functions chance w l)
    (h : scope.lookup? s.data ⟨name, path⟩ = some (.string file)) :
    Gives s callee p scope (.call "include_file" [("path", member name path)])
      (.string (includedText w file)) := by
  have hFile : (outcome s callee p scope (member name path)).value = .ok (.string file) :=
    gives_var h
  rw [Gives, outcome, callFunction, hFunctions, argValues, argValues, hFile]
  rfl

theorem library_defaultText :
    library defaultText = .ok ((templateName, whole) :: BuiltIn.library) := by
  have hRead : parse? defaultText = some whole :=
    parse?_of_mem_readings ("yaml-docs.default", defaultText, whole) (by simp [readings])
  rw [library, hRead]
  rfl

theorem fill_whole (w : Workspace) (l : Listing) (r : Reference) (chance : Int → Int → Int) :
    fill w l ((templateName, whole) :: BuiltIn.library) r.toJson chance =
      .ok (r.page (includedText w r.options.headerFile)) := by
  obtain ⟨data, hData⟩ : ∃ data, r.toJson = .object data := ⟨_, rfl⟩
  let s : Setting := ⟨(templateName, whole) :: BuiltIn.library, functions chance w l, data⟩
  have hFilled : r.Filled s :=
    ⟨standIn_cons whole (by simp [readings, templateName]), hData.symm⟩
  have hScope : IsBlank [{}] := fun name => by simp [Scope.LeavesFree]
  have hPath : Scope.lookup? s.data ⟨"DocumentHeader", []⟩ [{}] =
      some (.string r.options.headerFile) :=
    hFilled.lookup?_of_isBlank hScope (Json.follow?_member rfl)
  have hPage : renderBody s maxDepth ⟨templateName, none⟩ [{}] whole.body = .ok _ :=
    (hFilled.shows_page hScope (gives_include rfl hPath)).renderBody
  have hBody : ((s.library.lookup templateName).map (·.body)).getD [] = whole.body := by
    rw [List.lookup_cons_self]
    rfl
  rw [fill, hData, Library.render, hBody, hPage]
  rfl

end Reference

end ConfigReference
