import ConfigReference.Template.BuiltIn
import ConfigReference.Template.Render

/-!
# The built-in templates as they are read

The bodies and macros that the texts of the built-in templates denote. They are read character by
character, and no part of a text is without a meaning.
-/

set_option autoImplicit false

namespace ConfigReference.Template.BuiltIn

def member (name : String) (path : List String) : Expr := .var ⟨name, path⟩

def whenSet (name : String) (path : List String) (parts : List Part) : Part :=
  .branch (member name path) parts []

/-! ## Macros -/

def htmlTable : MacroDefinition where
  name := "html_table"
  params := [("rows", none)]
  body := [
    .text ("<table>\n\t<thead>\n\t\t<th>Key</th>\n\t\t<th>Type</th>\n\t\t<th>Required</th>\n" ++
      "\t\t<th>Default</th>\n\t\t<th>Description</th>\n\t</thead>\n\t<tbody>"),
    .loop none "row" (member "rows" []) [
      .branch (.not (member "row" ["Hidden"])) [
        .text "\n\t\t<tr>\n\t\t\t<td>", .output (member "row" ["Key"]),
        .text "</td>\n\t\t\t<td>", .output (member "row" ["Type"]),
        .text "</td>\n\t\t\t<td>", .output (member "row" ["Required"]),
        .text "</td>\n\t\t\t<td>",
        .output (.macroCall "self" "default_column" [("row", member "row" [])]),
        .text "</td>\n\t\t\t<td>",
        .branch (member "row" ["Description"]) [.output (member "row" ["Description"])]
          [.output (member "row" ["AutoDescription"])],
        .text "</td>\n\t\t</tr>"] []],
    .text "\n\t</tbody>\n</table>"]

def defaultColumn : MacroDefinition where
  name := "default_column"
  params := [("row", none)]
  body := [
    .branch (member "row" ["Default"]) [.assign "value" (member "row" ["Default"])]
      [.assign "value" (member "row" ["AutoDefault"])],
    .assign "lang" (member "row" ["NotationType"]),
    .branch (.and (.test ⟨"value", []⟩ false "starting_with" [.text "`"])
        (.test ⟨"value", []⟩ false "ending_with" [.text "`"])) [
      .assign "value" (.filter (.filter (.filter (member "value" []) "trim_start_matches"
        [("pat", .text "`")]) "trim_end_matches" [("pat", .text "`")]) "to_pretty_json" []),
      .assign "lang" (.text "json")] [],
    .text "<pre lang=\"", .output (member "lang" []), .text "\">",
    .branch (.equal (member "lang" []) (.text "tpl")) [
      .text "\n", .output (member "row" ["Key"]), .text ": |\n  ", .output (member "value" [])] [
      .text "\n", .output (member "value" [])],
    .text "\n</pre>"]

def headerText : String :=
  "| Key | Type | Required | Default | Description |\n" ++
  "|-----|------|----------|---------|-------------|"

def tableHeader : MacroDefinition where
  name := "table_header"
  params := []
  body := [.text headerText]

def valueRow : MacroDefinition where
  name := "value_row"
  params := [("row", none)]
  body := [
    .text "| ",
    whenSet "row" ["Experimental"]
      [.text "<span style='cursor: help;' title='Experimental'>✨</span> "],
    whenSet "row" ["Deprecated"]
      [.text "<span style='cursor: help;' title='Deprecated'>⚠️</span> "],
    .output (member "row" ["Key"]), .text " | ",
    .output (member "row" ["Type"]), .text " | ",
    .branch (member "row" ["Required"]) [.text "**true**"] [.text "false"], .text " | ",
    .branch (member "row" ["Default"]) [.output (member "row" ["Default"])]
      [.output (member "row" ["AutoDefault"])], .text " | ",
    .branch (member "row" ["Description"]) [.output (member "row" ["Description"])]
      [.output (member "row" ["AutoDescription"])],
    .text " |"]

def tableMacros : Template where
  body := [.text "\n\n", .text "\n\n", .text "\n\n", .text "\n"]
  macros := [htmlTable, defaultColumn, tableHeader, valueRow]

/-! ## Bodies -/

def breakText : String := "\n<div style=\"page-break-after: always;\"></div>\n"

def pageBreak : Template where
  body := [
    .branch (member "Sections" ["DefaultSection", "SectionBreak"]) [.text breakText]
      [.text "\n-----------------\n"],
    .text "\n"]

def linkParts (name : String) (path : List String) : List Part :=
  [.text "- ", .output (.filter (member name path) "to_markdown_link" []), .text "\n"]

def contents : Template where
  body := [
    .insert "config.pageBreak",
    .text "\n\n## Contents\n\n",
    .loop none "section" (member "Sections" ["Sections"]) (linkParts "section" ["SectionName"]),
    whenSet "Sections" ["DefaultSection", "SectionItems"]
      (linkParts "Sections" ["DefaultSection", "SectionName"]),
    .text "\n",
    .insert "config.pageBreak",
    .text "\n"]

def exampleParts (mark : String) : List Part := [
  .text mark, .output (member "example" ["ExampleName"]), .text "\n\n",
  whenSet "example" ["Description"] [.output (member "example" ["Description"]), .text "\n\n"],
  .output (.filter (.filter (member "example" ["CodeBlock"]) "trim_lead" []) "to_yaml_code_block"
    []),
  .text "\n\n"]

def examples : Template where
  body := [
    whenSet "Sections" ["DefaultSection", "Examples"] [
      whenSet "Sections" ["DefaultSection", "SectionItems"] [.text "## Examples"],
      .text "\n\n",
      .loop none "example" (member "Sections" ["DefaultSection", "Examples"])
        (exampleParts "\n### "),
      .text "-----------------\n"]]

def tableParts (name : String) (path : List String) : List Part := [
  .output (.macroCall "macros" "table_header" []),
  .text "\n",
  .loop none "row" (member name path) [
    .branch (.not (member "row" ["Hidden"])) [
      .output (.macroCall "macros" "value_row" [("row", member "row" [])]), .text "\n"] []]]

def sectionParts : List Part :=
  [.text "\n\n### ", .output (member "section" ["SectionName"]), .text "\n\n",
    whenSet "section" ["Description"] [.output (member "section" ["Description"]), .text "\n\n"],
    whenSet "section" ["Examples"] [
      .text "#### Examples\n\n",
      .loop none "example" (member "section" ["Examples"]) (exampleParts "\n##### "),
      .text "#### Values\n\n"]] ++
  tableParts "section" ["SectionItems"] ++
  [whenSet "section" ["SectionBreak"] [.text breakText]]

def table : Template where
  body := [
    .branch (member "Sections" ["Sections"]) [
      .loop none "section" (member "Sections" ["Sections"]) sectionParts,
      whenSet "Sections" ["DefaultSection", "SectionItems"]
        ([.text "\n\n### ", .output (member "Sections" ["DefaultSection", "SectionName"]),
          .text "\n\n"] ++ tableParts "Sections" ["DefaultSection", "SectionItems"])]
      (tableParts "Values" [])]
  imports := [("config.macros", "macros")]

def values : Template where
  body := [
    .branch (.and (member "Sections" ["DefaultSection", "SectionItems"])
      (member "Sections" ["DefaultSection", "Examples"])) [.text "## Values"] [],
    whenSet "Values" [] [.text "\n\n", .insert "config.valuesTable"],
    .text "\n"]

def footer : Template where
  body := [
    whenSet "YamlDocsVersion" [] [
      .text ("\n-----------------\n" ++
        "Autogenerated from configuration metadata using [yaml-docs v"),
      .output (member "YamlDocsVersion" []),
      .text "](https://github.com/blakyaks/yaml-docs/releases/v",
      .output (member "YamlDocsVersion" []),
      .text ")\n"]]

def whole : Template where
  body := [
    .output (.call "include_file" [("path", member "DocumentHeader" [])]),
    whenSet "CreateToc" [] [.text "\n", .insert "config.sectionToc"],
    .text "\n", .insert "config.examplesSection",
    .text "\n", .insert "config.valuesSection",
    .branch (.not (member "SkipVersionFooter" []))
      [.text "\n", .insert "yaml-docs.versionFooter"] [],
    .text "\n"]

/-! ## Reading the texts -/

/-- The names and texts of built-in templates, and what is read. -/
def readings : List (String × String × Template) := [
  ("config.macros", macrosText, tableMacros), ("config.pageBreak", pageBreakText, pageBreak),
  ("config.sectionToc", contentsText, contents), ("config.examplesSection", examplesText, examples),
  ("config.valuesTable", tableText, table), ("config.valuesSection", valuesText, values),
  ("yaml-docs.versionFooter", footerText, footer), ("yaml-docs.default", defaultText, whole)]

set_option maxRecDepth 100000 in
theorem parse?_of_mem_readings : ∀ e ∈ readings, parse? e.2.1 = some e.2.2 := by
  simp only [readings, List.forall_mem_cons]
  refine ⟨?_, ?_, ?_, ?_, ?_, ?_, ?_, ?_, List.forall_mem_nil _⟩
  all_goals
    -- Characters are read much faster than texts, so the lines are turned into lists of them.
    simp only [parse?, macrosText, pageBreakText, contentsText, examplesText, tableText, valuesText,
      footerText, defaultText, source, List.flatMap_cons, List.flatMap_nil, String.toList_append,
      String.toList_ofList]
    repeat rw [String.toList_ofList]
    rfl

theorem lookup_sources_of_mem_readings : ∀ e ∈ readings, sources.lookup e.1 = some e.2.1 := by
  simp only [readings, List.forall_mem_cons]
  refine ⟨?_, ?_, ?_, ?_, ?_, ?_, ?_, ?_, List.forall_mem_nil _⟩
  all_goals simp [sources, List.lookup_cons]

theorem lookup_filterMap_parse? {sources : List (String × String)} {name text : String}
    {t : Template} (h : sources.lookup name = some text) (hText : parse? text = some t) :
    (sources.filterMap fun (name, text) => (parse? text).map (name, ·)).lookup name = some t := by
  induction sources with
  | nil => cases h
  | cons source rest ih =>
    obtain ⟨first, firstText⟩ := source
    by_cases hName : name = first
    · subst hName
      rw [List.lookup_cons_self] at h
      obtain rfl := Option.some.inj h
      simp [hText]
    · have hBeq : (name == first) = false := by simpa using hName
      rw [List.lookup_cons, hBeq] at h
      cases hFirst : parse? firstText with
      | none =>
        rw [List.filterMap_cons_none (by simp [hFirst])]
        exact ih h
      | some u =>
        rw [List.filterMap_cons_some (b := (first, u)) (by simp [hFirst]), List.lookup_cons, hBeq]
        exact ih h

theorem lookup_library : ∀ e ∈ readings, library.lookup e.1 = some e.2.2 := fun e he =>
  lookup_filterMap_parse? (lookup_sources_of_mem_readings e he) (parse?_of_mem_readings e he)

/-- The built-in templates are found under their names. -/
structure StandIn (templates : Library) : Prop where
  macros : templates.lookup "config.macros" = some tableMacros
  pageBreak : templates.lookup "config.pageBreak" = some pageBreak
  contents : templates.lookup "config.sectionToc" = some contents
  examples : templates.lookup "config.examplesSection" = some examples
  table : templates.lookup "config.valuesTable" = some table
  values : templates.lookup "config.valuesSection" = some values
  footer : templates.lookup "yaml-docs.versionFooter" = some footer

theorem standIn_cons {name : String} (t : Template) (h : ∀ e ∈ readings, e.1 ≠ name) :
    StandIn ((name, t) :: library) := by
  have hLookup : ∀ e ∈ readings, ((name, t) :: library).lookup e.1 = some e.2.2 := by
    intro e he
    have hBeq : (e.1 == name) = false := by simpa using h e he
    rw [List.lookup_cons, hBeq]
    exact lookup_library e he
  simp only [readings, List.forall_mem_cons] at hLookup
  obtain ⟨hMacros, hBreak, hContents, hExamples, hTable, hValues, hFooter, -⟩ := hLookup
  exact ⟨hMacros, hBreak, hContents, hExamples, hTable, hValues, hFooter⟩

end ConfigReference.Template.BuiltIn
