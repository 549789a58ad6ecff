import ConfigReference.Template.Reader

/-!
# Built-in templates

The templates of a reference: one for the whole of it, and those that it inserts. Any template can
insert them by name.
-/

set_option autoImplicit false

namespace ConfigReference.Template.BuiltIn

/-- The text of some lines in which angles stand for braces. -/
def source (lines : List String) : String :=
  .ofList (lines.flatMap fun line => line.toList.map brace ++ ['\n'])
where
  brace (c : Char) : Char := if c = '⟨' then '{' else if c = '⟩' then '}' else c

def macrosText : String := source [
  "⟨% macro value_row(row) -%⟩",
  "| ⟨% if row.Experimental %⟩<span style='cursor: help;' title='Experimental'>✨</span>" ++
    " ⟨% endif %⟩⟨% if row.Deprecated %⟩<span style='cursor: help;'" ++
    " title='Deprecated'>⚠️</span> ⟨% endif %⟩⟨⟨ row.Key ⟩⟩ | ⟨⟨ row.Type ⟩⟩ | ⟨% if" ++
    " row.Required %⟩**true**⟨% else %⟩false⟨% endif %⟩ | ⟨% if row.Default %⟩⟨⟨" ++
    " row.Default ⟩⟩⟨% else %⟩⟨⟨ row.AutoDefault ⟩⟩⟨% endif %⟩ | ⟨% if row.Description" ++
    " %⟩⟨⟨ row.Description ⟩⟩⟨% else %⟩⟨⟨ row.AutoDescription ⟩⟩⟨% endif %⟩ |",
  "⟨%- endmacro value_row %⟩",
  "",
  "⟨% macro table_header() -%⟩",
  "| Key | Type | Required | Default | Description |",
  "|-----|------|----------|---------|-------------|",
  "⟨%- endmacro table_header %⟩",
  "",
  "⟨% macro default_column(row) -%⟩",
  "⟨%- if row.Default %⟩⟨% set value = row.Default %⟩⟨% else %⟩⟨% set value =" ++
    " row.AutoDefault %⟩⟨% endif -%⟩",
  "⟨%- set lang = row.NotationType -%⟩",
  "⟨%- if value is starting_with(\"`\") and value is ending_with(\"`\") -%⟩",
  "⟨%- set value = value | trim_start_matches(pat=\"`\") | trim_end_matches(pat=\"`\") |" ++
    " to_pretty_json -%⟩",
  "⟨%- set lang = \"json\" -%⟩",
  "⟨%- endif -%⟩",
  "<pre lang=\"⟨⟨ lang ⟩⟩\">",
  "⟨%- if lang == \"tpl\" %⟩",
  "⟨⟨ row.Key ⟩⟩: |",
  "  ⟨⟨ value ⟩⟩",
  "⟨%- else %⟩",
  "⟨⟨ value ⟩⟩",
  "⟨%- endif %⟩",
  "</pre>",
  "⟨%- endmacro default_column %⟩",
  "",
  "⟨% macro html_table(rows) -%⟩",
  "<table>",
  "\t<thead>",
  "\t\t<th>Key</th>",
  "\t\t<th>Type</th>",
  "\t\t<th>Required</th>",
  "\t\t<th>Default</th>",
  "\t\t<th>Description</th>",
  "\t</thead>",
  "\t<tbody>",
  "\t⟨%- for row in rows %⟩",
  "\t⟨%- if not row.Hidden %⟩",
  "\t\t<tr>",
  "\t\t\t<td>⟨⟨ row.Key ⟩⟩</td>",
  "\t\t\t<td>⟨⟨ row.Type ⟩⟩</td>",
  "\t\t\t<td>⟨⟨ row.Required ⟩⟩</td>",
  "\t\t\t<td>⟨⟨ self::default_column(row=row) ⟩⟩</td>",
  "\t\t\t<td>⟨% if row.Description %⟩⟨⟨ row.Description ⟩⟩⟨% else %⟩⟨⟨" ++
    " row.AutoDescription ⟩⟩⟨% endif %⟩</td>",
  "\t\t</tr>",
  "\t⟨%- endif %⟩",
  "\t⟨%- endfor %⟩",
  "\t</tbody>",
  "</table>",
  "⟨%- endmacro html_table %⟩"]

def pageBreakText : String := source [
  "⟨% if Sections.DefaultSection.SectionBreak %⟩",
  "<div style=\"page-break-after: always;\"></div>",
  "⟨% else %⟩",
  "-----------------",
  "⟨% endif %⟩"]

def contentsText : String := source [
  "⟨% include \"config.pageBreak\" %⟩",
  "",
  "## Contents",
  "",
  "⟨% for section in Sections.Sections -%⟩",
  "- ⟨⟨ section.SectionName | to_markdown_link ⟩⟩",
  "⟨% endfor -%⟩",
  "⟨% if Sections.DefaultSection.SectionItems -%⟩",
  "- ⟨⟨ Sections.DefaultSection.SectionName | to_markdown_link ⟩⟩",
  "⟨% endif %⟩",
  "⟨% include \"config.pageBreak\" %⟩"]

def examplesText : String := source [
  "⟨% if Sections.DefaultSection.Examples -%⟩",
  "⟨% if Sections.DefaultSection.SectionItems %⟩## Examples⟨% endif %⟩",
  "",
  "⟨% for example in Sections.DefaultSection.Examples %⟩",
  "### ⟨⟨ example.ExampleName ⟩⟩",
  "",
  "⟨% if example.Description %⟩⟨⟨ example.Description ⟩⟩",
  "",
  "⟨% endif -%⟩",
  "⟨⟨ example.CodeBlock | trim_lead | to_yaml_code_block ⟩⟩",
  "",
  "⟨% endfor -%⟩",
  "-----------------",
  "⟨% endif -%⟩"]

def tableText : String := source [
  "⟨% import \"config.macros\" as macros -%⟩",
  "⟨% if Sections.Sections -%⟩",
  "⟨% for section in Sections.Sections %⟩",
  "",
  "### ⟨⟨ section.SectionName ⟩⟩",
  "",
  "⟨% if section.Description %⟩⟨⟨ section.Description ⟩⟩",
  "",
  "⟨% endif -%⟩",
  "⟨% if section.Examples -%⟩",
  "#### Examples",
  "",
  "⟨% for example in section.Examples %⟩",
  "##### ⟨⟨ example.ExampleName ⟩⟩",
  "",
  "⟨% if example.Description %⟩⟨⟨ example.Description ⟩⟩",
  "",
  "⟨% endif -%⟩",
  "⟨⟨ example.CodeBlock | trim_lead | to_yaml_code_block ⟩⟩",
  "",
  "⟨% endfor -%⟩",
  "#### Values",
  "",
  "⟨% endif -%⟩",
  "⟨⟨ macros::table_header() ⟩⟩",
  "⟨% for row in section.SectionItems -%⟩",
  "⟨% if not row.Hidden -%⟩",
  "⟨⟨ macros::value_row(row=row) ⟩⟩",
  "⟨% endif -%⟩",
  "⟨% endfor -%⟩",
  "⟨% if section.SectionBreak %⟩",
  "<div style=\"page-break-after: always;\"></div>",
  "⟨% endif -%⟩",
  "⟨% endfor -%⟩",
  "⟨% if Sections.DefaultSection.SectionItems %⟩",
  "",
  "### ⟨⟨ Sections.DefaultSection.SectionName ⟩⟩",
  "",
  "⟨⟨ macros::table_header() ⟩⟩",
  "⟨% for row in Sections.DefaultSection.SectionItems -%⟩",
  "⟨% if not row.Hidden -%⟩",
  "⟨⟨ macros::value_row(row=row) ⟩⟩",
  "⟨% endif -%⟩",
  "⟨% endfor -%⟩",
  "⟨% endif -%⟩",
  "⟨% else -%⟩",
  "⟨⟨ macros::table_header() ⟩⟩",
  "⟨% for row in Values -%⟩",
  "⟨% if not row.Hidden -%⟩",
  "⟨⟨ macros::value_row(row=row) ⟩⟩",
  "⟨% endif -%⟩",
  "⟨% endfor -%⟩",
  "⟨% endif -%⟩"]

def valuesText : String := source [
  "⟨% if Sections.DefaultSection.SectionItems and Sections.DefaultSection.Examples %⟩##" ++
    " Values⟨% endif %⟩",
  "⟨%- if Values %⟩",
  "",
  "⟨% include \"config.valuesTable\" %⟩",
  "⟨%- endif %⟩"]

def htmlText : String := source [
  "⟨% import \"config.macros\" as macros -%⟩",
  "⟨% if Values %⟩",
  "## Values",
  "",
  "⟨% for section in Sections.Sections -%⟩",
  "<h3>⟨⟨ section.SectionName ⟩⟩</h3>",
  "⟨⟨ macros::html_table(rows=section.SectionItems) ⟩⟩",
  "⟨% endfor -%⟩",
  "⟨% if Sections.DefaultSection.SectionItems -%⟩",
  "<h3>⟨⟨ Sections.DefaultSection.SectionName ⟩⟩</h3>",
  "⟨⟨ macros::html_table(rows=Sections.DefaultSection.SectionItems) ⟩⟩",
  "⟨% endif -%⟩",
  "⟨% endif -%⟩"]

def footerText : String := source [
  "⟨% if YamlDocsVersion %⟩",
  "-----------------",
  "Autogenerated from configuration metadata using [yaml-docs v⟨⟨ YamlDocsVersion" ++
    " ⟩⟩](https://github.com/blakyaks/yaml-docs/releases/v⟨⟨ YamlDocsVersion ⟩⟩)",
  "⟨% endif -%⟩"]

def defaultText : String := source [
  "⟨⟨ include_file(path=DocumentHeader) ⟩⟩",
  "⟨%- if CreateToc %⟩",
  "⟨% include \"config.sectionToc\" %⟩",
  "⟨%- endif %⟩",
  "⟨% include \"config.examplesSection\" %⟩",
  "⟨% include \"config.valuesSection\" %⟩",
  "⟨%- if not SkipVersionFooter %⟩",
  "⟨% include \"yaml-docs.versionFooter\" %⟩",
  "⟨%- endif %⟩"]

def sources : List (String × String) := [
  ("config.macros", macrosText),
  ("config.pageBreak", pageBreakText),
  ("config.sectionToc", contentsText),
  ("config.examplesSection", examplesText),
  ("config.valuesTable", tableText),
  ("config.valuesSection", valuesText),
  ("config.valuesSectionHtml", htmlText),
  ("yaml-docs.versionFooter", footerText),
  ("yaml-docs.default", defaultText)]

def library : List (String × Template) :=
  sources.filterMap fun (name, text) => (Template.parse? text).map (name, ·)

end ConfigReference.Template.BuiltIn
