import ConfigReference.Documentation
import ConfigReference.RenderOptions

/-!
# Data of a reference

The object that the templates of a reference show.
-/

set_option autoImplicit false

namespace ConfigReference

def Description.toJson (d : Description) : Json :=
  .ofMembers [("Description", .string d.text), ("Default", .string d.defaultText),
    ("Section", .string d.sectionName), ("SectionDescription", .string d.sectionText),
    ("ValueType", .string d.typeLabel), ("NotationType", .string d.notationType),
    ("ExampleName", .string d.exampleName), ("ExampleDescription", .string d.exampleText),
    ("Example", .string d.exampleCode), ("Hidden", .bool d.hidden),
    ("Required", .bool d.required), ("Deprecated", .bool d.deprecated),
    ("Experimental", .bool d.experimental)]

def Descriptions.toJson (ds : Descriptions) : Json :=
  .object (ds.entries.map fun (key, d) => (key, d.toJson))

def Row.toJson (r : Row) : Json :=
  .ofMembers [("Key", .string r.key), ("Type", .string r.typeName),
    ("NotationType", .string r.notationType), ("Default", .string r.defaultText),
    ("AutoDefault", .string r.autoDefault), ("Description", .string r.text),
    ("AutoDescription", .string r.autoText), ("Section", .string r.sectionName),
    ("SectionDescription", .string r.sectionText), ("AutoSection", .string r.autoSection),
    ("AutoSectionDescription", .string r.autoSectionText),
    ("ExampleName", .string r.exampleName), ("ExampleDescription", .string r.exampleText),
    ("Example", .string r.exampleCode), ("Column", .nat r.column), ("LineNumber", .nat r.line),
    ("Hidden", .bool r.hidden), ("Required", .bool r.required),
    ("Deprecated", .bool r.deprecated), ("Experimental", .bool r.experimental)]

def Example.toJson (e : Example) : Json :=
  .ofMembers [("ExampleName", .string e.name), ("Description", .string e.text),
    ("CodeBlock", .string e.code)]

def Section.toJson (s : Section) : Json :=
  .ofMembers [("SectionName", .string s.name), ("Description", .string s.text),
    ("SectionItems", .array (s.rows.map Row.toJson)),
    ("Examples", .array (s.examples.map Example.toJson)), ("SectionBreak", .bool s.pageBreak)]

def Sections.toJson (s : Sections) : Json :=
  .ofMembers [("DefaultSection", s.unnamed.toJson),
    ("Sections", .array (s.named.map Section.toJson))]

structure Reference where
  info : Documentation
  version : String
  rows : List Row
  sections : Sections
  options : RenderOptions

namespace Reference

def ofDocumentation (options : RenderOptions) (version : String) (info : Documentation) :
    Except NotAMapping Reference := do
  let rows ← Yaml.Node.rows info.values info.descriptions
  let (rows, sections) := options.arrangement.organize rows
  return { info, version, rows, sections, options }

def toJson (r : Reference) : Json :=
  .ofMembers [
    ("DocumentationInfo", .ofMembers [("ConfigPath", .string r.info.configPath),
      ("ValuesDescriptions", r.info.descriptions.toJson)]),
    ("ConfigPath", .string r.info.configPath), ("YamlDocsVersion", .string r.version),
    ("Values", .array (r.rows.map Row.toJson)), ("Sections", r.sections.toJson),
    ("SkipVersionFooter", .bool r.options.skipVersionFooter),
    ("DocumentHeader", .string r.options.headerFile),
    ("CreateToc", .bool !r.options.skipContents)]

end Reference

end ConfigReference
