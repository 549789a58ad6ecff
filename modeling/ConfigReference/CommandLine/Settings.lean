import ConfigReference.CommandLine.Arguments
import ConfigReference.RenderOptions

/-!
# Settings

The values of all options, given or not.
-/

set_option autoImplicit false

namespace ConfigReference.CommandLine

structure Settings where
  searchRoot : Option String
  configFiles : List String
  templateFiles : List String
  outputFile : String
  outputPattern : String
  separateFiles : Bool
  headerFile : String
  ignoreFile : String
  sortOrder : String
  strict : Bool
  allowedPaths : List String
  allowedPatterns : List String
  describedOnly : Bool
  flatSections : Bool
  skipVersionFooter : Bool
  skipContents : Bool
  noPageBreaks : Bool
  dryRun : Bool
  logLevel : String
  deriving DecidableEq, Repr

namespace Settings

def defaults (name : String) : List String :=
  ((optionRules.find? (·.name = name)).map (·.defaults)).getD []

def ofGiven (given : Given) : Settings :=
  let all (name : String) : List String := (given.get? name).getD (defaults name)
  let one (name : String) : String := ((all name).head?).getD ""
  let flag (name : String) : Bool := one name = "true"
  { searchRoot := (all "config-search-root").head?
    configFiles := all "config-file"
    templateFiles := all "template-files"
    outputFile := one "output-file"
    outputPattern := one "output-file-prefix"
    separateFiles := flag "multiple-output-files"
    headerFile := one "header-file"
    ignoreFile := one "ignore-file"
    sortOrder := one "sort-values-order"
    strict := flag "documentation-strict-mode"
    allowedPaths := all "documentation-strict-ignore-absent"
    allowedPatterns := all "documentation-strict-ignore-absent-regex"
    describedOnly := flag "ignore-non-descriptions"
    flatSections := flag "disable-section-inheritance"
    skipVersionFooter := flag "skip-version-footer"
    skipContents := flag "skip-toc"
    noPageBreaks := flag "no-section-page-breaks"
    dryRun := flag "dry-run"
    logLevel := one "log-level" }

def renderOptions (s : Settings) : RenderOptions where
  templateFiles := s.templateFiles
  outputFile := s.outputFile
  outputPattern := s.outputPattern
  separateFiles := s.separateFiles
  headerFile := s.headerFile
  skipVersionFooter := s.skipVersionFooter
  skipContents := s.skipContents
  dryRun := s.dryRun
  arrangement :=
    { order := RowOrder.ofText s.sortOrder
      describedOnly := s.describedOnly
      inheritSections := !s.flatSections
      pageBreaks := !s.noPageBreaks }

end Settings

end ConfigReference.CommandLine
