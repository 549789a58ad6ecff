import ConfigReference.KeyedMap

/-!
# Descriptions

What a comment block says about a value.
-/

set_option autoImplicit false

namespace ConfigReference

structure Description where
  text : String := ""
  /-- The default to show instead of the value. -/
  defaultText : String := ""
  sectionName : String := ""
  sectionText : String := ""
  /-- The type that stands in parentheses in front of the text. -/
  typeLabel : String := ""
  notationType : String := ""
  exampleName : String := ""
  exampleText : String := ""
  exampleCode : String := ""
  hidden : Bool := false
  required : Bool := false
  deprecated : Bool := false
  experimental : Bool := false
  deriving DecidableEq, Inhabited, Repr

abbrev Descriptions := KeyedMap Description

end ConfigReference
