import ConfigReference.Text.Blank
import ConfigReference.Text.Letter

/-!
# Anchors

The names under which the headings of a page can be linked to.
-/

set_option autoImplicit false

namespace ConfigReference.Markdown

def isAnchorChar (c : Char) : Bool :=
  Text.isAlphanumeric c || c == ' ' || c == '-' || c == '_'

def hyphenate (c : Char) : Char := if c == ' ' then '-' else c

/-- The anchor of a heading: lower case, without punctuation, hyphens for spaces. -/
def anchor (heading : String) : String :=
  .ofList (((Text.lower (Text.trim heading.toList)).filter isAnchorChar).map hyphenate)

def link (heading : String) : String := "[" ++ heading ++ "](#" ++ anchor heading ++ ")"

end ConfigReference.Markdown
