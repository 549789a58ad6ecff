/-!
# Spacing

Spaces before line ends are dropped, and no more than one blank line is kept in a row.
-/

set_option autoImplicit false

namespace ConfigReference.Markdown

def dropLineEndSpaces : List Char → List Char
  | [] => []
  | c :: rest =>
    let rest := dropLineEndSpaces rest
    if c == ' ' && rest.head? == some '\n' then rest else c :: rest

/-- Three and more line feeds in a row become two. -/
def collapseBlankLines : List Char → List Char
  | [] => []
  | c :: rest =>
    let rest := collapseBlankLines rest
    if c == '\n' && rest.take 2 == ['\n', '\n'] then rest else c :: rest

def formatChars (s : List Char) : List Char := collapseBlankLines (dropLineEndSpaces s)

def format (page : String) : String := .ofList (formatChars page.toList)

end ConfigReference.Markdown
