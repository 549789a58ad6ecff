import ConfigReference.Text.Line

/-!
# Key paths

The dotted paths under which values are described and listed, such as `env[0]."a.b".port`.
-/

set_option autoImplicit false

namespace ConfigReference.KeyPath

/-- Keys with a dot or a blank are put in quotes. -/
def quote (key : List Char) : List Char :=
  if key.contains '.' || key.contains ' ' then '"' :: key ++ ['"'] else key

def childChars (base key : List Char) : List Char :=
  if base.isEmpty then quote key else base ++ '.' :: quote key

def child (base key : String) : String := .ofList (childChars base.toList key.toList)

def itemChars (base : List Char) (index : Nat) : List Char :=
  base ++ '[' :: Text.natDigits index ++ [']']

def item (base : String) (index : Nat) : String := .ofList (itemChars base.toList index)

end ConfigReference.KeyPath
