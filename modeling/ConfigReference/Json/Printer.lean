import ConfigReference.Decimal.Shortest
import ConfigReference.Json.Value

/-!
# JSON text

Compact text without blanks, and text indented by two blanks a level.
-/

set_option autoImplicit false

namespace ConfigReference.Json

def hexDigit (n : Nat) : Char := Nat.digitChar (n % 16)

def escapeChar (c : Char) : List Char :=
  if c = '"' then ['\\', '"']
  else if c = '\\' then ['\\', '\\']
  else if c = '\n' then ['\\', 'n']
  else if c = '\r' then ['\\', 'r']
  else if c = '\t' then ['\\', 't']
  else if c.toNat = 0x08 then ['\\', 'b']
  else if c.toNat = 0x0C then ['\\', 'f']
  else if c.toNat < 0x20 then ['\\', 'u', '0', '0', hexDigit (c.toNat / 16), hexDigit c.toNat]
  else [c]

def quote (s : List Char) : List Char := '"' :: s.flatMap escapeChar ++ ['"']

def Number.render : Number → List Char
  | .int n => (toString n).toList
  | .float x => Decimal.Layout.signedData.float x

mutual

def renderChars : Json → List Char
  | .null => "null".toList
  | .bool b => (if b then "true" else "false").toList
  | .number n => n.render
  | .string s => quote s.toList
  | .array items => '[' :: renderItems items ++ [']']
  | .object members => '{' :: renderMembers members ++ ['}']

def renderItems : List Json → List Char
  | [] => []
  | [item] => renderChars item
  | item :: rest => renderChars item ++ ',' :: renderItems rest

def renderMembers : List (String × Json) → List Char
  | [] => []
  | [(key, value)] => quote key.toList ++ ':' :: renderChars value
  | (key, value) :: rest =>
    quote key.toList ++ ':' :: renderChars value ++ ',' :: renderMembers rest

end

def render (j : Json) : String := String.ofList j.renderChars

def indent (level : Nat) : List Char := '\n' :: List.replicate (2 * level) ' '

mutual

/-- Indented text, its first line standing at `level`. -/
def prettyChars (level : Nat) : Json → List Char
  | .array [] => ['[', ']']
  | .object [] => ['{', '}']
  | .array items => '[' :: prettyItems (level + 1) items ++ indent level ++ [']']
  | .object members => '{' :: prettyMembers (level + 1) members ++ indent level ++ ['}']
  | .null => "null".toList
  | .bool b => (if b then "true" else "false").toList
  | .number n => n.render
  | .string s => quote s.toList

def prettyItems (level : Nat) : List Json → List Char
  | [] => []
  | [item] => indent level ++ prettyChars level item
  | item :: rest => indent level ++ prettyChars level item ++ ',' :: prettyItems level rest

def prettyMembers (level : Nat) : List (String × Json) → List Char
  | [] => []
  | [(key, value)] => indent level ++ quote key.toList ++ ':' :: ' ' :: prettyChars level value
  | (key, value) :: rest =>
    indent level ++ quote key.toList ++ ':' :: ' ' :: prettyChars level value
      ++ ',' :: prettyMembers level rest

end

def pretty (j : Json) : String := String.ofList (prettyChars 0 j)

end ConfigReference.Json
