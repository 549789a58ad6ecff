import ConfigReference.Text.Blank
import ConfigReference.Yaml.Data
import ConfigReference.Yaml.Data.ScalarText

/-!
# Printing YAML

Block style throughout. The items of a sequence stand at the column of the key they belong to, and
other nested collections two columns to the right. The first line of what is printed goes on where
it begins, and the other lines hold their indentation.
-/

set_option autoImplicit false

namespace ConfigReference.Yaml.Data

def pad (column : Nat) (line : List Char) : List Char := List.replicate column ' ' ++ line

def behind (lead : List Char) : List (List Char) → List (List Char)
  | [] => [lead]
  | first :: rest => (lead ++ first) :: rest

def word? : Data → Option (List Char)
  | null => some "null".toList
  | bool b => some (if b then "true" else "false").toList
  | int n => some (toString n).toList
  | float x => some (ScalarText.float x)
  | sequence [] => some "[]".toList
  | mapping [] => some ['\x7b', '\x7d']
  | _ => none

def simpleKey? : Data → Option (List Char)
  | string s =>
    if s.utf8ByteSize ≤ 128 && !s.toList.any ScalarText.isLineBreak then
      some ((ScalarText.lines true 0 s).headD [])
    else none
  | d => d.word?

mutual

/-- A value behind something on its line. Collections have their lines at `column`, and lines of
text begin at `indent`. -/
def linesAt (column indent : Nat) : Data → List (List Char)
  | string s => ScalarText.lines false indent s
  | sequence (item :: rest) => itemLines column (item :: rest)
  | mapping (e :: rest) => entryLines column (e :: rest)
  | d => [(word? d).getD []]

def itemLines (column : Nat) : List Data → List (List Char)
  | [] => []
  | [item] => behind ['-', ' '] (linesAt (column + 2) (column + 2) item)
  | item :: rest =>
    behind ['-', ' '] (linesAt (column + 2) (column + 2) item)
      ++ behind (List.replicate column ' ') (itemLines column rest)

def entryLines (column : Nat) : List (Data × Data) → List (List Char)
  | [] => []
  | [(key, value)] =>
    match key.simpleKey? with
    | some k => behind (k ++ [':']) (valueLines column value)
    | none =>
      behind ['?', ' '] (linesAt (column + 2) (column + 2) key)
        ++ behind (pad column [':', ' ']) (linesAt (column + 2) (column + 2) value)
  | (key, value) :: rest =>
    (match key.simpleKey? with
      | some k => behind (k ++ [':']) (valueLines column value)
      | none =>
        behind ['?', ' '] (linesAt (column + 2) (column + 2) key)
          ++ behind (pad column [':', ' ']) (linesAt (column + 2) (column + 2) value))
      ++ behind (List.replicate column ' ') (entryLines column rest)

def valueLines (column : Nat) : Data → List (List Char)
  | string s => behind [' '] (ScalarText.lines false (column + 2) s)
  | sequence (item :: rest) =>
    [] :: behind (List.replicate column ' ') (itemLines column (item :: rest))
  | mapping (e :: rest) =>
    [] :: behind (List.replicate (column + 2) ' ') (entryLines (column + 2) (e :: rest))
  | d => [' ' :: (word? d).getD []]

end

def render (d : Data) : String :=
  String.ofList ((linesAt 0 2 d).flatMap (· ++ ['\n']))

def renderTrimmed (d : Data) : String :=
  String.ofList (d.render.toList.reverse.dropWhile (· == '\n')).reverse

end ConfigReference.Yaml.Data
