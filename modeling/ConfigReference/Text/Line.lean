/-!
# Lines and substitution

Cutting text into lines, and replacing one text by another inside a third.
-/

set_option autoImplicit false

namespace ConfigReference.Text

def dropCarriageReturn (s : List Char) : List Char :=
  if s.getLast? = some '\r' then s.dropLast else s

/-- The lines of a text. A line ends at a line feed, which may follow a carriage return; text after
the last line feed is a line unless it is empty. -/
def lines (s : List Char) : List (List Char) :=
  let pieces := s.splitOn '\n'
  pieces.dropLast.map dropCarriageReturn ++ pieces.getLast?.toList.filter (· ≠ [])

theorem not_mem_of_mem_splitOn {sep : Char} {s piece : List Char} (h : piece ∈ s.splitOn sep) :
    sep ∉ piece := by
  induction s generalizing piece with
  | nil =>
    obtain rfl : piece = [] := by simpa using h
    simp
  | cons c rest ih =>
    rw [List.splitOn_cons_eq_if_modifyHead] at h
    split at h
    · rcases List.mem_cons.mp h with rfl | hRest
      · simp
      · exact ih hRest
    · rename_i hNe
      cases hPieces : rest.splitOn sep with
      | nil => exact absurd hPieces (List.splitOn_ne_nil _ _)
      | cons first others =>
        rw [hPieces] at h ih
        rcases List.mem_cons.mp h with rfl | hOther
        · have hFirst : sep ∉ first := ih List.mem_cons_self
          have hSep : ¬sep = c := fun hEq => hNe (by simp [hEq])
          simp [hSep, hFirst]
        · exact ih (List.mem_cons_of_mem _ hOther)

def contains (part : List Char) : List Char → Bool
  | [] => part.isEmpty
  | c :: rest => part.isPrefixOf (c :: rest) || contains part rest

/-- Replace what `old` matches from the left on, after `skip` characters of the match before. -/
def replaceFrom (old new : List Char) : Nat → List Char → List Char
  | _, [] => []
  | skip + 1, _ :: rest => replaceFrom old new skip rest
  | 0, c :: rest =>
    if old.isPrefixOf (c :: rest) then new ++ replaceFrom old new (old.length - 1) rest
    else c :: replaceFrom old new 0 rest

/-- Every occurrence of the non-empty text `old`, taken from the left, becomes `new`. -/
def replaceAll (old new s : List Char) : List Char := replaceFrom old new 0 s

def unifyLineEnds (s : List Char) : List Char := replaceAll ['\r', '\n'] ['\n'] s

def natDigits (n : Nat) : List Char := Nat.toDigits 10 n

def isAsciiDigit (c : Char) : Bool := c.isDigit

/-- The number that decimal digits denote, the value of characters other than digits being
unspecified. -/
def digitsValue (s : List Char) : Nat := s.foldl (fun n c => 10 * n + (c.toNat - 0x30)) 0

end ConfigReference.Text
