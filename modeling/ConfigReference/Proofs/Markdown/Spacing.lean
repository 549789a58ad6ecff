import ConfigReference.Markdown.Spacing
import ConfigReference.Proofs.Text.LineEnds
import Mathlib.Data.List.DropRight

/-!
# Pages in their normal spacing

Formatting drops the spaces before line feeds and then the line feeds before two others. Both are
one rule, under which a character goes where a given text follows it in what is left. A page without
either is left as it is, the second pass does not bring back what the first took out, and no line
loses more than the spaces at its end.
-/

set_option autoImplicit false

namespace ConfigReference

theorem rdropWhile_cons {α : Type} (p : α → Bool) (c : α) (s : List α) :
    (c :: s).rdropWhile p = if s.rdropWhile p = [] ∧ p c = true then [] else c :: s.rdropWhile p := by
  simp only [List.rdropWhile, List.reverse_cons, List.dropWhile_append, List.isEmpty_iff,
    List.reverse_eq_nil_iff]
  by_cases hBlank : s.reverse.dropWhile p = []
  · by_cases hChar : p c = true <;> simp [hBlank, hChar]
  · simp [hBlank]

namespace Markdown

/-! ## Dropping a character before a text -/

/-- Drop each `c` that `ahead` follows in what is left of the text behind it. -/
def dropBefore (c : Char) (ahead : List Char) : List Char → List Char
  | [] => []
  | d :: rest =>
    let rest := dropBefore c ahead rest
    if d = c ∧ ahead <+: rest then rest else d :: rest

section

variable {c : Char} {ahead : List Char}

theorem not_infix_dropBefore (s : List Char) : ¬c :: ahead <:+: dropBefore c ahead s := by
  induction s with
  | nil => simp [dropBefore]
  | cons d rest ih =>
    rw [dropBefore]
    split
    · exact ih
    · rename_i hKept
      rw [List.infix_cons_iff, List.cons_prefix_cons]
      rintro (⟨hChar, hAhead⟩ | hBelow)
      · exact hKept ⟨hChar.symm, hAhead⟩
      · exact ih hBelow

theorem dropBefore_eq_self_iff {s : List Char} :
    dropBefore c ahead s = s ↔ ¬c :: ahead <:+: s := by
  constructor
  · intro h
    rw [← h]
    exact not_infix_dropBefore s
  · intro hFree
    induction s with
    | nil => rfl
    | cons d rest ih =>
      rw [List.infix_cons_iff, not_or, List.cons_prefix_cons] at hFree
      obtain ⟨hHere, hBelow⟩ := hFree
      rw [dropBefore, ih hBelow, if_neg fun h => hHere ⟨h.1.symm, h.2⟩]

theorem head?_dropBefore (more s : List Char) :
    (dropBefore c (c :: more) s).head? = s.head? := by
  cases s with
  | nil => rfl
  | cons d rest =>
    rw [dropBefore]
    split
    · rename_i hDropped
      obtain ⟨rfl, after, hRest⟩ := hDropped
      rw [← hRest]
      rfl
    · rfl

theorem not_pair_infix_dropBefore {a b : Char} {more s : List Char} (hFree : ¬[a, b] <:+: s) :
    ¬[a, b] <:+: dropBefore c (c :: more) s := by
  induction s with
  | nil => exact hFree
  | cons d rest ih =>
    rw [List.infix_cons_iff, not_or] at hFree
    rw [dropBefore]
    split
    · exact ih hFree.2
    · rw [List.infix_cons_iff]
      rintro (hHere | hBelow)
      · obtain ⟨rfl, hNext⟩ := List.cons_prefix_cons.mp hHere
        have hHead : rest.head? = some b := by
          obtain ⟨after, hRest⟩ := hNext
          rw [← head?_dropBefore, ← hRest]
          rfl
        obtain ⟨after, rfl⟩ := List.head?_eq_some_iff.mp hHead
        exact hFree.1 ⟨after, rfl⟩
      · exact ih hFree.2 hBelow

end

theorem dropLineEndSpaces_eq (s : List Char) : dropLineEndSpaces s = dropBefore ' ' ['\n'] s := by
  induction s with
  | nil => rfl
  | cons c rest ih =>
    rw [dropLineEndSpaces, dropBefore, ih]
    refine ite_congr (propext ?_) (fun _ => rfl) fun _ => rfl
    rw [Bool.and_eq_true, beq_iff_eq, beq_iff_eq, List.head?_eq_some_iff]
    refine and_congr_right fun _ => ⟨?_, ?_⟩ <;> rintro ⟨after, h⟩ <;> exact ⟨after, h.symm⟩

theorem collapseBlankLines_eq (s : List Char) :
    collapseBlankLines s = dropBefore '\n' ['\n', '\n'] s := by
  induction s with
  | nil => rfl
  | cons c rest ih =>
    rw [collapseBlankLines, dropBefore, ih]
    refine ite_congr (propext ?_) (fun _ => rfl) fun _ => rfl
    rw [Bool.and_eq_true, beq_iff_eq, beq_iff_eq, List.prefix_iff_eq_take, eq_comm (a := _ :: _)]
    rfl

/-! ## The lines of a page -/

def withoutEndSpaces (line : List Char) : List Char := line.rdropWhile (· == ' ')

/-- The lines without the spaces at their ends, apart from those that are blank. -/
def contentOf (lines : List (List Char)) : List (List Char) :=
  (lines.map withoutEndSpaces).filter (· ≠ [])

def contentLines (s : List Char) : List (List Char) := contentOf (s.splitOn '\n')

theorem withoutEndSpaces_cons_congr {line other : List Char} (c : Char)
    (h : withoutEndSpaces line = withoutEndSpaces other) :
    withoutEndSpaces (c :: line) = withoutEndSpaces (c :: other) := by
  simp only [withoutEndSpaces] at h ⊢
  rw [rdropWhile_cons, rdropWhile_cons, h]

theorem map_withoutEndSpaces_dropLineEndSpaces (s : List Char) :
    ((dropLineEndSpaces s).splitOn '\n').map withoutEndSpaces =
      (s.splitOn '\n').map withoutEndSpaces := by
  rw [dropLineEndSpaces_eq]
  induction s with
  | nil => rfl
  | cons c rest ih =>
    obtain ⟨line, others, hLines⟩ := List.exists_cons_of_ne_nil (List.splitOn_ne_nil '\n' rest)
    rw [dropBefore]
    split
    · rename_i hDropped
      obtain ⟨rfl, after, hRest⟩ := hDropped
      -- The line that loses a space in front of its end has nothing but spaces there.
      rw [← hRest, List.singleton_append, Text.splitOn_feed, hLines, List.map_cons,
        List.map_cons, List.cons.injEq] at ih
      obtain ⟨hLine, hOthers⟩ := ih
      rw [← hRest, List.singleton_append, Text.splitOn_feed, Text.splitOn_cons (by decide), hLines,
        List.modifyHead_cons, List.map_cons, List.map_cons, hOthers,
        withoutEndSpaces_cons_congr ' ' hLine.symm]
      rfl
    · by_cases hFeed : c = '\n'
      · rw [hFeed, Text.splitOn_feed, Text.splitOn_feed, List.map_cons, List.map_cons, ih]
      · obtain ⟨line', others', hLines'⟩ := List.exists_cons_of_ne_nil
          (List.splitOn_ne_nil '\n' (dropBefore ' ' ['\n'] rest))
        rw [hLines, hLines', List.map_cons, List.map_cons, List.cons.injEq] at ih
        rw [Text.splitOn_cons hFeed, Text.splitOn_cons hFeed, hLines, hLines',
          List.modifyHead_cons, List.modifyHead_cons, List.map_cons, List.map_cons, ih.2,
          withoutEndSpaces_cons_congr c ih.1]

theorem exists_splitOn_collapseBlankLines (s : List Char) :
    ∃ line others others', s.splitOn '\n' = line :: others ∧
      (collapseBlankLines s).splitOn '\n' = line :: others' ∧
      contentOf others' = contentOf others := by
  rw [collapseBlankLines_eq]
  induction s with
  | nil => exact ⟨[], [], [], rfl, rfl, rfl⟩
  | cons c rest ih =>
    obtain ⟨line, others, others', hLines, hLines', hContent⟩ := ih
    rw [dropBefore]
    split
    · rename_i hDropped
      obtain ⟨rfl, after, hRest⟩ := hDropped
      rw [← hRest, List.cons_append, Text.splitOn_feed] at hLines'
      obtain ⟨rfl, rfl⟩ := List.cons.inj hLines'
      refine ⟨[], [] :: others, _, by rw [Text.splitOn_feed, hLines], ?_, hContent⟩
      rw [← hRest, List.cons_append, Text.splitOn_feed]
    · by_cases hFeed : c = '\n'
      · refine ⟨[], line :: others, line :: others', ?_, ?_, ?_⟩
        · rw [hFeed, Text.splitOn_feed, hLines]
        · rw [hFeed, Text.splitOn_feed, hLines']
        · simp only [contentOf, List.map_cons, List.filter_cons] at hContent ⊢
          rw [hContent]
      · refine ⟨c :: line, others, others', ?_, ?_, hContent⟩
        · rw [Text.splitOn_cons hFeed, hLines, List.modifyHead_cons]
        · rw [Text.splitOn_cons hFeed, hLines', List.modifyHead_cons]

theorem contentLines_formatChars (s : List Char) :
    contentLines (formatChars s) = contentLines s := by
  obtain ⟨line, others, others', hLines, hLines', hContent⟩ :=
    exists_splitOn_collapseBlankLines (dropLineEndSpaces s)
  have hCollapsed : contentLines (formatChars s) = contentLines (dropLineEndSpaces s) := by
    rw [contentLines, contentLines, formatChars, hLines, hLines']
    simp only [contentOf, List.map_cons, List.filter_cons] at hContent ⊢
    rw [hContent]
  rw [hCollapsed, contentLines, contentLines, contentOf, contentOf,
    map_withoutEndSpaces_dropLineEndSpaces]

/-! ## The normal spacing -/

/-- No space stands before a line end, and no two blank lines follow each other. -/
structure IsSpaced (s : List Char) : Prop where
  noEndSpace : ¬[' ', '\n'] <:+: s
  noBlankRun : ¬['\n', '\n', '\n'] <:+: s

theorem isSpaced_formatChars (s : List Char) : IsSpaced (formatChars s) := by
  rw [formatChars, collapseBlankLines_eq, dropLineEndSpaces_eq]
  exact ⟨not_pair_infix_dropBefore (not_infix_dropBefore s), not_infix_dropBefore _⟩

theorem formatChars_eq_self_iff {s : List Char} : formatChars s = s ↔ IsSpaced s := by
  constructor
  · intro h
    rw [← h]
    exact isSpaced_formatChars s
  · intro h
    rw [formatChars, collapseBlankLines_eq, dropLineEndSpaces_eq,
      dropBefore_eq_self_iff.mpr h.noEndSpace, dropBefore_eq_self_iff.mpr h.noBlankRun]

/-- The normal spacing of a page has no space before a line end and no two blank lines in a row, and
is the page itself exactly when that has neither. Formatting it again changes nothing, and the page
keeps its content line by line. -/
theorem format_is_normal_form (page : String) :
    IsSpaced (format page).toList ∧ format (format page) = format page ∧
      (format page = page ↔ IsSpaced page.toList) ∧
      contentLines (format page).toList = contentLines page.toList := by
  have hChars (page : String) : (format page).toList = formatChars page.toList := by
    rw [format, String.toList_ofList]
  have hSelf (page : String) : format page = page ↔ IsSpaced page.toList := by
    rw [← String.toList_inj, hChars, formatChars_eq_self_iff]
  have hSpaced : IsSpaced (format page).toList := by
    rw [hChars]
    exact isSpaced_formatChars page.toList
  refine ⟨hSpaced, (hSelf _).mpr hSpaced, hSelf page, ?_⟩
  rw [hChars, contentLines_formatChars]

end Markdown

end ConfigReference
