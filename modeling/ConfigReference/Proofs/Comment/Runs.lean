import ConfigReference.Comment.Block
import ConfigReference.Proofs.Comment.Header
import ConfigReference.Text.Line

/-!
# Blocks and runs

What is read of a block depends on its last header and the lines behind it. The comment lines of a
source fall into runs that are as long as they can be.
-/

set_option autoImplicit false

namespace ConfigReference

namespace Text

theorem mem_of_mem_dropCarriageReturn {c : Char} {s : List Char} (h : c ∈ dropCarriageReturn s) :
    c ∈ s := by
  rw [dropCarriageReturn] at h
  split at h
  · exact List.dropLast_subset _ h
  · exact h

theorem not_mem_of_mem_lines {s line : List Char} (h : line ∈ lines s) : '\n' ∉ line := by
  rcases List.mem_append.mp h with hPiece | hLast
  · obtain ⟨piece, hMem, rfl⟩ := List.mem_map.mp hPiece
    have hPieceMem := List.dropLast_subset _ hMem
    exact fun hBreak => not_mem_of_mem_splitOn hPieceMem (mem_of_mem_dropCarriageReturn hBreak)
  · have hGet := (List.mem_filter.mp hLast).1
    rw [Option.mem_toList] at hGet
    exact not_mem_of_mem_splitOn (List.mem_of_getLast? hGet)

end Text

namespace Comment

theorem mem_of_afterMark? {line body : List Char} (h : afterMark? line = some body) {c : Char}
    (hc : c ∈ body) : c ∈ line := by
  obtain ⟨lead, -, rfl⟩ := afterMark?_eq_some.mp h
  simp [hc]

theorem isComment_eq_isSome_afterMark? {line : List Char} (hOneLine : '\n' ∉ line) :
    isComment line = (afterMark? line).isSome := by
  rw [isComment, bareText?]
  cases hBody : afterMark? line with
  | none => rfl
  | some body =>
    have hNo : ∀ text : List Char, (∀ c ∈ text, c ∈ body) → text.contains '\n' = false := by
      intro text hText
      have hMem : '\n' ∉ text := fun hc => hOneLine (mem_of_afterMark? hBody (hText _ hc))
      simpa using hMem
    rw [Option.bind_eq_bind, Option.bind_some]
    cases body with
    | nil => rfl
    | cons c rest =>
      show (singleLine? (if Text.isBlank c then rest else c :: rest)).isSome = true
      rw [singleLine?, hNo]
      · rfl
      · intro d hd
        split at hd
        · exact List.mem_cons_of_mem _ hd
        · exact hd

theorem isComment_of_headerKey? {line key : List Char} (h : headerKey? line = some key)
    (hOneLine : '\n' ∉ line) : isComment line = true := by
  obtain ⟨found, hRead, -⟩ := Option.bind_eq_some_iff.mp h
  obtain ⟨body, hBody, -⟩ := Option.bind_eq_some_iff.mp hRead
  rw [isComment_eq_isSome_afterMark? hOneLine, hBody]
  rfl

theorem lastHeader?_eq_none {lines : List (List Char)} :
    lastHeader? lines = none ↔ ∀ line ∈ lines, headerKey? line = none := by
  induction lines with
  | nil => simp [lastHeader?]
  | cons line rest ih =>
    rw [lastHeader?, List.forall_mem_cons]
    cases hRest : lastHeader? rest with
    | some found =>
      have hNot := mt ih.mpr (by simp [hRest])
      simp [hNot]
    | none =>
      have hAll := ih.mp hRest
      cases hKey : headerKey? line with
      | some key => simp
      | none => simpa using hAll

theorem lastHeader?_append {above below : List (List Char)} {header : List Char}
    (hHeader : (headerKey? header).isSome = true)
    (hBelow : ∀ line ∈ below, headerKey? line = none) :
    lastHeader? (above ++ header :: below) = some (header, below) := by
  induction above with
  | nil =>
    rw [List.nil_append, lastHeader?, lastHeader?_eq_none.mpr hBelow]
    simp [hHeader]
  | cons line above ih => rw [List.cons_append, lastHeader?, ih]

theorem exists_of_lastHeader? {lines below : List (List Char)} {header : List Char}
    (h : lastHeader? lines = some (header, below)) :
    ∃ above, lines = above ++ header :: below ∧ (headerKey? header).isSome = true ∧
      ∀ line ∈ below, headerKey? line = none := by
  induction lines with
  | nil => cases h
  | cons line rest ih =>
    rw [lastHeader?] at h
    cases hRest : lastHeader? rest with
    | some found =>
      simp only [hRest] at h
      cases h
      obtain ⟨above, rfl, hHeader, hBelow⟩ := ih hRest
      exact ⟨line :: above, rfl, hHeader, hBelow⟩
    | none =>
      simp only [hRest] at h
      obtain ⟨hKey, hPair⟩ := Option.ite_none_right_eq_some.mp h
      cases hPair
      exact ⟨[], rfl, hKey, lastHeader?_eq_none.mp hRest⟩

theorem map_fst_parse (lines : List (List Char)) :
    (parse lines).map (·.1) =
      (lastHeader? lines).bind fun found => (headerKey? found.1).map String.ofList := by
  rw [parse]
  cases hLast : lastHeader? lines with
  | none => rfl
  | some found =>
    obtain ⟨header, below⟩ := found
    obtain ⟨-, -, hHeader, -⟩ := exists_of_lastHeader? hLast
    obtain ⟨key, hKey⟩ := Option.isSome_iff_exists.mp hHeader
    obtain ⟨⟨readKey, text⟩, hRead, hSame⟩ := Option.bind_eq_some_iff.mp hKey
    obtain ⟨-, hEq⟩ := Option.ite_none_left_eq_some.mp hSame
    cases hEq
    simp [hRead, hKey]

theorem parse_nil : parse [] = none := rfl

theorem parse_congr {lines other : List (List Char)} (h : lastHeader? lines = lastHeader? other) :
    parse lines = parse other := by
  rw [parse, parse, h]

theorem parse_append {block : List (List Char)} (h : (lastHeader? block).isSome = true)
    (above : List (List Char)) : parse (above ++ block) = parse block := by
  obtain ⟨⟨header, below⟩, hLast⟩ := Option.isSome_iff_exists.mp h
  obtain ⟨front, rfl, hHeader, hBelow⟩ := exists_of_lastHeader? hLast
  apply parse_congr
  rw [← List.append_assoc, lastHeader?_append hHeader hBelow, lastHeader?_append hHeader hBelow]

/-! ## Runs -/

/-- A run of comment lines among lines, with no comment line in front of it or behind it. -/
structure IsRun (lines front run back : List (List Char)) : Prop where
  split : lines = front ++ (run ++ back)
  comments : ∀ line ∈ run, isComment line = true
  front : ∀ line ∈ front.getLast?, isComment line = false
  back : ∀ line ∈ back.head?, isComment line = false

def pieces (lines : List (List Char)) : List (List (List Char)) :=
  lines.splitOnP fun line => !isComment line

/-- The runs of comment lines that are as long as they can be. -/
def runs (lines : List (List Char)) : List (List (List Char)) := (pieces lines).filter (· ≠ [])

theorem pieces_of_comments {run : List (List Char)} (hRun : ∀ line ∈ run, isComment line = true) :
    pieces run = [run] := by
  apply List.splitOnP_eq_singleton
  intro line hLine
  rw [hRun line hLine]
  rfl

theorem pieces_append {line : List Char} (hLine : isComment line = false)
    (above below : List (List Char)) :
    pieces (above ++ line :: below) = pieces above ++ pieces below := by
  apply List.splitOnP_append_cons
  rw [hLine]
  rfl

theorem pieces_cons_of_comment {line : List Char} (hLine : isComment line = true)
    (rest : List (List Char)) :
    pieces (line :: rest) = (pieces rest).modifyHead (line :: ·) := by
  rw [pieces, List.splitOnP_cons_eq_if_modifyHead, if_neg (by simp [hLine])]
  rfl

theorem IsRun.mem_pieces {lines front run back : List (List Char)}
    (h : IsRun lines front run back) : run ∈ pieces lines := by
  have hHere : run ∈ pieces (run ++ back) := by
    cases hBack : back with
    | nil => simp [pieces_of_comments h.comments]
    | cons line rest =>
      have hLine : isComment line = false := h.back line (by simp [hBack])
      simp [pieces_append hLine, pieces_of_comments h.comments]
  rw [h.split]
  rcases List.eq_nil_or_concat front with rfl | ⟨init, last, rfl⟩
  · exact hHere
  · have hLast : isComment last = false := h.front last (by simp)
    rw [List.concat_eq_append, List.append_assoc, List.singleton_append, pieces_append hLast]
    exact List.mem_append_right _ hHere

theorem IsRun.below {lines front run back : List (List Char)} (h : IsRun lines front run back)
    {line : List Char} (hLine : isComment line = false) (above : List (List Char)) :
    IsRun (above ++ line :: lines) (above ++ line :: front) run back where
  split := by rw [h.split, List.append_assoc, List.cons_append]
  comments := h.comments
  front := by
    intro other hOther
    rw [List.getLast?_append, List.getLast?_cons, Option.some_or] at hOther
    obtain rfl : front.getLast?.getD line = other := Option.some.inj hOther
    cases hLast : front.getLast? with
    | none => exact hLine
    | some last => exact h.front last (by rw [hLast]; rfl)
  back := h.back

theorem exists_isRun_of_mem_pieces {lines run : List (List Char)} (h : run ∈ pieces lines) :
    ∃ front back, IsRun lines front run back := by
  -- the first piece is the comment lines on top, the others are those below the line that ends it
  induction hLength : lines.length using Nat.strongRecOn generalizing lines with
  | _ length ih =>
    have hTop : ∀ line ∈ lines.takeWhile isComment, isComment line = true := by
      intro line hLine
      exact List.all_eq_true.mp List.all_takeWhile line hLine
    have hSplit : lines = lines.takeWhile isComment ++ lines.dropWhile isComment :=
      List.takeWhile_append_dropWhile.symm
    cases hRest : lines.dropWhile isComment with
    | nil =>
      rw [hRest, List.append_nil] at hSplit
      rw [hSplit, pieces_of_comments hTop] at h
      obtain rfl := List.mem_singleton.mp h
      exact ⟨[], [], by simpa using hSplit, hTop, by simp, by simp⟩
    | cons line rest =>
      have hLine : isComment line = false := by
        have hHead := List.head?_dropWhile_not isComment lines
        simpa [hRest] using hHead
      rw [hRest] at hSplit
      rw [hSplit, pieces_append hLine, pieces_of_comments hTop] at h
      rcases List.mem_cons.mp h with rfl | hBelow
      · exact ⟨[], line :: rest, hSplit, hTop, by simp, by simpa using hLine⟩
      · have hShorter : rest.length < length := by
          rw [← hLength, hSplit]
          simp
          omega
        obtain ⟨front, back, hRun⟩ := ih rest.length hShorter hBelow rfl
        have hWhole := hRun.below hLine (lines.takeWhile isComment)
        rw [← hSplit] at hWhole
        exact ⟨_, back, hWhole⟩

theorem mem_runs {lines run : List (List Char)} :
    run ∈ runs lines ↔ run ≠ [] ∧ ∃ front back, IsRun lines front run back := by
  rw [runs, List.mem_filter]
  constructor
  · rintro ⟨hPiece, hSome⟩
    exact ⟨by simpa using hSome, exists_isRun_of_mem_pieces hPiece⟩
  · rintro ⟨hSome, front, back, hRun⟩
    exact ⟨hRun.mem_pieces, by simpa using hSome⟩

theorem runs_append_of_getLast? {above : List (List Char)}
    (h : ∀ line ∈ above.getLast?, isComment line = false) (below : List (List Char)) :
    runs (above ++ below) = runs above ++ runs below := by
  rcases List.eq_nil_or_concat above with rfl | ⟨init, last, rfl⟩
  · rfl
  · have hLast : isComment last = false := h last (by simp)
    rw [runs, runs, List.concat_eq_append, List.append_assoc, List.singleton_append,
      pieces_append hLast, pieces_append hLast, List.filter_append, List.filter_append]
    simp [runs, pieces]

theorem runs_append_of_head? {below : List (List Char)}
    (h : ∀ line ∈ below.head?, isComment line = false) (above : List (List Char)) :
    runs (above ++ below) = runs above ++ runs below := by
  cases below with
  | nil => simp [runs, pieces]
  | cons line rest =>
    have hLine : isComment line = false := h line rfl
    have hBelow : pieces (line :: rest) = [] :: pieces rest := by
      simpa [pieces] using pieces_append hLine [] rest
    rw [runs, runs, runs, pieces_append hLine, hBelow, List.filter_append]
    simp

theorem IsRun.runs_eq {lines front run back : List (List Char)} (h : IsRun lines front run back)
    (hSome : run ≠ []) : runs lines = runs front ++ run :: runs back := by
  have hRun : runs run = [run] := by simp [runs, pieces_of_comments h.comments, hSome]
  rw [h.split, runs_append_of_getLast? h.front, runs_append_of_head? h.back, hRun,
    List.singleton_append]

end Comment

end ConfigReference
