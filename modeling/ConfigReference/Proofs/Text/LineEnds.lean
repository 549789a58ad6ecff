import ConfigReference.Proofs.Text.Replacement

/-!
# Line ends

What becomes of carriage returns: unifying the line ends of a text takes one off every line that
a line feed ends, and so does reading its lines.
-/

set_option autoImplicit false

namespace ConfigReference.Text

/-! ## Carriage returns -/

theorem dropCarriageReturn_concat (s : List Char) : dropCarriageReturn (s ++ ['\r']) = s := by
  simp [dropCarriageReturn]

theorem dropCarriageReturn_of_getLast? {s : List Char} (h : s.getLast? ≠ some '\r') :
    dropCarriageReturn s = s := if_neg h

theorem eq_or_eq_concat_dropCarriageReturn (s : List Char) :
    (s.getLast? ≠ some '\r' ∧ dropCarriageReturn s = s) ∨ s = dropCarriageReturn s ++ ['\r'] := by
  by_cases h : s.getLast? = some '\r'
  · obtain ⟨init, rfl⟩ := List.getLast?_eq_some_iff.mp h
    exact .inr (by rw [dropCarriageReturn_concat])
  · exact .inl ⟨h, dropCarriageReturn_of_getLast? h⟩

theorem map_dropCarriageReturn_eq_self {block : List (List Char)}
    (h : ∀ line ∈ block, line.getLast? ≠ some '\r') : block.map dropCarriageReturn = block :=
  (List.map_congr_left fun line hLine => dropCarriageReturn_of_getLast? (h line hLine)).trans
    (List.map_id block)

theorem isPrefix_dropCarriageReturn (s : List Char) : dropCarriageReturn s <+: s := by
  rw [dropCarriageReturn]
  split
  · exact List.dropLast_prefix s
  · exact List.prefix_refl s

theorem dropCarriageReturn_cons {c : Char} {s : List Char} (h : s = [] → c ≠ '\r') :
    dropCarriageReturn (c :: s) = c :: dropCarriageReturn s := by
  cases s with
  | nil => simp [dropCarriageReturn, h rfl]
  | cons d rest =>
    rw [dropCarriageReturn, dropCarriageReturn, List.getLast?_cons_cons, List.dropLast_cons_cons]
    split <;> rfl

/-- Pieces of a text between line feeds, with a carriage return taken off where a line feed
follows. -/
def withoutReturns (pieces : List (List Char)) : List (List Char) :=
  pieces.dropLast.map dropCarriageReturn ++ pieces.getLast?.toList

theorem withoutReturns_cons (piece : List Char) {rest : List (List Char)} (h : rest ≠ []) :
    withoutReturns (piece :: rest) = dropCarriageReturn piece :: withoutReturns rest := by
  rw [withoutReturns, withoutReturns, List.dropLast_cons_of_ne_nil h, List.map_cons,
    List.getLast?_cons, List.cons_append]
  cases hLast : rest.getLast? with
  | none => exact absurd (List.getLast?_eq_none_iff.mp hLast) h
  | some last => rfl

theorem dropLast_withoutReturns (pieces : List (List Char)) :
    (withoutReturns pieces).dropLast = pieces.dropLast.map dropCarriageReturn := by
  rcases List.eq_nil_or_concat pieces with rfl | ⟨init, last, rfl⟩ <;> simp [withoutReturns]

theorem getLast?_withoutReturns (pieces : List (List Char)) :
    (withoutReturns pieces).getLast? = pieces.getLast? := by
  rcases List.eq_nil_or_concat pieces with rfl | ⟨init, last, rfl⟩ <;> simp [withoutReturns]

theorem withoutReturns_eq_self {pieces : List (List Char)}
    (h : ∀ line ∈ pieces, line.getLast? ≠ some '\r') : withoutReturns pieces = pieces := by
  rcases List.eq_nil_or_concat pieces with rfl | ⟨init, last, rfl⟩
  · rfl
  · have hInit : init.map dropCarriageReturn = init :=
      map_dropCarriageReturn_eq_self fun line hLine => h line (by simp [hLine])
    simp [withoutReturns, hInit]

theorem splitOn_feed (s : List Char) : ('\n' :: s).splitOn '\n' = [] :: s.splitOn '\n' := by
  rw [List.splitOn_cons_eq_if_modifyHead, if_pos (by decide)]

theorem splitOn_cons {c : Char} (h : c ≠ '\n') (s : List Char) :
    (c :: s).splitOn '\n' = (s.splitOn '\n').modifyHead (c :: ·) := by
  rw [List.splitOn_cons_eq_if_modifyHead, if_neg (by simpa using h)]

/-! ## Unified line ends -/

theorem unifyLineEnds_return_feed (s : List Char) :
    unifyLineEnds ('\r' :: '\n' :: s) = '\n' :: unifyLineEnds s := rfl

theorem unifyLineEnds_cons {c : Char} {s : List Char} (h : c = '\r' → s.head? ≠ some '\n') :
    unifyLineEnds (c :: s) = c :: unifyLineEnds s := by
  have hPrefix : ['\r', '\n'].isPrefixOf (c :: s) = false := by
    rw [Bool.eq_false_iff, Ne, List.isPrefixOf_iff_prefix, List.cons_prefix_cons]
    rintro ⟨rfl, next, rfl⟩
    exact h rfl rfl
  rw [unifyLineEnds, replaceAll, replaceFrom, hPrefix]
  rfl

theorem head?_of_splitOn {s next : List Char} {rest : List (List Char)}
    (h : s.splitOn '\n' = [] :: next :: rest) : s.head? = some '\n' := by
  cases s with
  | nil => cases h
  | cons c s =>
    by_cases hFeed : c = '\n'
    · rw [hFeed, List.head?_cons]
    · obtain ⟨piece, others, hPieces⟩ := List.exists_cons_of_ne_nil (List.splitOn_ne_nil '\n' s)
      rw [splitOn_cons hFeed, hPieces] at h
      cases h

theorem modifyHead_withoutReturns {c : Char} {piece : List Char} {rest : List (List Char)}
    (h : c = '\r' → piece = [] → rest = []) :
    (withoutReturns (piece :: rest)).modifyHead (c :: ·) =
      withoutReturns ((c :: piece) :: rest) := by
  by_cases hRest : rest = []
  · rw [hRest]
    rfl
  · have hReturn : piece = [] → c ≠ '\r' := fun hPiece hc => hRest (h hc hPiece)
    rw [withoutReturns_cons _ hRest, withoutReturns_cons _ hRest, dropCarriageReturn_cons hReturn]
    rfl

theorem splitOn_unifyLineEnds (s : List Char) :
    (unifyLineEnds s).splitOn '\n' = withoutReturns (s.splitOn '\n') := by
  induction hLength : s.length using Nat.strongRecOn generalizing s with
  | _ length ih =>
    match s with
    | [] => rfl
    | c :: rest =>
      have hRest := ih rest.length (hLength ▸ Nat.lt_succ_self _) rest rfl
      by_cases hFeed : c = '\n'
      · rw [hFeed, unifyLineEnds_cons (by simp), splitOn_feed, hRest, splitOn_feed,
          withoutReturns_cons _ (List.splitOn_ne_nil _ _)]
        rfl
      · obtain ⟨piece, others, hPieces⟩ :=
          List.exists_cons_of_ne_nil (List.splitOn_ne_nil '\n' rest)
        by_cases hEnd : c = '\r' → rest.head? ≠ some '\n'
        · rw [unifyLineEnds_cons hEnd, splitOn_cons hFeed, hRest, splitOn_cons hFeed, hPieces,
            modifyHead_withoutReturns]
          · rfl
          · rintro rfl rfl
            cases others with
            | nil => rfl
            | cons next others => exact absurd (head?_of_splitOn hPieces) (hEnd rfl)
        · obtain ⟨rfl, hHead⟩ : c = '\r' ∧ rest.head? = some '\n' := by simpa using hEnd
          obtain ⟨below, rfl⟩ := List.head?_eq_some_iff.mp hHead
          have hShorter : below.length < length := by
            rw [← hLength, List.length_cons, List.length_cons]
            omega
          have hBelow := ih below.length hShorter below rfl
          rw [unifyLineEnds_return_feed, splitOn_feed, hBelow, splitOn_cons hFeed, splitOn_feed,
            List.modifyHead_cons, withoutReturns_cons _ (List.splitOn_ne_nil _ _)]
          rfl

/-! ## Lines -/

theorem lines_eq (s : List Char) :
    lines s = (s.splitOn '\n').dropLast.map dropCarriageReturn ++
      (s.splitOn '\n').getLast?.toList.filter (· ≠ []) := rfl

theorem length_lines_unifyLineEnds (s : List Char) :
    (lines (unifyLineEnds s)).length = (lines s).length := by
  simp [lines_eq, splitOn_unifyLineEnds, dropLast_withoutReturns, getLast?_withoutReturns]

/-- Unifying the line ends first takes another carriage return off every line that a line stands
below. -/
theorem take_lines_unifyLineEnds {s : List Char} {count : Nat} (h : count < (lines s).length) :
    (lines (unifyLineEnds s)).take count = ((lines s).take count).map dropCarriageReturn := by
  have hEnded : count ≤ (s.splitOn '\n').dropLast.length := by
    have hLast : ((s.splitOn '\n').getLast?.toList.filter (· ≠ [])).length ≤ 1 :=
      Nat.le_trans (List.length_filter_le _ _) (by cases (s.splitOn '\n').getLast? <;> simp)
    rw [lines_eq, List.length_append, List.length_map] at h
    omega
  rw [lines_eq, lines_eq, splitOn_unifyLineEnds, dropLast_withoutReturns, getLast?_withoutReturns,
    List.take_append_of_le_length (by simpa using hEnded),
    List.take_append_of_le_length (by simpa using hEnded), List.map_take]

theorem map_lines_unifyLineEnds {α : Type} {f : List Char → α} {s : List Char}
    (h : ∀ piece ∈ s.splitOn '\n',
      f (dropCarriageReturn (dropCarriageReturn piece)) = f (dropCarriageReturn piece)) :
    (lines (unifyLineEnds s)).map f = (lines s).map f := by
  rw [lines_eq, lines_eq, splitOn_unifyLineEnds, dropLast_withoutReturns, getLast?_withoutReturns,
    List.map_append, List.map_append, List.map_map, List.map_map, List.map_map]
  congr 1
  apply List.map_congr_left
  intro piece hPiece
  exact h piece (List.dropLast_subset _ hPiece)

theorem lines_intercalate {parts : List (List Char)} (hParts : ∀ part ∈ parts, '\n' ∉ part)
    (hLast : ∀ part ∈ parts.getLast?, part ≠ []) :
    lines (List.intercalate ['\n'] parts) = withoutReturns parts := by
  by_cases hEmpty : parts = []
  · rw [hEmpty]
    rfl
  · have hKept : parts.getLast?.toList.filter (· ≠ []) = parts.getLast?.toList := by
      rw [List.filter_eq_self]
      intro part hPart
      simpa using hLast part (Option.mem_toList.mp hPart)
    rw [lines_eq, List.splitOn_intercalate '\n' hParts hEmpty, hKept, withoutReturns]

theorem infix_intercalate {sep piece : List Char} {pieces : List (List Char)}
    (h : piece ∈ pieces) : piece <:+: List.intercalate sep pieces := by
  induction pieces with
  | nil => cases h
  | cons first rest ih =>
    cases rest with
    | nil =>
      obtain rfl := List.mem_singleton.mp h
      simp [List.intercalate_singleton]
    | cons next rest =>
      rw [List.intercalate_cons_cons]
      rcases List.mem_cons.mp h with rfl | hRest
      · exact (List.prefix_append _ _).isInfix.trans (List.prefix_append _ _).isInfix
      · exact (ih hRest).trans (List.suffix_append _ _).isInfix

theorem infix_of_mem_lines {s line : List Char} (h : line ∈ lines s) : line <:+: s := by
  have hPieces {piece : List Char} (hPiece : piece ∈ s.splitOn '\n') : piece <:+: s := by
    have hInfix : piece <:+: List.intercalate ['\n'] (s.splitOn '\n') :=
      infix_intercalate hPiece
    rwa [List.intercalate_splitOn] at hInfix
  rcases List.mem_append.mp h with hEnded | hLast
  · obtain ⟨piece, hPiece, rfl⟩ := List.mem_map.mp hEnded
    exact (isPrefix_dropCarriageReturn piece).isInfix.trans
      (hPieces (List.dropLast_subset _ hPiece))
  · have hGet := (List.mem_filter.mp hLast).1
    rw [Option.mem_toList] at hGet
    exact hPieces (List.mem_of_getLast? hGet)

end ConfigReference.Text
