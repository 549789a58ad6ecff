import ConfigReference.Proofs.Comment.Runs
import ConfigReference.Proofs.Text.LineEnds

/-!
# Margins of comment lines

A comment line is read from its mark on, so that blanks in front of it do not matter. A carriage
return at its end may matter to its text, but never to the key of a header.
-/

set_option autoImplicit false

namespace ConfigReference

namespace Text

theorem trimStart_trimStart (s : List Char) : trimStart (trimStart s) = trimStart s :=
  trimStart_of_head (isBlank_head_trimStart s)

theorem trimStart_concat {s : List Char} (h : trimStart s ≠ []) (c : Char) :
    trimStart (s ++ [c]) = trimStart s ++ [c] := by
  rw [trimStart, List.dropWhile_append, ← trimStart, if_neg (by simpa using h)]

theorem trimStart_concat_of_blank {s : List Char} (h : trimStart s = []) {c : Char}
    (hBlank : isBlank c = true) : trimStart (s ++ [c]) = [] := by
  rw [trimStart, List.dropWhile_append, ← trimStart, h]
  simp [hBlank]

end Text

namespace Comment

open Text

/-! ## Lines with one text behind the mark -/

theorem afterMark?_trimStart (line : List Char) :
    afterMark? (trimStart line) = afterMark? line := by
  rw [afterMark?, trimStart_trimStart, ← afterMark?]

theorem readHeader?_congr {line other : List Char} (h : afterMark? line = afterMark? other) :
    readHeader? line = readHeader? other := by
  rw [readHeader?, readHeader?, h]

theorem headerKey?_congr {line other : List Char} (h : afterMark? line = afterMark? other) :
    headerKey? line = headerKey? other := by
  rw [headerKey?, headerKey?, readHeader?_congr h]

theorem read_congr {line other : List Char} (h : afterMark? line = afterMark? other) :
    Line.read line = Line.read other := by
  rw [Line.read, Line.read, readDirective?, readDirective?, bareText?, bareText?, h]

theorem add_congr {line other : List Char} (h : afterMark? line = afterMark? other) (b : Block) :
    b.add line = b.add other := by
  rw [Block.add, Block.add, read_congr h]

theorem foldl_add_congr {lines others : List (List Char)}
    (h : lines.map afterMark? = others.map afterMark?) (b : Block) :
    lines.foldl Block.add b = others.foldl Block.add b := by
  induction lines generalizing others b with
  | nil =>
    obtain rfl : others = [] := by simpa using h.symm
    rfl
  | cons line rest ih =>
    cases others with
    | nil => simp at h
    | cons other others =>
      obtain ⟨hLine, hRest⟩ := List.cons.inj h
      rw [List.foldl_cons, List.foldl_cons, add_congr hLine, ih hRest]

theorem lastHeader?_congr {α : Type} {look : List Char → α}
    (hLook : ∀ line other, look line = look other → headerKey? line = headerKey? other)
    {lines others : List (List Char)} (h : lines.map look = others.map look) :
    (lastHeader? lines).map (fun found => (look found.1, found.2.map look)) =
      (lastHeader? others).map (fun found => (look found.1, found.2.map look)) := by
  induction lines generalizing others with
  | nil =>
    obtain rfl : others = [] := by simpa using h.symm
    rfl
  | cons line rest ih =>
    cases others with
    | nil => simp at h
    | cons other others =>
      obtain ⟨hLine, hRest⟩ := List.cons.inj h
      have hBelow := ih hRest
      rw [lastHeader?, lastHeader?, hLook line other hLine]
      cases hFound : lastHeader? rest with
      | some found =>
        cases hOther : lastHeader? others with
        | some _ => simpa [hFound, hOther] using hBelow
        | none => simp [hFound, hOther] at hBelow
      | none =>
        cases hOther : lastHeader? others with
        | some _ => simp [hFound, hOther] at hBelow
        | none =>
          cases headerKey? other with
          | some _ => simp [hLine, hRest]
          | none => rfl

theorem parse_eq_of_map_afterMark? {lines others : List (List Char)}
    (h : lines.map afterMark? = others.map afterMark?) : parse lines = parse others := by
  have hFound := lastHeader?_congr (fun _ _ => headerKey?_congr) h
  rw [parse, parse]
  cases hLines : lastHeader? lines with
  | none =>
    cases hOthers : lastHeader? others with
    | none => rfl
    | some _ => simp [hLines, hOthers] at hFound
  | some found =>
    cases hOthers : lastHeader? others with
    | none => simp [hLines, hOthers] at hFound
    | some other =>
      obtain ⟨hHeader, hBelow⟩ :
          afterMark? found.1 = afterMark? other.1 ∧
            found.2.map afterMark? = other.2.map afterMark? := by
        simpa [hLines, hOthers] using hFound
      simp only [Option.bind_eq_bind, Option.bind_some, readHeader?_congr hHeader,
        foldl_add_congr hBelow]

theorem map_fst_parse_congr {lines others : List (List Char)}
    (h : lines.map headerKey? = others.map headerKey?) :
    (parse lines).map (·.1) = (parse others).map (·.1) := by
  have hKey (found : Option (List Char × List (List Char))) :
      (found.bind fun found => (headerKey? found.1).map String.ofList) =
        (found.map fun found => (headerKey? found.1, found.2.map headerKey?)).bind fun seen =>
          seen.1.map String.ofList := by
    cases found <;> rfl
  rw [map_fst_parse, map_fst_parse, hKey, hKey, lastHeader?_congr (fun _ _ => id) h]

/-! ## A carriage return at the end -/

theorem afterMark?_concat_return (line : List Char) :
    afterMark? (line ++ ['\r']) = (afterMark? line).map (· ++ ['\r']) := by
  rw [afterMark?, afterMark?]
  by_cases hBlank : trimStart line = []
  · rw [hBlank, trimStart_concat_of_blank hBlank (by decide)]
    rfl
  · rw [trimStart_concat hBlank]
    obtain ⟨c, rest, hLine⟩ := List.exists_cons_of_ne_nil hBlank
    rw [hLine, List.cons_append]
    by_cases hMark : c = '#'
    · rw [hMark]
      rfl
    · simp [hMark]

theorem afterMark?_dropCarriageReturn (line : List Char) :
    afterMark? (dropCarriageReturn line) = (afterMark? line).map dropCarriageReturn := by
  rcases eq_or_eq_concat_dropCarriageReturn line with ⟨hLast, hSame⟩ | hReturn
  · rw [hSame]
    cases hMark : afterMark? line with
    | none => rfl
    | some body =>
      obtain ⟨lead, -, rfl⟩ := afterMark?_eq_some.mp hMark
      rw [Option.map_some, dropCarriageReturn_of_getLast?]
      intro hBody
      rw [List.getLast?_append, List.getLast?_cons, hBody] at hLast
      exact hLast rfl
  · rw [hReturn, dropCarriageReturn_concat, afterMark?_concat_return, Option.map_map]
    cases afterMark? (dropCarriageReturn line) with
    | none => rfl
    | some body => exact congrArg some (dropCarriageReturn_concat body).symm

theorem splitKey_concat_return (s : List Char) :
    splitKey false (s ++ ['\r']) = ((splitKey false s).1, (splitKey false s).2 ++ ['\r']) ∧
      ('"' ∈ s →
        splitKey true (s ++ ['\r']) = ((splitKey true s).1, (splitKey true s).2 ++ ['\r'])) := by
  -- a text between quotes ends in front of the carriage return, so both go through together
  induction s with
  | nil => exact ⟨by decide, by simp⟩
  | cons c rest ih =>
    obtain ⟨ihPlain, ihQuoted⟩ := ih
    constructor
    · by_cases hStop : isBlank c = true ∨ (c = '"' ∧ '"' ∉ rest)
      · have hEnd : (isBlank c || (c == '"' && !rest.contains '"')) = true := by simpa using hStop
        have hEnd' : (isBlank c || (c == '"' && !(rest ++ ['\r']).contains '"')) = true := by
          simpa using hStop
        rw [List.cons_append, splitKey, if_neg (by decide), if_pos hEnd', splitKey,
          if_neg (by decide), if_pos hEnd]
        rfl
      · obtain ⟨hBlank, hClosed⟩ : isBlank c = false ∧ (c = '"' → '"' ∈ rest) := by
          simpa using hStop
        rw [List.cons_append, splitKey_cons_plain hBlank hClosed,
          splitKey_cons_plain hBlank fun hQuote => List.mem_append_left _ (hClosed hQuote)]
        by_cases hQuote : c = '"'
        · have hBeq : (c == '"') = true := by simpa using hQuote
          rw [hBeq, ihQuoted (hClosed hQuote)]
        · have hBeq : (c == '"') = false := by simpa using hQuote
          rw [hBeq, ihPlain]
    · intro hMem
      rw [List.cons_append, splitKey_cons_quoted, splitKey_cons_quoted]
      by_cases hQuote : c = '"'
      · have hBne : (c != '"') = false := by simpa using hQuote
        rw [hBne, ihPlain]
      · have hBne : (c != '"') = true := by simpa using hQuote
        have hRest : '"' ∈ rest := (List.mem_cons.mp hMem).resolve_left (Ne.symm hQuote)
        rw [hBne, ihQuoted hRest]

theorem break_mem_trimStart_concat_return (s : List Char) :
    '\n' ∈ trimStart (s ++ ['\r']) ↔ '\n' ∈ trimStart s := by
  by_cases hBlank : trimStart s = []
  · rw [hBlank, trimStart_concat_of_blank hBlank (by decide)]
  · rw [trimStart_concat hBlank]
    simp

theorem isSome_afterSpacedDashes?_concat_return (s : List Char) :
    (afterSpacedDashes? (s ++ ['\r'])).isSome = (afterSpacedDashes? s).isSome := by
  rw [Bool.eq_iff_iff, Option.isSome_iff_exists, Option.isSome_iff_exists]
  constructor
  · rintro ⟨text, hText⟩
    obtain ⟨⟨blanks, tail, hSome, hBlanks, hSplit, rfl⟩, hOneLine⟩ :=
      afterSpacedDashes?_eq_some.mp hText
    rcases List.eq_nil_or_concat tail with rfl | ⟨init, last, rfl⟩
    · have hLast := congrArg List.getLast? hSplit
      simp at hLast
    · rw [List.concat_eq_append] at hSplit hOneLine
      rw [← List.cons_append, ← List.cons_append, ← List.append_assoc] at hSplit
      obtain ⟨rfl, hLast⟩ := List.append_inj' hSplit rfl
      obtain rfl : '\r' = last := by simpa using hLast
      rw [break_mem_trimStart_concat_return] at hOneLine
      exact ⟨_, afterSpacedDashes?_eq_some.mpr
        ⟨⟨blanks, init, hSome, hBlanks, rfl, rfl⟩, hOneLine⟩⟩
  · rintro ⟨text, hText⟩
    obtain ⟨⟨blanks, tail, hSome, hBlanks, rfl, rfl⟩, hOneLine⟩ :=
      afterSpacedDashes?_eq_some.mp hText
    rw [← break_mem_trimStart_concat_return] at hOneLine
    exact ⟨_, afterSpacedDashes?_eq_some.mpr
      ⟨⟨blanks, tail ++ ['\r'], hSome, hBlanks, by simp, rfl⟩, hOneLine⟩⟩

theorem map_fst_readHeader? (line : List Char) :
    (readHeader? line).map (·.1) = (afterMark? line).bind fun body =>
      if (afterSpacedDashes? (splitKey false (trimStart body)).2).isSome then
        some (splitKey false (trimStart body)).1
      else if (afterSpacedDashes? body).isSome then some [] else none := by
  rw [readHeader?]
  cases afterMark? line with
  | none => rfl
  | some body =>
    simp only [Option.bind_eq_bind, Option.bind_some]
    cases afterSpacedDashes? (splitKey false (trimStart body)).2 with
    | some text => rfl
    | none => cases afterSpacedDashes? body <;> rfl

theorem headerKey?_eq_filter (line : List Char) :
    headerKey? line = ((readHeader? line).map (·.1)).filter (·.head? ≠ some '@') := by
  rw [headerKey?]
  cases readHeader? line with
  | none => rfl
  | some found =>
    by_cases hDirective : found.1.head? = some '@' <;> simp [hDirective, Option.filter]

theorem headerKey?_concat_return (line : List Char) :
    headerKey? (line ++ ['\r']) = headerKey? line := by
  have hFound : (readHeader? (line ++ ['\r'])).map (·.1) = (readHeader? line).map (·.1) := by
    rw [map_fst_readHeader?, map_fst_readHeader?, afterMark?_concat_return]
    cases afterMark? line with
    | none => rfl
    | some body =>
      rw [Option.map_some, Option.bind_some, Option.bind_some,
        isSome_afterSpacedDashes?_concat_return]
      by_cases hBlank : trimStart body = []
      · rw [hBlank, trimStart_concat_of_blank hBlank (by decide)]
      · rw [trimStart_concat hBlank, (splitKey_concat_return _).1,
          isSome_afterSpacedDashes?_concat_return]
  rw [headerKey?_eq_filter, headerKey?_eq_filter, hFound]

theorem headerKey?_dropCarriageReturn (line : List Char) :
    headerKey? (dropCarriageReturn line) = headerKey? line := by
  rcases eq_or_eq_concat_dropCarriageReturn line with ⟨-, hSame⟩ | hReturn
  · rw [hSame]
  · have hSame := headerKey?_concat_return (dropCarriageReturn line)
    rw [← hReturn] at hSame
    exact hSame.symm

end Comment

end ConfigReference
