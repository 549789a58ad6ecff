import ConfigReference.Comment.Line

/-!
# The form of header lines

A header is a mark, a key and two dashes behind a blank. Reading a line finds such a form exactly
when there is one.
-/

set_option autoImplicit false

namespace ConfigReference

namespace Text

theorem trimStart_append {blanks : List Char} (h : ∀ c ∈ blanks, isBlank c = true) (s : List Char) :
    trimStart (blanks ++ s) = trimStart s := List.dropWhile_append_of_pos h

theorem trimStart_cons {c : Char} (h : isBlank c = false) (s : List Char) :
    trimStart (c :: s) = c :: s := List.dropWhile_cons_of_neg (by simp [h])

theorem exists_blanks_append (s : List Char) :
    ∃ blanks, (∀ c ∈ blanks, isBlank c = true) ∧ s = blanks ++ trimStart s := by
  refine ⟨s.takeWhile isBlank, ?_, List.takeWhile_append_dropWhile.symm⟩
  intro c hc
  exact List.all_eq_true.mp List.all_takeWhile c hc

theorem isBlank_head_trimStart (s : List Char) : ∀ c ∈ (trimStart s).head?, isBlank c = false := by
  intro c hc
  have hFirst := List.head?_dropWhile_not isBlank s
  rw [trimStart, Option.mem_def] at hc
  rw [hc] at hFirst
  exact hFirst

theorem trimStart_of_head {s : List Char} (h : ∀ c ∈ s.head?, isBlank c = false) :
    trimStart s = s := by
  cases s with
  | nil => rfl
  | cons c rest => exact trimStart_cons (h c rfl) rest

theorem append_inj_of_boundary {p : Char → Bool} {s t rest more : List Char}
    (hs : ∀ c ∈ s, p c = true) (ht : ∀ c ∈ t, p c = true)
    (hRest : ∀ c ∈ rest.head?, p c = false) (hMore : ∀ c ∈ more.head?, p c = false)
    (h : s ++ rest = t ++ more) : s = t ∧ rest = more := by
  have hCut {s rest : List Char} (hs : ∀ c ∈ s, p c = true)
      (hRest : ∀ c ∈ rest.head?, p c = false) :
      (s ++ rest).takeWhile p = s := by
    rw [List.takeWhile_append_of_pos hs]
    cases rest with
    | nil => simp
    | cons c rest => simp [hRest c rfl]
  have hSame : s = t := by rw [← hCut hs hRest, h, hCut ht hMore]
  subst hSame
  exact ⟨rfl, List.append_cancel_left h⟩

end Text

namespace Comment

open Text

/-- The keys of header lines: characters that are no blanks, and texts between double quotes. -/
inductive IsKeyText : List Char → Prop where
  | nil : IsKeyText []
  | plain {c : Char} {rest : List Char} (hBlank : isBlank c = false) (hQuote : c ≠ '"')
      (hRest : IsKeyText rest) : IsKeyText (c :: rest)
  | quoted {body rest : List Char} (hBody : '"' ∉ body) (hRest : IsKeyText rest) :
      IsKeyText ('"' :: (body ++ '"' :: rest))

/-- `s` begins with at least one blank, then two dashes; `text` follows, without leading blanks and
on the same line. -/
structure DashesAt (s text : List Char) : Prop where
  parts : ∃ blanks tail, blanks ≠ [] ∧ (∀ c ∈ blanks, isBlank c = true) ∧
    s = blanks ++ '-' :: '-' :: tail ∧ text = trimStart tail
  oneLine : '\n' ∉ text

theorem afterDashes?_eq_some {s text : List Char} :
    afterDashes? s = some text ↔
      ∃ tail, s = '-' :: '-' :: tail ∧ text = trimStart tail ∧ '\n' ∉ text := by
  rw [afterDashes?, afterWord?]
  constructor
  · intro h
    obtain ⟨rest, hRest, hLine⟩ := Option.bind_eq_some_iff.mp h
    obtain ⟨hPrefix, hDrop⟩ := Option.ite_none_right_eq_some.mp hRest
    obtain ⟨tail, rfl⟩ := List.isPrefixOf_iff_prefix.mp hPrefix
    obtain rfl : tail = rest := by simpa using hDrop
    rw [singleLine?] at hLine
    obtain ⟨hNo, hText⟩ := Option.ite_none_left_eq_some.mp hLine
    cases hText
    exact ⟨tail, rfl, rfl, by simpa using hNo⟩
  · rintro ⟨tail, rfl, rfl, hLine⟩
    have hNo : (trimStart tail).contains '\n' = false := by simpa using hLine
    change singleLine? (trimStart tail) = some (trimStart tail)
    rw [singleLine?, hNo]
    rfl

theorem afterSpacedDashes?_eq_some {s text : List Char} :
    afterSpacedDashes? s = some text ↔ DashesAt s text := by
  rw [afterSpacedDashes?, afterBlanks?]
  constructor
  · intro h
    obtain ⟨rest, hRest, hDashes⟩ := Option.bind_eq_some_iff.mp h
    obtain ⟨hBlank, hTrim⟩ := Option.ite_none_right_eq_some.mp hRest
    obtain ⟨tail, hTail, rfl, hLine⟩ := afterDashes?_eq_some.mp hDashes
    obtain ⟨blanks, hBlanks, hSplit⟩ := exists_blanks_append s
    cases hTrim
    rw [hTail] at hSplit
    refine ⟨⟨blanks, tail, ?_, hBlanks, hSplit, rfl⟩, hLine⟩
    rintro rfl
    rw [hSplit] at hBlank
    cases hBlank
  · rintro ⟨⟨blanks, tail, hSome, hBlanks, rfl, rfl⟩, hLine⟩
    cases blanks with
    | nil => exact absurd rfl hSome
    | cons b blanks =>
      have hb : isBlank b = true := hBlanks b List.mem_cons_self
      have hTrim : trimStart (b :: blanks ++ '-' :: '-' :: tail) = '-' :: '-' :: tail := by
        rw [trimStart_append hBlanks, trimStart_cons (by decide)]
      rw [List.cons_append] at hTrim ⊢
      rw [List.head?_cons, Option.any_some, if_pos hb, hTrim]
      exact afterDashes?_eq_some.mpr ⟨tail, rfl, rfl, hLine⟩

theorem splitKey_append (quoted : Bool) (s : List Char) :
    (splitKey quoted s).1 ++ (splitKey quoted s).2 = s := by
  induction s generalizing quoted with
  | nil => rfl
  | cons c rest ih =>
    rw [splitKey]
    split
    · exact congrArg (c :: ·) (ih _)
    · split
      · rfl
      · exact congrArg (c :: ·) (ih _)

theorem splitKey_cons_quoted (c : Char) (rest : List Char) :
    splitKey true (c :: rest) =
      (c :: (splitKey (c != '"') rest).1, (splitKey (c != '"') rest).2) := rfl

theorem splitKey_cons_plain {c : Char} {rest : List Char} (hBlank : isBlank c = false)
    (hClosed : c = '"' → '"' ∈ rest) :
    splitKey false (c :: rest) =
      (c :: (splitKey (c == '"') rest).1, (splitKey (c == '"') rest).2) := by
  have hGoes : ¬(isBlank c || (c == '"' && !rest.contains '"')) = true := by simpa [hBlank]
  rw [splitKey, if_neg (by decide), if_neg hGoes]

theorem splitKey_quoted {body : List Char} (hBody : '"' ∉ body) (s : List Char) :
    splitKey true (body ++ '"' :: s) =
      (body ++ '"' :: (splitKey false s).1, (splitKey false s).2) := by
  induction body with
  | nil => rfl
  | cons c body ih =>
    obtain ⟨hc, hBody⟩ : ¬ '"' = c ∧ '"' ∉ body := by simpa using hBody
    have hNe : (c != '"') = true := by simpa using Ne.symm hc
    rw [List.cons_append, splitKey_cons_quoted, hNe, ih hBody]
    rfl

theorem splitKey_keyText {key : List Char} (hKey : IsKeyText key) {b : Char}
    (hb : isBlank b = true) (s : List Char) : splitKey false (key ++ b :: s) = (key, b :: s) := by
  induction hKey with
  | nil => simp [splitKey, hb]
  | @plain c rest hBlank hQuote _ ih =>
    have hBeq : (c == '"') = false := by simpa using hQuote
    rw [List.cons_append, splitKey_cons_plain hBlank fun h => absurd h hQuote, hBeq, ih]
  | @quoted body rest hBody _ ih =>
    rw [List.cons_append, List.append_assoc, List.cons_append,
      splitKey_cons_plain (by decide) fun _ => by simp, show ('"' == '"') = true from rfl,
      splitKey_quoted hBody, ih]

theorem isKeyText_splitKey (s : List Char) :
    IsKeyText (splitKey false s).1 ∧
      ('"' ∈ s → ∃ body rest, '"' ∉ body ∧ IsKeyText rest ∧
        (splitKey true s).1 = body ++ '"' :: rest) := by
  -- a quote that opens in one part is closed in the other, so both go through together
  induction s with
  | nil => exact ⟨.nil, by simp⟩
  | cons c rest ih =>
    obtain ⟨ihPlain, ihQuoted⟩ := ih
    constructor
    · by_cases hStop : isBlank c = true ∨ (c = '"' ∧ '"' ∉ rest)
      · have hEnd : (isBlank c || (c == '"' && !rest.contains '"')) = true := by simpa using hStop
        rw [splitKey, if_neg (by decide), if_pos hEnd]
        exact .nil
      · obtain ⟨hBlank, hClosed⟩ : isBlank c = false ∧ (c = '"' → '"' ∈ rest) := by
          simpa using hStop
        rw [splitKey_cons_plain hBlank hClosed]
        by_cases hQuote : c = '"'
        · obtain ⟨body, more, hBody, hMore, hSplit⟩ := ihQuoted (hClosed hQuote)
          have hBeq : (c == '"') = true := by simpa using hQuote
          rw [hBeq, hSplit, hQuote]
          exact .quoted hBody hMore
        · have hBeq : (c == '"') = false := by simpa using hQuote
          rw [hBeq]
          exact .plain hBlank hQuote ihPlain
    · intro hMem
      rw [splitKey_cons_quoted]
      by_cases hQuote : c = '"'
      · refine ⟨[], (splitKey false rest).1, by simp, ihPlain, ?_⟩
        rw [hQuote]
        rfl
      · have hBne : (c != '"') = true := by simpa using hQuote
        have hRest : '"' ∈ rest := by
          rcases List.mem_cons.mp hMem with hEq | hRest
          · exact absurd hEq.symm hQuote
          · exact hRest
        obtain ⟨body, more, hBody, hMore, hSplit⟩ := ihQuoted hRest
        refine ⟨c :: body, more, ?_, hMore, ?_⟩
        · simp [hBody, Ne.symm hQuote]
        · rw [hBne, hSplit]
          rfl

/-- A line with a mark, blanks, a key text, and dashes behind a blank. -/
structure HasForm (line key text : List Char) : Prop where
  parts : ∃ lead gap rest, (∀ c ∈ lead, isBlank c = true) ∧ (∀ c ∈ gap, isBlank c = true) ∧
    line = lead ++ '#' :: (gap ++ (key ++ rest)) ∧ DashesAt rest text
  isKey : IsKeyText key

/-- A header line: one of that form whose key is not that of a directive. -/
def IsHeaderLine (line : List Char) : Prop :=
  ∃ key text, HasForm line key text ∧ key.head? ≠ some '@'

theorem afterMark?_eq_some {line body : List Char} :
    afterMark? line = some body ↔
      ∃ lead, (∀ c ∈ lead, isBlank c = true) ∧ line = lead ++ '#' :: body := by
  rw [afterMark?]
  constructor
  · intro h
    obtain ⟨lead, hLead, hSplit⟩ := exists_blanks_append line
    split at h
    · rename_i rest hTrim
      cases h
      exact ⟨lead, hLead, hTrim ▸ hSplit⟩
    · cases h
  · rintro ⟨lead, hLead, rfl⟩
    rw [trimStart_append hLead, trimStart_cons (by decide)]
    rfl

theorem hasForm_of_readHeader? {line key text : List Char}
    (h : readHeader? line = some (key, text)) : HasForm line key text := by
  obtain ⟨body, hBody, hRead⟩ := Option.bind_eq_some_iff.mp h
  obtain ⟨lead, hLead, rfl⟩ := afterMark?_eq_some.mp hBody
  obtain ⟨gap, hGap, hSplit⟩ := exists_blanks_append body
  have hKey := splitKey_append false (trimStart body)
  cases hFound : afterSpacedDashes? (splitKey false (trimStart body)).2 with
  | some found =>
    simp only [hFound] at hRead
    cases hRead
    refine ⟨⟨lead, gap, _, hLead, hGap, ?_, afterSpacedDashes?_eq_some.mp hFound⟩,
      (isKeyText_splitKey _).1⟩
    rw [hKey, ← hSplit]
  | none =>
    simp only [hFound] at hRead
    obtain ⟨found, hBodyFound, hPair⟩ := Option.map_eq_some_iff.mp hRead
    cases hPair
    exact ⟨⟨lead, [], body, hLead, by simp, rfl, afterSpacedDashes?_eq_some.mp hBodyFound⟩, .nil⟩

theorem IsKeyText.isBlank_head {key : List Char} (h : IsKeyText key) {c : Char} {rest : List Char}
    (hKey : key = c :: rest) : isBlank c = false := by
  cases h with
  | nil => cases hKey
  | plain hBlank _ _ =>
    cases hKey
    exact hBlank
  | quoted _ _ =>
    cases hKey
    decide

theorem head?_splitKey_dashes (quoted : Bool) (tail : List Char) :
    (splitKey quoted ('-' :: '-' :: tail)).1.head? ≠ some '@' := by
  intro hHead
  have hKey := splitKey_append quoted ('-' :: '-' :: tail)
  cases hSplit : (splitKey quoted ('-' :: '-' :: tail)).1 with
  | nil =>
    rw [hSplit] at hHead
    cases hHead
  | cons c key =>
    rw [hSplit] at hHead hKey
    cases hHead
    exact absurd (List.cons.inj hKey).1 (by decide)

theorem HasForm.exists_readHeader? {line key text : List Char} (h : HasForm line key text)
    (hKeyHead : key.head? ≠ some '@') :
    ∃ found, readHeader? line = some found ∧ found.1.head? ≠ some '@' := by
  obtain ⟨⟨lead, gap, rest, hLead, hGap, hLine, hDashes⟩, hKey⟩ := h
  have hMark : afterMark? line = some (gap ++ (key ++ rest)) :=
    afterMark?_eq_some.mpr ⟨lead, hLead, hLine⟩
  rw [readHeader?, hMark, Option.bind_eq_bind, Option.bind_some, trimStart_append hGap]
  obtain ⟨⟨blanks, tail, hSome, hBlanks, rfl, hText⟩, hOneLine⟩ := hDashes
  cases key with
  | nil =>
    have hBody : afterSpacedDashes? (gap ++ (blanks ++ '-' :: '-' :: tail)) = some text := by
      refine afterSpacedDashes?_eq_some.mpr
        ⟨⟨gap ++ blanks, tail, ?_, ?_, by simp, hText⟩, hOneLine⟩
      · simp [hSome]
      · intro c hc
        rcases List.mem_append.mp hc with hc | hc
        · exact hGap c hc
        · exact hBlanks c hc
    have hTrim : trimStart (blanks ++ '-' :: '-' :: tail) = '-' :: '-' :: tail := by
      rw [trimStart_append hBlanks, trimStart_cons (by decide)]
    have hHead := head?_splitKey_dashes false tail
    simp only [List.nil_append, hTrim]
    cases hFound : afterSpacedDashes? (splitKey false ('-' :: '-' :: tail)).2 with
    | some found => exact ⟨((splitKey false ('-' :: '-' :: tail)).1, found), rfl, hHead⟩
    | none =>
      refine ⟨([], text), ?_, by simp⟩
      simp only [hBody, Option.map_some]
  | cons c key =>
    obtain ⟨b, more, rfl⟩ := List.exists_cons_of_ne_nil hSome
    have hb : isBlank b = true := hBlanks b List.mem_cons_self
    have hRest : afterSpacedDashes? (b :: (more ++ '-' :: '-' :: tail)) = some text :=
      afterSpacedDashes?_eq_some.mpr ⟨⟨b :: more, tail, hSome, hBlanks, rfl, hText⟩, hOneLine⟩
    have hTrim : trimStart (c :: key ++ (b :: more ++ '-' :: '-' :: tail)) =
        c :: key ++ b :: (more ++ '-' :: '-' :: tail) :=
      trimStart_cons (hKey.isBlank_head rfl) _
    rw [hTrim, splitKey_keyText hKey hb]
    refine ⟨(c :: key, text), ?_, hKeyHead⟩
    simp only [hRest]

theorem isSome_headerKey? {line : List Char} :
    (headerKey? line).isSome = true ↔ IsHeaderLine line := by
  constructor
  · intro h
    obtain ⟨key, hKey⟩ := Option.isSome_iff_exists.mp h
    obtain ⟨found, hRead, hHead⟩ := Option.bind_eq_some_iff.mp hKey
    obtain ⟨hNo, -⟩ := Option.ite_none_left_eq_some.mp hHead
    exact ⟨found.1, found.2, hasForm_of_readHeader? hRead, hNo⟩
  · rintro ⟨key, text, hForm, hHead⟩
    obtain ⟨found, hRead, hFound⟩ := hForm.exists_readHeader? hHead
    rw [headerKey?, hRead]
    simp [hFound]

theorem headerKey?_eq_none {line : List Char} :
    headerKey? line = none ↔ ¬IsHeaderLine line := by
  rw [← isSome_headerKey?, Bool.not_eq_true, Option.isSome_eq_false_iff, Option.isNone_iff_eq_none]

theorem IsHeaderLine.exists_blank {line : List Char} (h : IsHeaderLine line) :
    ∃ before b after, line = before ++ b :: '-' :: '-' :: after ∧ isBlank b = true := by
  obtain ⟨key, text, ⟨⟨lead, gap, rest, -, -, rfl, hDashes⟩, -⟩, -⟩ := h
  obtain ⟨⟨blanks, tail, hSome, hBlanks, rfl, -⟩, -⟩ := hDashes
  refine ⟨lead ++ '#' :: (gap ++ (key ++ blanks.dropLast)), blanks.getLast hSome, tail, ?_,
    hBlanks _ (List.getLast_mem hSome)⟩
  have hLast : blanks = blanks.dropLast ++ [blanks.getLast hSome] :=
    (List.dropLast_concat_getLast hSome).symm
  calc lead ++ '#' :: (gap ++ (key ++ (blanks ++ '-' :: '-' :: tail)))
      = lead ++ '#' :: (gap ++ (key ++
          (blanks.dropLast ++ [blanks.getLast hSome] ++ '-' :: '-' :: tail))) := by rw [← hLast]
    _ = _ := by simp

end Comment

end ConfigReference
