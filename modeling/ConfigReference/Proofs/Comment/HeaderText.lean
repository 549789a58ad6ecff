import ConfigReference.Proofs.Comment.Reading

/-!
# Header texts

The text of a header falls into a type label, a run of flags and what remains. A flag is told by its
form alone, an `@` with a word and a gap behind it. So a word that names no flag goes into the run
as well, and a description keeps nothing of it.
-/

set_option autoImplicit false

namespace ConfigReference

namespace Text

/-! ## Blanks are no word characters -/

def blankCodes : List Nat :=
  [0x09, 0x0A, 0x0B, 0x0C, 0x0D, 0x20, 0x85, 0xA0, 0x1680, 0x2000, 0x2001, 0x2002, 0x2003, 0x2004,
    0x2005, 0x2006, 0x2007, 0x2008, 0x2009, 0x200A, 0x2028, 0x2029, 0x202F, 0x205F, 0x3000]

theorem toNat_mem_blankCodes {c : Char} (h : isBlank c = true) : c.toNat ∈ blankCodes := by
  simp only [isBlank, Bool.or_eq_true, Bool.and_eq_true, decide_eq_true_eq, beq_iff_eq] at h
  simp only [blankCodes, List.mem_cons, List.not_mem_nil, or_false]
  omega

/-- Boundaries read off a list: the kernel walks a list once, and an array anew at every index. -/
theorem inBoundaries_toArray (bounds : List Nat) (n : Nat) :
    inBoundaries bounds.toArray n =
      bounds.foldl (fun inside b => bif Nat.ble b n then !inside else inside) false := by
  rw [inBoundaries, List.foldl_toArray]
  refine congrArg (bounds.foldl · false) (funext fun inside => funext fun b => ?_)
  cases hBelow : Nat.ble b n with
  | false => exact if_neg fun hLe => Bool.false_ne_true (hBelow.symm.trans (Nat.ble_eq.mpr hLe))
  | true => exact if_pos (Nat.ble_eq.mp hBelow)

theorem inClass_of_isBlank {ascii : Char → Bool} {bounds : List Nat}
    (hAscii : ∀ n ∈ blankCodes, n < 0x80 → ascii (Char.ofNat n) = false)
    (hBounds : ∀ n ∈ blankCodes, 0x80 ≤ n →
      bounds.foldl (fun inside b => bif Nat.ble b n then !inside else inside) false = false)
    {c : Char} (h : isBlank c = true) : inClass ascii bounds.toArray c = false := by
  have hCode : c.toNat ∈ blankCodes := toNat_mem_blankCodes h
  rw [inClass, inBoundaries_toArray]
  split
  · rename_i hSmall
    simpa using hAscii c.toNat hCode hSmall
  · rename_i hLarge
    exact hBounds c.toNat hCode (Nat.le_of_not_lt hLarge)

theorem isWordChar_of_isBlank {c : Char} (h : isBlank c = true) : isWordChar c = false := by
  have hAlphabetic : isAlphabetic c = false :=
    inClass_of_isBlank (by decide +kernel) (by decide +kernel) h
  have hDecimal : isDecimal c = false :=
    inClass_of_isBlank (by decide +kernel) (by decide +kernel) h
  have hMark : isMark c = false :=
    inClass_of_isBlank (by decide +kernel) (by decide +kernel) h
  have hConnector : isConnector c = false := by
    have hAll : ∀ n ∈ blankCodes, isConnector (Char.ofNat n) = false := by decide
    simpa using hAll c.toNat (toNat_mem_blankCodes h)
  rw [isWordChar, hAlphabetic, hDecimal, hMark, hConnector]
  rfl

end Text

namespace Comment

open Text

theorem afterWord?_eq_some {word s rest : List Char} :
    afterWord? word s = some rest ↔ s = word ++ rest := by
  rw [afterWord?, Option.ite_none_right_eq_some, List.isPrefixOf_iff_prefix]
  constructor
  · rintro ⟨⟨tail, rfl⟩, hRest⟩
    obtain rfl : tail = rest := by simpa using hRest
    rfl
  · rintro rfl
    exact ⟨List.prefix_append word rest, by simp⟩

/-- `s` begins with at least one blank, and `rest` is what comes behind all of them. -/
structure GapAt (s rest : List Char) : Prop where
  parts : ∃ gap, gap ≠ [] ∧ (∀ c ∈ gap, isBlank c = true) ∧ s = gap ++ rest
  isEnd : ∀ c ∈ rest.head?, isBlank c = false

theorem afterBlanks?_eq_some {s rest : List Char} : afterBlanks? s = some rest ↔ GapAt s rest := by
  rw [afterBlanks?, Option.ite_none_right_eq_some]
  constructor
  · rintro ⟨hHead, hTrim⟩
    cases hTrim
    cases s with
    | nil => cases hHead
    | cons b tail =>
      have hb : isBlank b = true := hHead
      obtain ⟨gap, hGap, hSplit⟩ := exists_blanks_append tail
      have hTrim : trimStart (b :: tail) = trimStart tail := List.dropWhile_cons_of_pos hb
      refine ⟨⟨b :: gap, by simp, ?_, ?_⟩, isBlank_head_trimStart _⟩
      · exact List.forall_mem_cons.mpr ⟨hb, hGap⟩
      · rw [hTrim, List.cons_append, ← hSplit]
  · rintro ⟨⟨gap, hSome, hGap, rfl⟩, hEnd⟩
    obtain ⟨b, more, rfl⟩ := List.exists_cons_of_ne_nil hSome
    refine ⟨hGap b List.mem_cons_self, ?_⟩
    rw [trimStart_append hGap, trimStart_of_head hEnd]

/-! ## The label -/

/-- `s` begins with a type in parentheses, and `rest` comes behind the gap that follows. -/
structure LabelAt (s label rest : List Char) : Prop where
  ne_nil : label ≠ []
  isOpen : ')' ∉ label
  parts : ∃ after, s = '(' :: (label ++ ')' :: after) ∧ GapAt after rest

theorem splitType?_eq_some {s label rest : List Char} :
    splitType? s = some (label, rest) ↔ LabelAt s label rest := by
  constructor
  · intro h
    obtain ⟨body, hBody, h⟩ := Option.bind_eq_some_iff.mp h
    obtain ⟨tail, hTail, h⟩ := Option.bind_eq_some_iff.mp h
    obtain ⟨found, hFound, h⟩ := Option.bind_eq_some_iff.mp h
    obtain ⟨hSome, hPair⟩ := Option.ite_none_left_eq_some.mp h
    cases hPair
    have hSplit := List.prefix_iff_eq_append.mp (List.takeWhile_prefix (l := body) (· != ')'))
    rw [afterWord?_eq_some.mp hTail] at hSplit
    refine ⟨by simpa using hSome, ?_, tail, ?_, afterBlanks?_eq_some.mp hFound⟩
    · intro hMem
      simpa using List.all_eq_true.mp List.all_takeWhile ')' hMem
    · rw [afterWord?_eq_some.mp hBody, ← List.cons_append]
      exact congrArg ('(' :: ·) hSplit.symm
  · rintro ⟨hSome, hOpen, after, rfl, hGap⟩
    have hLabel : (label ++ ')' :: after).takeWhile (· != ')') = label := by
      rw [List.takeWhile_append_of_pos, List.takeWhile_cons_of_neg (by simp), List.append_nil]
      intro c hc
      simpa using fun hEq : c = ')' => hOpen (hEq ▸ hc)
    have hEmpty : label.isEmpty = false := by simpa using hSome
    have hBody : afterWord? ['('] ('(' :: (label ++ ')' :: after)) = some (label ++ ')' :: after) :=
      afterWord?_eq_some.mpr rfl
    have hClose : afterWord? [')'] ((label ++ ')' :: after).drop label.length) = some after :=
      afterWord?_eq_some.mpr (by simp)
    rw [splitType?, hBody]
    simp only [Option.bind_eq_bind, Option.bind_some, hLabel, hClose,
      afterBlanks?_eq_some.mpr hGap, hEmpty, Bool.false_eq_true, if_false]

inductive Labelled (s : List Char) : List Char → List Char → Prop where
  | label {label rest : List Char} (hLabel : LabelAt s label rest) : Labelled s label rest
  | bare (hNone : ∀ label rest, ¬LabelAt s label rest) : Labelled s [] s

theorem labelled_iff {s label rest : List Char} :
    Labelled s label rest ↔ (splitType? s).getD ([], s) = (label, rest) := by
  cases hFound : splitType? s with
  | none =>
    have hNone : ∀ label rest, ¬LabelAt s label rest := by
      intro label rest hLabel
      rw [splitType?_eq_some.mpr hLabel] at hFound
      cases hFound
    constructor
    · rintro (hLabel | -)
      · exact absurd hLabel (hNone label rest)
      · rfl
    · rintro ⟨⟩
      exact .bare hNone
  | some found =>
    have hLabel : LabelAt s found.1 found.2 := splitType?_eq_some.mp hFound
    constructor
    · rintro (hLabel' | hNone)
      · rw [← splitType?_eq_some, hFound] at hLabel'
        exact Option.some.inj hLabel'
      · exact absurd hLabel (hNone _ _)
    · rintro ⟨⟩
      exact .label hLabel

/-! ## Flags -/

/-- `s` begins with an `@` and a word of some kind, and `rest` comes behind the gap that follows. -/
structure FlagAt (isFlag : List Char → Prop) (s word rest : List Char) : Prop where
  isFlag : isFlag word
  parts : ∃ after, s = '@' :: (word ++ after) ∧ GapAt after rest

/-- The run of flags that a text begins with, as long as it can be, and the text behind it. -/
inductive FlagRun (isFlag : List Char → Prop) :
    List Char → List (List Char) → List Char → Prop where
  | stop {s : List Char} (hNone : ∀ word rest, ¬FlagAt isFlag s word rest) : FlagRun isFlag s [] s
  | flag {s word rest text : List Char} {words : List (List Char)}
      (hFlag : FlagAt isFlag s word rest) (hRun : FlagRun isFlag rest words text) :
      FlagRun isFlag s (word :: words) text

def IsWord (word : List Char) : Prop := word ≠ [] ∧ ∀ c ∈ word, isWordChar c = true

def flagNames : List (List Char) :=
  ["hidden", "required", "deprecated", "experimental"].map String.toList

def IsFlagName (word : List Char) : Prop := word ∈ flagNames

theorem IsFlagName.isWord {word : List Char} (h : IsFlagName word) : IsWord word := by
  have hAll : ∀ word ∈ flagNames, word ≠ [] ∧ word.all isWordChar = true := by decide +kernel
  obtain ⟨hSome, hChars⟩ := hAll word h
  exact ⟨hSome, List.all_eq_true.mp hChars⟩

section

variable {isFlag : List Char → Prop} {s word rest text : List Char} {words : List (List Char)}

theorem FlagAt.length_lt (h : FlagAt isFlag s word rest) : rest.length < s.length := by
  obtain ⟨after, rfl, ⟨gap, -, -, rfl⟩, -⟩ := h.parts
  simp only [List.length_cons, List.length_append]
  omega

theorem FlagAt.imp {isOther : List Char → Prop} (h : FlagAt isFlag s word rest)
    (hOther : isOther word) : FlagAt isOther s word rest := ⟨hOther, h.parts⟩

/-- Of the words behind an `@` only the longest can have a gap behind it. -/
theorem flagAt_isWord_iff {body : List Char} :
    FlagAt IsWord ('@' :: body) word rest ↔
      body.takeWhile isWordChar = word ∧ word ≠ [] ∧
        afterBlanks? (body.drop word.length) = some rest := by
  rw [afterBlanks?_eq_some]
  constructor
  · rintro ⟨⟨hSome, hChars⟩, after, hParts, hGap⟩
    obtain rfl : body = word ++ after := (List.cons.inj hParts).2
    refine ⟨?_, hSome, by simpa using hGap⟩
    obtain ⟨⟨gap, hGapSome, hBlanks, rfl⟩, -⟩ := hGap
    obtain ⟨b, more, rfl⟩ := List.exists_cons_of_ne_nil hGapSome
    have hb : isWordChar b = false := isWordChar_of_isBlank (hBlanks b List.mem_cons_self)
    rw [List.takeWhile_append_of_pos hChars, List.cons_append,
      List.takeWhile_cons_of_neg (by simp [hb]), List.append_nil]
  · rintro ⟨rfl, hSome, hGap⟩
    have hSplit := List.prefix_iff_eq_append.mp (List.takeWhile_prefix isWordChar (l := body))
    refine ⟨⟨hSome, List.all_eq_true.mp List.all_takeWhile⟩, _, ?_, hGap⟩
    rw [hSplit]

theorem FlagAt.inj {other more : List Char} (hWord : ∀ word, isFlag word → IsWord word)
    (h : FlagAt isFlag s word rest) (hOther : FlagAt IsWord s other more) :
    word = other ∧ rest = more := by
  have hSame : FlagAt IsWord s word rest := h.imp (hWord word h.isFlag)
  obtain ⟨after, rfl, -⟩ := h.parts
  obtain ⟨hLongest, -, hRest⟩ := flagAt_isWord_iff.mp hSame
  obtain ⟨hOtherLongest, -, hMore⟩ := flagAt_isWord_iff.mp hOther
  obtain rfl : word = other := hLongest.symm.trans hOtherLongest
  exact ⟨rfl, Option.some.inj (hRest.symm.trans hMore)⟩

theorem FlagRun.length_le (h : FlagRun isFlag s words text) : text.length ≤ s.length := by
  induction h with
  | stop hNone => exact Nat.le_refl _
  | flag hFlag hRun ih => exact Nat.le_trans ih (Nat.le_of_lt hFlag.length_lt)

theorem FlagRun.inj (hWord : ∀ word, isFlag word → IsWord word) (h : FlagRun isFlag s words text)
    {others : List (List Char)} {more : List Char} (hOther : FlagRun isFlag s others more) :
    words = others ∧ text = more := by
  induction h generalizing others more with
  | stop hNone =>
    cases hOther with
    | stop => exact ⟨rfl, rfl⟩
    | flag hFlag => exact absurd hFlag (hNone _ _)
  | flag hFlag hRun ih =>
    cases hOther with
    | stop hNone => exact absurd hFlag (hNone _ _)
    | flag hFlag' hRun' =>
      obtain ⟨rfl, rfl⟩ := hFlag.inj hWord (hFlag'.imp (hWord _ hFlag'.isFlag))
      obtain ⟨rfl, rfl⟩ := ih hRun'
      exact ⟨rfl, rfl⟩

/-- The run of some kind of words ends where that of all words does exactly when these are all of
the kind, and then it is the same. -/
theorem FlagRun.eq_iff (hWord : ∀ word, isFlag word → IsWord word)
    (h : FlagRun IsWord s words text) {others : List (List Char)} {more : List Char}
    (hOther : FlagRun isFlag s others more) :
    (more = text → ∀ word ∈ words, isFlag word) ∧
      ((∀ word ∈ words, isFlag word) → others = words ∧ more = text) := by
  induction h generalizing others more with
  | @stop s hNone =>
    cases hOther with
    | stop => simp
    | flag hFlag => exact absurd (hFlag.imp (hWord _ hFlag.isFlag)) (hNone _ _)
  | @flag s word rest text words hFlag hRun ih =>
    cases hOther with
    | stop hNone =>
      constructor
      · rintro rfl
        exact absurd hRun.length_le (Nat.not_le.mpr hFlag.length_lt)
      · intro hAll
        exact absurd (hFlag.imp (hAll word List.mem_cons_self)) (hNone word rest)
    | flag hFlag' hRun' =>
      obtain ⟨rfl, rfl⟩ := hFlag'.inj hWord hFlag
      obtain ⟨ihEnds, ihSame⟩ := ih hRun'
      constructor
      · intro hText
        exact List.forall_mem_cons.mpr ⟨hFlag'.isFlag, ihEnds hText⟩
      · intro hAll
        obtain ⟨rfl, rfl⟩ := ihSame (List.forall_mem_cons.mp hAll).2
        exact ⟨rfl, rfl⟩

end

theorem exists_flagRun (isFlag : List Char → Prop) (s : List Char) :
    ∃ words text, FlagRun isFlag s words text := by
  by_cases hFlag : ∃ word rest, FlagAt isFlag s word rest
  · obtain ⟨word, rest, hFlag⟩ := hFlag
    obtain ⟨words, text, hRun⟩ := exists_flagRun isFlag rest
    exact ⟨word :: words, text, .flag hFlag hRun⟩
  · exact ⟨[], s, .stop fun word rest h => hFlag ⟨word, rest, h⟩⟩
termination_by s.length
decreasing_by exact hFlag.length_lt

theorem splitFlags_of_flag {s word rest : List Char} (h : FlagAt IsWord s word rest) (fuel : Nat) :
    splitFlags (fuel + 1) s =
      (word :: (splitFlags fuel rest).1, (splitFlags fuel rest).2) := by
  obtain ⟨after, rfl, -⟩ := h.parts
  obtain ⟨hLongest, hSome, hRest⟩ := flagAt_isWord_iff.mp h
  have hEmpty : word.isEmpty = false := by simpa using hSome
  simp only [splitFlags, hLongest, hRest, hEmpty, Bool.false_eq_true, if_false]

theorem splitFlags_of_none {s : List Char} (h : ∀ word rest, ¬FlagAt IsWord s word rest)
    (fuel : Nat) : splitFlags fuel s = ([], s) := by
  fun_cases splitFlags fuel s with
  | case3 _ body word rest hGap hSome =>
    have hFlag : FlagAt IsWord ('@' :: body) word rest :=
      flagAt_isWord_iff.mpr ⟨rfl, by simpa using hSome, hGap⟩
    exact absurd hFlag (h word rest)
  | _ => rfl

theorem FlagRun.splitFlags_eq {s text : List Char} {words : List (List Char)}
    (h : FlagRun IsWord s words text) {fuel : Nat} (hFuel : s.length ≤ fuel) :
    splitFlags fuel s = (words, text) := by
  induction h generalizing fuel with
  | stop hNone => exact splitFlags_of_none hNone fuel
  | @flag s word rest text words hFlag hRun ih =>
    have hShort : rest.length < s.length := hFlag.length_lt
    obtain ⟨fuel, rfl⟩ : ∃ n, fuel = n + 1 := Nat.exists_eq_add_one.mpr (by omega)
    rw [splitFlags_of_flag hFlag, ih (by omega)]

/-! ## Header texts -/

structure TextParts where
  label : List Char
  /-- The words of the run of flags. -/
  words : List (List Char)
  text : List Char
  deriving DecidableEq, Repr

/-- What the parts say: a flag is set when its name is a word of the run. -/
def TextParts.description (p : TextParts) : Description where
  text := .ofList p.text
  typeLabel := .ofList p.label
  hidden := p.words.contains "hidden".toList
  required := p.words.contains "required".toList
  deprecated := p.words.contains "deprecated".toList
  experimental := p.words.contains "experimental".toList

/-- `p` are the parts of `s` when the words of some kind are taken for flags. -/
def Splits (isFlag : List Char → Prop) (s : List Char) (p : TextParts) : Prop :=
  ∃ rest, Labelled s p.label rest ∧ FlagRun isFlag rest p.words p.text

theorem Labelled.inj {s label rest other more : List Char} (h : Labelled s label rest)
    (hOther : Labelled s other more) : label = other ∧ rest = more := by
  rw [labelled_iff] at h hOther
  exact Prod.mk.inj (h.symm.trans hOther)

theorem Splits.inj {isFlag : List Char → Prop} (hWord : ∀ word, isFlag word → IsWord word)
    {s : List Char} {p q : TextParts} (hp : Splits isFlag s p) (hq : Splits isFlag s q) :
    p = q := by
  obtain ⟨rest, hLabel, hRun⟩ := hp
  obtain ⟨more, hLabel', hRun'⟩ := hq
  obtain ⟨hSame, rfl⟩ := hLabel.inj hLabel'
  obtain ⟨hWords, hText⟩ := hRun.inj hWord hRun'
  cases p
  cases q
  congr

theorem exists_splits (isFlag : List Char → Prop) (s : List Char) : ∃ p, Splits isFlag s p := by
  obtain ⟨words, text, hRun⟩ := exists_flagRun isFlag ((splitType? s).getD ([], s)).2
  exact ⟨⟨_, words, text⟩, _, labelled_iff.mpr rfl, hRun⟩

theorem Splits.readHeaderText_eq {s : List Char} {p : TextParts} (h : Splits IsWord s p) :
    readHeaderText s = p.description := by
  obtain ⟨rest, hLabel, hRun⟩ := h
  rw [readHeaderText, labelled_iff.mp hLabel]
  simp only [hRun.splitFlags_eq (Nat.le_refl _)]
  rfl

theorem Splits.description_eq_iff {s : List Char} {p q : TextParts} (hp : Splits IsWord s p)
    (hq : Splits IsFlagName s q) :
    q.description = p.description ↔ ∀ word ∈ p.words, IsFlagName word := by
  obtain ⟨rest, hLabel, hRun⟩ := hp
  obtain ⟨more, hLabel', hRun'⟩ := hq
  obtain ⟨hSame, rfl⟩ := hLabel'.inj hLabel
  obtain ⟨hEnds, hAlike⟩ := hRun.eq_iff (fun _ => IsFlagName.isWord) hRun'
  constructor
  · intro hEq
    exact hEnds (String.ofList_injective (congrArg Description.text hEq))
  · intro hAll
    obtain ⟨hWords, hText⟩ := hAlike hAll
    rw [TextParts.description, TextParts.description, hSame, hWords, hText]

theorem headerKey?_of_readHeader? {line key s : List Char} (h : readHeader? line = some (key, s))
    (hKey : key.head? ≠ some '@') : headerKey? line = some key := by
  rw [headerKey?, h]
  simp [hKey]

/-- The text of a header falls into label, flags and text in one way, any words being taken for
flags, and these parts are what a block reads of its header; lines behind the header add to the text
and leave label and flags alone. Taking the names of flags alone for flags is another way, and the
two say the same exactly when all words are names of flags. -/
theorem parse_reads_header_text {line key s : List Char} (h : readHeader? line = some (key, s))
    (hKey : key.head? ≠ some '@') :
    ∃ p, Splits IsWord s p ∧ (∀ other, Splits IsWord s other → other = p) ∧
      (∀ above, parse (above ++ [line]) = some (.ofList key, p.description)) ∧
      (∀ above below, (∀ other ∈ below, headerKey? other = none) →
        ∃ d, parse (above ++ line :: below) = some (.ofList key, d) ∧
          labels d = labels p.description ∧
          ∀ f : Field, f.get d = f.value (.ofList p.text) (cut below).1 (cut below).2) ∧
      ∃ q, Splits IsFlagName s q ∧ (∀ other, Splits IsFlagName s other → other = q) ∧
        (q.description = p.description ↔ ∀ word ∈ p.words, IsFlagName word) := by
  have hHeader : headerKey? line = some key := headerKey?_of_readHeader? h hKey
  obtain ⟨p, hp⟩ := exists_splits IsWord s
  obtain ⟨q, hq⟩ := exists_splits IsFlagName s
  refine ⟨p, hp, fun other hOther => hOther.inj (fun _ => id) hp, ?_, ?_,
    q, hq, fun other hOther => hOther.inj (fun _ => IsFlagName.isWord) hq, hp.description_eq_iff hq⟩
  · intro above
    rw [parse_eq_foldl above hHeader h (by simp), hp.readHeaderText_eq]
    rfl
  · intro above below hBelow
    refine ⟨_, parse_eq_foldl above hHeader h hBelow, ?_, ?_⟩
    · rw [Block.labels_foldl_add, hp.readHeaderText_eq]
    · intro f
      rw [Block.get_foldl_add_header (fun f => get_readHeaderText s), hp.readHeaderText_eq]
      rfl

theorem parse_reads_header_text_of_flags :
    ∃ p, Splits IsWord "(int) @hidden @beta text".toList p ∧
      parse ["# k -- (int) @hidden @beta text".toList] = some ("k", p.description) ∧
      p.description = { text := "text", typeLabel := "int", hidden := true } := by
  have hRead : readHeader? "# k -- (int) @hidden @beta text".toList =
      some ("k".toList, "(int) @hidden @beta text".toList) := by decide
  obtain ⟨p, hSplits, -, hAlone, -⟩ := parse_reads_header_text hRead (by decide)
  have hParse : parse ["# k -- (int) @hidden @beta text".toList] =
      some ("k", { text := "text", typeLabel := "int", hidden := true }) := by decide
  refine ⟨p, hSplits, hAlone [], ?_⟩
  have hSame := (hAlone []).symm.trans hParse
  exact congrArg Prod.snd (Option.some.inj hSame)

/-- A word that is the name of no flag stands in front of the text, and the description has it
nowhere. -/
theorem word_without_flag_is_lost :
    readHeader? "# k -- @internal use only".toList =
      some ("k".toList, "@internal use only".toList) ∧
    Splits IsFlagName "@internal use only".toList ⟨[], [], "@internal use only".toList⟩ ∧
    parse ["# k -- @internal use only".toList] = some ("k", { text := "use only" }) ∧
    parse ["# k -- @internal use only".toList] ≠
      some ("k", TextParts.description ⟨[], [], "@internal use only".toList⟩) := by
  refine ⟨by decide, ⟨_, labelled_iff.mpr (by decide), .stop ?_⟩, by decide, by decide⟩
  intro word rest hFlag
  obtain ⟨hLongest, -, -⟩ := flagAt_isWord_iff.mp (hFlag.imp hFlag.isFlag.isWord)
  have hNo : "internal".toList ∉ flagNames := by decide
  have hWord : word = "internal".toList := hLongest.symm.trans (by decide)
  exact hNo (hWord ▸ hFlag.isFlag)

end Comment

end ConfigReference
