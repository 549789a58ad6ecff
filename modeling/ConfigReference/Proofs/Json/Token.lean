import Mathlib.Data.List.TakeWhile
import Mathlib.Data.Nat.Basic
import ConfigReference.Json.Printer
import ConfigReference.Json.Reader

/-!
# Tokens of JSON that read back

Blanks are passed over, and quoted strings and integers are read as they were written, whatever
comes after them.
-/

set_option autoImplicit false

namespace ConfigReference.Json

/-! ## Blanks -/

def Blank (s : List Char) : Prop := ∀ c ∈ s, isSpace c = true

theorem skipSpace_append {s : List Char} (h : Blank s) (rest : List Char) :
    skipSpace (s ++ rest) = skipSpace rest := List.dropWhile_append_of_pos h

theorem skipSpace_cons {c : Char} (h : isSpace c = false) (rest : List Char) :
    skipSpace (c :: rest) = c :: rest := List.dropWhile_cons_of_neg (by simp [h])

/-! ## Strings -/

theorem hexValue?_hexDigit (n : Nat) : hexValue? (hexDigit n) = some (n % 16) := by
  have hDigits : ∀ d < 16, hexValue? (Nat.digitChar d) = some d := by decide
  exact hDigits (n % 16) (Nat.mod_lt n (by decide))

theorem readUnit_hexDigits (n : Nat) (rest : List Char) :
    readUnit ('0' :: '0' :: hexDigit (n / 16) :: hexDigit n :: rest) = some (n % 256, rest) := by
  have hZero : hexValue? '0' = some 0 := by decide
  have hUnit : ((0 * 16 + 0) * 16 + n / 16 % 16) * 16 + n % 16 = n % 256 := by omega
  simp [readUnit, hZero, hexValue?_hexDigit, ← hUnit]

theorem escapeChar_cases (c : Char) :
    (∃ e, simpleEscape? e = some c ∧ escapeChar c = ['\\', e]) ∨
    (c.toNat < 0x20 ∧
      escapeChar c = ['\\', 'u', '0', '0', hexDigit (c.toNat / 16), hexDigit c.toNat]) ∨
    (c ≠ '"' ∧ c ≠ '\\' ∧ 0x20 ≤ c.toNat ∧ escapeChar c = [c]) := by
  by_cases hQuote : c = '"'
  · exact .inl ⟨'"', by rw [hQuote]; rfl, by rw [hQuote]; rfl⟩
  by_cases hSlash : c = '\\'
  · exact .inl ⟨'\\', by rw [hSlash]; rfl, by rw [hSlash]; rfl⟩
  by_cases hFeed : c = '\n'
  · exact .inl ⟨'n', by rw [hFeed]; rfl, by rw [hFeed]; rfl⟩
  by_cases hReturn : c = '\r'
  · exact .inl ⟨'r', by rw [hReturn]; rfl, by rw [hReturn]; rfl⟩
  by_cases hTab : c = '\t'
  · exact .inl ⟨'t', by rw [hTab]; rfl, by rw [hTab]; rfl⟩
  by_cases hBack : c.toNat = 0x08
  · obtain rfl : c = Char.ofNat 0x08 := Char.toNat_inj.mp hBack
    exact .inl ⟨'b', rfl, rfl⟩
  by_cases hForm : c.toNat = 0x0C
  · obtain rfl : c = Char.ofNat 0x0C := Char.toNat_inj.mp hForm
    exact .inl ⟨'f', rfl, rfl⟩
  by_cases hLow : c.toNat < 0x20
  · exact .inr (.inl ⟨hLow, by
      simp [escapeChar, hQuote, hSlash, hFeed, hReturn, hTab, hBack, hForm, hLow]⟩)
  · exact .inr (.inr ⟨hQuote, hSlash, by omega, by
      simp [escapeChar, hQuote, hSlash, hFeed, hReturn, hTab, hBack, hForm, hLow]⟩)

theorem escapeChar_ne_nil (c : Char) : escapeChar c ≠ [] := by
  rcases escapeChar_cases c with ⟨e, -, h⟩ | ⟨-, h⟩ | ⟨-, -, -, h⟩ <;> rw [h] <;>
    exact List.cons_ne_nil _ _

theorem readQuoted_simpleEscape {e c : Char} (h : simpleEscape? e = some c) (fuel : Nat)
    (passed rest : List Char) :
    readQuoted (fuel + 1) passed ('\\' :: e :: rest) = readQuoted fuel (c :: passed) rest := by
  unfold simpleEscape? at h
  split at h <;> cases h <;> rfl

theorem readQuoted_plain {c : Char} (hQuote : c ≠ '"') (hSlash : c ≠ '\\') (hHigh : 0x20 ≤ c.toNat)
    (fuel : Nat) (passed rest : List Char) :
    readQuoted (fuel + 1) passed (c :: rest) = readQuoted fuel (c :: passed) rest := by
  simp [readQuoted, hSlash, Nat.not_lt.mpr hHigh]

theorem readQuoted_escapeChar (c : Char) (fuel : Nat) (passed rest : List Char) :
    readQuoted (fuel + 1) passed (escapeChar c ++ rest) = readQuoted fuel (c :: passed) rest := by
  rcases escapeChar_cases c with ⟨e, hLetter, h⟩ | ⟨hLow, h⟩ | ⟨hQuote, hSlash, hHigh, h⟩
  · rw [h]
    exact readQuoted_simpleEscape hLetter fuel passed rest
  · have hUnit : c.toNat % 256 = c.toNat := by omega
    have hFirst : ¬0xDC00 ≤ c.toNat := by omega
    have hSecond : ¬0xD800 ≤ c.toNat := by omega
    rw [h]
    simp [readQuoted, readEscapedUnit, readUnit_hexDigits, hUnit, hFirst, hSecond]
  · rw [h]
    exact readQuoted_plain hQuote hSlash hHigh fuel passed rest

theorem readQuoted_escaped (s rest passed : List Char) {fuel : Nat} (hFuel : s.length < fuel) :
    readQuoted fuel passed (s.flatMap escapeChar ++ '"' :: rest) =
      some (.ofList (passed.reverse ++ s), rest) := by
  induction s generalizing passed fuel with
  | nil =>
    obtain ⟨fuel, rfl⟩ := Nat.exists_eq_succ_of_ne_zero (Nat.ne_of_gt hFuel)
    simp [readQuoted]
  | cons c s ih =>
    obtain ⟨fuel, rfl⟩ := Nat.exists_eq_succ_of_ne_zero (Nat.ne_zero_of_lt hFuel)
    rw [List.flatMap_cons, List.append_assoc, readQuoted_escapeChar,
      ih _ (Nat.lt_of_succ_lt_succ hFuel)]
    simp

theorem length_le_flatMap_escapeChar (s : List Char) : s.length ≤ (s.flatMap escapeChar).length := by
  induction s with
  | nil => exact Nat.le_refl 0
  | cons c s ih =>
    have hPos := List.length_pos_iff.mpr (escapeChar_ne_nil c)
    rw [List.flatMap_cons, List.length_append, List.length_cons]
    omega

theorem quote_append (s rest : List Char) :
    quote s ++ rest = '"' :: (s.flatMap escapeChar ++ '"' :: rest) := by
  simp [quote]

theorem readQuoted_quote (s : String) (rest : List Char) {fuel : Nat}
    (hFuel : (s.toList.flatMap escapeChar ++ '"' :: rest).length ≤ fuel) :
    readQuoted fuel [] (s.toList.flatMap escapeChar ++ '"' :: rest) = some (s, rest) := by
  have hLength := length_le_flatMap_escapeChar s.toList
  rw [List.length_append, List.length_cons] at hFuel
  rw [readQuoted_escaped s.toList rest [] (by omega)]
  simp

/-! ## Integers -/

/-- What stands behind a value: nothing, or a blank, a comma or a closing bracket. -/
def EndsValue (rest : List Char) : Prop :=
  ∀ c ∈ rest.head?, (isSpace c || c == ',' || c == ']' || c == '}') = true

theorem head?_toDigits {n : Nat} (h : 0 < n) : (Nat.toDigits 10 n).head? ≠ some '0' := by
  induction n using Nat.strongRecOn with
  | ind n ih =>
    rw [Nat.toDigits_eq_if (by decide)]
    split
    · simp [Nat.digitChar_eq_zero, Nat.ne_of_gt h]
    · obtain ⟨d, digits, hDigits⟩ := List.exists_cons_of_ne_nil
        (Nat.toDigits_ne_nil : Nat.toDigits 10 (n / 10) ≠ [])
      have hHead := ih (n / 10) (by omega) (by omega)
      rwa [hDigits] at hHead ⊢

theorem isDigit_of_mem_toDigits {n : Nat} {c : Char} (h : c ∈ Nat.toDigits 10 n) :
    c.isDigit = true := Nat.isDigit_of_mem_toDigits (by decide) (by decide) h

theorem not_isDigit_of_endsValue {rest : List Char} (h : EndsValue rest) :
    ∀ c ∈ rest.head?, c.isDigit = false := by
  intro c hc
  have hEnd := h c hc
  simp only [isSpace, Bool.or_eq_true, beq_iff_eq] at hEnd
  rcases hEnd with (((((rfl | rfl) | rfl) | rfl) | rfl) | rfl) | rfl <;> rfl

theorem span_toDigits (n : Nat) {rest : List Char} (h : EndsValue rest) :
    (Nat.toDigits 10 n ++ rest).takeWhile Text.isAsciiDigit = Nat.toDigits 10 n ∧
      (Nat.toDigits 10 n ++ rest).dropWhile Text.isAsciiDigit = rest := by
  have hDigits : ∀ c ∈ Nat.toDigits 10 n, Text.isAsciiDigit c = true := by
    intro c hc
    exact isDigit_of_mem_toDigits hc
  rw [List.takeWhile_append_of_pos hDigits, List.dropWhile_append_of_pos hDigits]
  cases rest with
  | nil => simp
  | cons c rest =>
    have hStop : Text.isAsciiDigit c = false := not_isDigit_of_endsValue h c rfl
    simp [hStop]

theorem leadingDigits_eq {digits : List Char} {value : Nat}
    (h : Nat.ofDigitChars 10 digits value < Decimal.twoPow 64) :
    leadingDigits value digits = (Nat.ofDigitChars 10 digits value, 0) := by
  induction digits generalizing value with
  | nil => rfl
  | cons d digits ih =>
    have hNext : 10 * value + Text.digitsValue [d] = 10 * value + (d.toNat - '0'.toNat) := by
      simp [Text.digitsValue]
    rw [Nat.ofDigitChars_cons] at h ⊢
    have hFits : 10 * value + (d.toNat - '0'.toNat) < Decimal.twoPow 64 := by
      refine Nat.lt_of_le_of_lt ?_ h
      rw [Nat.ofDigitChars_eq_ofDigitChars_zero]
      exact Nat.le_add_right_of_le (Nat.le_mul_of_pos_left _ (Nat.pow_pos (by decide)))
    rw [leadingDigits, hNext]
    simp only [hFits, if_true]
    exact ih h

theorem readMagnitude_toDigits {n : Nat} (h : n < Decimal.twoPow 64) {rest : List Char}
    (hRest : EndsValue rest) :
    readMagnitude (Nat.toDigits 10 n) rest = some (.int n, rest) := by
  have hLeading : leadingDigits 0 (Nat.toDigits 10 n) = (n, 0) := by
    rw [← Nat.ofDigitChars_ten_toDigits (n := n)] at h
    rw [leadingDigits_eq h, Nat.ofDigitChars_ten_toDigits]
  cases rest with
  | nil => simp [readMagnitude, hLeading]
  | cons c rest =>
    have hEnd := hRest c rfl
    have hPoint : c ≠ '.' := by rintro rfl; contradiction
    have hPower : (c == 'e' || c == 'E') = false := by
      by_contra hLetter
      simp only [Bool.not_eq_false, Bool.or_eq_true, beq_iff_eq] at hLetter
      rcases hLetter with rfl | rfl <;> contradiction
    simp [readMagnitude, hLeading, hPoint, hPower]

def FitsInteger (n : Int) : Prop := -(Decimal.twoPow 63 : Int) ≤ n ∧ n < Decimal.twoPow 64

theorem render_int (n : Int) :
    (Number.int n).render = (if 0 ≤ n then [] else ['-']) ++ Nat.toDigits 10 n.natAbs := by
  rw [Number.render, Int.toString_eq_repr, Int.repr_eq_if]
  split
  · rename_i hSign
    have hAbs : n.toNat = n.natAbs := by omega
    simp [Nat.repr_eq_ofList_toDigits, hAbs]
  · have hAbs : (-n).toNat = n.natAbs := by omega
    simp [Nat.repr_eq_ofList_toDigits, hAbs]

theorem head?_toDigits_of_length {n : Nat} (h : ¬(Nat.toDigits 10 n).length = 1) :
    ¬(Nat.toDigits 10 n).head? = some '0' := by
  rcases Nat.eq_zero_or_pos n with rfl | hPos
  · exact absurd rfl h
  · exact head?_toDigits hPos

theorem readNumber_toDigits {n : Nat} (h : n < Decimal.twoPow 64) {rest : List Char}
    (hRest : EndsValue rest) :
    readNumber (Nat.toDigits 10 n ++ rest) = some (.int n, rest) := by
  obtain ⟨hWhole, hBehind⟩ := span_toDigits n hRest
  obtain ⟨d, digits, hDigits⟩ := List.exists_cons_of_ne_nil
    (Nat.toDigits_ne_nil : Nat.toDigits 10 n ≠ [])
  have hUnsigned : ∀ tail, Nat.toDigits 10 n ++ rest ≠ '-' :: tail := by
    rintro tail hSign
    have hDigit : d.isDigit = true := isDigit_of_mem_toDigits (hDigits ▸ List.mem_cons_self)
    rw [hDigits] at hSign
    obtain rfl : d = '-' := (List.cons.inj hSign).1
    contradiction
  rw [readNumber]
  · simpa [hWhole, hBehind, readMagnitude_toDigits h hRest] using head?_toDigits_of_length
  · exact hUnsigned

theorem readNumber_neg_toDigits {n : Nat} (hPos : 0 < n) (h : n ≤ Decimal.twoPow 63)
    {rest : List Char} (hRest : EndsValue rest) :
    readNumber ('-' :: (Nat.toDigits 10 n ++ rest)) = some (.int (-n), rest) := by
  obtain ⟨hWhole, hBehind⟩ := span_toDigits n hRest
  have hWide : n < Decimal.twoPow 64 := Nat.lt_of_le_of_lt h (by decide)
  have hNone : n ≠ 0 := Nat.ne_of_gt hPos
  simpa [readNumber, hWhole, hBehind, readMagnitude_toDigits hWide hRest, hNone, h] using
    head?_toDigits_of_length

theorem readNumber_render {n : Int} (h : FitsInteger n) {rest : List Char}
    (hRest : EndsValue rest) :
    readNumber ((Number.int n).render ++ rest) = some (.int n, rest) := by
  obtain ⟨hLow, hHigh⟩ := h
  rw [render_int]
  split
  · rename_i hSign
    have hAbs : (n.natAbs : Int) = n := by omega
    rw [List.nil_append, readNumber_toDigits (by omega) hRest, hAbs]
  · have hAbs : -(n.natAbs : Int) = n := by omega
    rw [List.append_assoc, List.singleton_append,
      readNumber_neg_toDigits (by omega) (by omega) hRest, hAbs]

end ConfigReference.Json
