import Mathlib.Data.List.Induction
import Mathlib.Data.Nat.Digits.Defs
import ConfigReference.Yaml.Scalar

/-!
# Reading integers

The notation of integers, with the numbers that their texts denote. A text is read as its number
everywhere between the ends of the 64-bit range but at the least integer, whose digits do not fit
before they have their sign.
-/

set_option autoImplicit false

namespace ConfigReference.Yaml.Scalar

/-! ## Digits -/

def isDigitOf (base : Nat) (c : Char) : Bool := isHexDigit c && decide (hexDigitValue c < base)

def numberOf (base : Nat) (digits : List Char) : Nat :=
  Nat.ofDigits base (digits.map hexDigitValue).reverse

theorem numberOf_concat (base : Nat) (digits : List Char) (c : Char) :
    numberOf base (digits ++ [c]) = base * numberOf base digits + hexDigitValue c := by
  rw [numberOf, List.map_append, List.map_singleton, List.reverse_append, List.reverse_singleton,
    List.singleton_append, Nat.ofDigits_cons, ← numberOf, Nat.add_comm]

theorem digitValue?_eq (base : Nat) (c : Char) :
    digitValue? base c = if isDigitOf base c then some (hexDigitValue c) else none := by
  rw [digitValue?, isDigitOf]
  cases isHexDigit c with
  | true => simp [Option.filter]
  | false => rfl

theorem digitsValue?_eq_some {base : Nat} {s : List Char} {m : Nat} :
    digitsValue? base s = some m ↔
      (∀ c ∈ s, isDigitOf base c = true) ∧ numberOf base s = m := by
  induction s using List.reverseRecOn generalizing m with
  | nil => simp [digitsValue?, numberOf]
  | append_singleton s c ih =>
    have hLast : digitsValue? base (s ++ [c]) =
        (digitsValue? base s).bind fun n => (digitValue? base c).map (base * n + ·) := by
      rw [digitsValue?, List.foldl_append]
      rfl
    rw [hLast, numberOf_concat, List.forall_mem_append, List.forall_mem_singleton,
      digitValue?_eq]
    constructor
    · intro h
      obtain ⟨n, hn, hMap⟩ := Option.bind_eq_some_iff.mp h
      obtain ⟨hDigits, rfl⟩ := ih.mp hn
      obtain ⟨d, hd, rfl⟩ := Option.map_eq_some_iff.mp hMap
      obtain ⟨hDigit, hValue⟩ := Option.ite_none_right_eq_some.mp hd
      cases hValue
      exact ⟨⟨hDigits, hDigit⟩, rfl⟩
    · rintro ⟨⟨hDigits, hDigit⟩, rfl⟩
      rw [ih.mpr ⟨hDigits, rfl⟩, if_pos hDigit]
      rfl

theorem not_isSignChar_of_isDigitOf {base : Nat} {c : Char} (h : isDigitOf base c = true) :
    isSignChar c = false := by
  have hHex : isHexDigit c = true := (Bool.and_eq_true_iff.mp h).1
  have hPlus : c ≠ '+' := by
    rintro rfl
    cases hHex
  have hMinus : c ≠ '-' := by
    rintro rfl
    cases hHex
  simp [isSignChar, hPlus, hMinus]

/-! ## Words -/

theorem fitsWord_iff {n : Int} :
    Decimal.fitsWord n = true ↔ -(2 ^ 63 : Int) ≤ n ∧ n < 2 ^ 63 := by
  have hPower : (Decimal.twoPow 63 : Int) = 2 ^ 63 := by norm_num [Decimal.twoPow]
  rw [Decimal.fitsWord, hPower, Bool.and_eq_true, decide_eq_true_eq, decide_eq_true_eq]

theorem readWord?_eq_some {base : Nat} {s : List Char} {n : Int} :
    readWord? base s = some n ↔
      dropSign s ≠ [] ∧ (∀ c ∈ dropSign s, isDigitOf base c = true) ∧
        n = (if s.head? = some '-' then -(numberOf base (dropSign s) : Int)
          else numberOf base (dropSign s)) ∧
        Decimal.fitsWord n = true := by
  rw [readWord?]
  constructor
  · intro h
    obtain ⟨hSome, hBind⟩ := Option.ite_none_left_eq_some.mp h
    obtain ⟨m, hDigits, hWord⟩ := Option.bind_eq_some_iff.mp hBind
    obtain ⟨hAll, rfl⟩ := digitsValue?_eq_some.mp hDigits
    obtain ⟨hFits, hEq⟩ := Option.ite_none_right_eq_some.mp hWord
    cases hEq
    exact ⟨by simpa using hSome, hAll, by simp, hFits⟩
  · rintro ⟨hSome, hAll, rfl, hFits⟩
    have hEmpty : (dropSign s).isEmpty = false := by simpa using hSome
    have hDigits := digitsValue?_eq_some.mpr ⟨hAll, rfl⟩
    simp [hEmpty, hDigits, hFits]

theorem dropSign_of_isDigitOf {base : Nat} {digits : List Char}
    (h : ∀ c ∈ digits, isDigitOf base c = true) : dropSign digits = digits := by
  cases digits with
  | nil => rfl
  | cons c rest =>
    have hc := not_isSignChar_of_isDigitOf (h c List.mem_cons_self)
    rw [dropSign, hc]
    rfl

theorem readWord?_of_isDigitOf {base : Nat} {digits : List Char} (hSome : digits ≠ [])
    (h : ∀ c ∈ digits, isDigitOf base c = true) :
    readWord? base digits =
      if numberOf base digits < 2 ^ 63 then some (numberOf base digits : Int) else none := by
  have hDrop := dropSign_of_isDigitOf h
  have hHead : digits.head? ≠ some '-' := by
    intro hMinus
    have hDigit := not_isSignChar_of_isDigitOf (h '-' (List.mem_of_head? hMinus))
    cases hDigit
  ext n
  rw [readWord?_eq_some, hDrop, if_neg hHead, Option.ite_none_right_eq_some, Option.some_inj]
  constructor
  · rintro ⟨-, -, rfl, hFits⟩
    have hBound := (fitsWord_iff.mp hFits).2
    exact ⟨by exact_mod_cast hBound, rfl⟩
  · rintro ⟨hBound, rfl⟩
    refine ⟨hSome, h, rfl, fitsWord_iff.mpr ⟨?_, by exact_mod_cast hBound⟩⟩
    omega

/-! ## The notation of integers -/

/-- An integer as it is written, its underscores left out. -/
structure Numeral where
  negative : Bool
  base : Nat
  digits : List Char

def Numeral.value (n : Numeral) : Int :=
  if n.negative then -(numberOf n.base n.digits : Int) else numberOf n.base n.digits

/-- The bases that a letter behind a zero announces. -/
def announcedBases : List (Char × Nat) := [('x', 16), ('o', 8), ('b', 2)]

/-- The texts of integers: decimal digits and underscores behind a digit and perhaps a sign, or
digits of another base and underscores behind its announcement. -/
inductive Spells : List Char → Numeral → Prop where
  | decimal {sign : List Char} {first : Char} {rest : List Char}
    (hSign : sign ∈ [[], ['+'], ['-']]) (hFirst : first.isDigit = true)
    (hRest : ∀ c ∈ rest, isDigitOrUnderscore c = true) :
    Spells (sign ++ first :: rest) ⟨sign == ['-'], 10, first :: dropUnderscores rest⟩
  | announced {letter : Char} {base : Nat} {body : List Char}
    (hBase : (letter, base) ∈ announcedBases) (hSome : body ≠ [])
    (hBody : ∀ c ∈ body, c = '_' ∨ isDigitOf base c = true) :
    Spells ('0' :: letter :: body) ⟨false, base, dropUnderscores body⟩

theorem isDigit_iff {c : Char} : c.isDigit = true ↔ 48 ≤ c.toNat ∧ c.toNat ≤ 57 := by
  simp [Char.isDigit, UInt32.le_iff_toNat_le]

theorem isHexDigit_iff {c : Char} :
    isHexDigit c = true ↔
      c.isDigit = true ∨ (97 ≤ c.toNat ∧ c.toNat ≤ 102) ∨ (65 ≤ c.toNat ∧ c.toNat ≤ 70) := by
  simp [isHexDigit, Char.le_def, UInt32.le_iff_toNat_le, or_assoc]

theorem hexDigitValue_bounds {c : Char} (hHex : isHexDigit c = true) (h : c.isDigit = false) :
    10 ≤ hexDigitValue c ∧ hexDigitValue c < 16 := by
  have hLower : ('a' ≤ c ∧ c ≤ 'f') ↔ 97 ≤ c.toNat ∧ c.toNat ≤ 102 := by
    simp [Char.le_def, UInt32.le_iff_toNat_le]
  rcases isHexDigit_iff.mp hHex with hDigit | hRange | hRange
  · rw [hDigit] at h
    cases h
  · rw [hexDigitValue, if_neg (by simp [h]), if_pos (by simpa using hLower.mpr hRange)]
    omega
  · have hNot : ¬('a' ≤ c ∧ c ≤ 'f') := by
      rw [hLower]
      omega
    rw [hexDigitValue, if_neg (by simp [h]), if_neg (by simpa using hNot)]
    omega

theorem isDigitOf_sixteen (c : Char) : isDigitOf 16 c = isHexDigit c := by
  rw [isDigitOf]
  cases hHex : isHexDigit c with
  | false => rfl
  | true =>
    have hValue : hexDigitValue c < 16 := by
      cases hDigit : c.isDigit with
      | true =>
        rw [hexDigitValue, if_pos hDigit]
        have hRange := isDigit_iff.mp hDigit
        omega
      | false => exact (hexDigitValue_bounds hHex hDigit).2
    simpa using hValue

theorem isDigitOf_iff_of_le_ten {base : Nat} (hBase : base ≤ 10) {c : Char} :
    isDigitOf base c = true ↔ 48 ≤ c.toNat ∧ c.toNat < 48 + base := by
  rw [isDigitOf, Bool.and_eq_true, decide_eq_true_eq]
  cases hDigit : c.isDigit with
  | true =>
    have hRange := isDigit_iff.mp hDigit
    have hHex : isHexDigit c = true := isHexDigit_iff.mpr (.inl hDigit)
    rw [hexDigitValue, if_pos hDigit]
    simp only [hHex, true_and]
    omega
  | false =>
    have hRange : ¬(48 ≤ c.toNat ∧ c.toNat ≤ 57) := by
      rw [← isDigit_iff, hDigit]
      exact Bool.false_ne_true
    constructor
    · rintro ⟨hHex, hValue⟩
      have hBounds := hexDigitValue_bounds hHex hDigit
      omega
    · intro h
      omega

theorem isDigitOf_ten (c : Char) : isDigitOf 10 c = c.isDigit := by
  rw [Bool.eq_iff_iff, isDigitOf_iff_of_le_ten (Nat.le_refl _), isDigit_iff]
  omega

theorem isDigitOf_eight (c : Char) : isDigitOf 8 c = ('0' ≤ c && c ≤ '7') := by
  have hRange : (decide ('0' ≤ c) && decide (c ≤ '7')) = true ↔ 48 ≤ c.toNat ∧ c.toNat ≤ 55 := by
    simp [Char.le_def, UInt32.le_iff_toNat_le]
  rw [Bool.eq_iff_iff, isDigitOf_iff_of_le_ten (by decide), hRange]
  omega

theorem isDigitOf_two (c : Char) : isDigitOf 2 c = (c == '0' || c == '1') := by
  have hRange : (c == '0' || c == '1') = true ↔ c.toNat = 48 ∨ c.toNat = 49 := by
    simp [Char.ext_iff, ← UInt32.toNat_inj]
  rw [Bool.eq_iff_iff, isDigitOf_iff_of_le_ten (by decide), hRange]
  omega

theorem exists_sign (s : List Char) :
    ∃ sign ∈ [[], ['+'], ['-']], s = sign ++ dropSign s := by
  cases s with
  | nil => exact ⟨[], by simp, rfl⟩
  | cons c rest =>
    rw [dropSign]
    cases hSign : isSignChar c with
    | false => exact ⟨[], by simp, rfl⟩
    | true =>
      have hc : c = '+' ∨ c = '-' := by simpa [isSignChar] using hSign
      exact ⟨[c], by simpa using hc, rfl⟩

theorem dropSign_append {sign : List Char} (hSign : sign ∈ [[], ['+'], ['-']]) {c : Char}
    (hc : isSignChar c = false) (rest : List Char) :
    dropSign (sign ++ c :: rest) = c :: rest := by
  simp only [List.mem_cons, List.not_mem_nil, or_false] at hSign
  rcases hSign with rfl | rfl | rfl
  · rw [List.nil_append, dropSign, hc]
    rfl
  · rfl
  · rfl

theorem isRunOf_iff {base : Nat} {p : Char → Bool}
    (hp : ∀ c, p c = (isDigitOf base c || c == '_')) {s : List Char} :
    isRunOf p s = true ↔ s ≠ [] ∧ ∀ c ∈ s, c = '_' ∨ isDigitOf base c = true := by
  simp [isRunOf, hp, or_comm]

theorem isDecimalRun_iff {s : List Char} :
    isDecimalRun s = true ↔ ∃ first rest, s = first :: rest ∧ first.isDigit = true ∧
      ∀ c ∈ rest, isDigitOrUnderscore c = true := by
  cases s with
  | nil => simp [isDecimalRun]
  | cons first rest => simp [isDecimalRun]

theorem isInt_iff (s : List Char) : isInt s = true ↔ ∃ n, Spells s n := by
  have hHex (c : Char) : (isHexDigit c || c == '_') = (isDigitOf 16 c || c == '_') := by
    rw [isDigitOf_sixteen]
  have hOctal (c : Char) :
      (('0' ≤ c && c ≤ '7') || c == '_') = (isDigitOf 8 c || c == '_') := by
    rw [isDigitOf_eight]
  have hBinary (c : Char) :
      (c == '0' || c == '1' || c == '_') = (isDigitOf 2 c || c == '_') := by
    rw [isDigitOf_two]
  constructor
  · intro h
    rcases Bool.or_eq_true_iff.mp h with hDecimal | hAnnounced
    · obtain ⟨sign, hSign, hSplit⟩ := exists_sign s
      obtain ⟨first, rest, hRun, hFirst, hRest⟩ := isDecimalRun_iff.mp hDecimal
      rw [hSplit, hRun]
      exact ⟨_, .decimal hSign hFirst hRest⟩
    · split at hAnnounced
      · obtain ⟨hSome, hBody⟩ := (isRunOf_iff hHex).mp hAnnounced
        exact ⟨_, .announced (by decide) hSome hBody⟩
      · obtain ⟨hSome, hBody⟩ := (isRunOf_iff hOctal).mp hAnnounced
        exact ⟨_, .announced (by decide) hSome hBody⟩
      · obtain ⟨hSome, hBody⟩ := (isRunOf_iff hBinary).mp hAnnounced
        exact ⟨_, .announced (by decide) hSome hBody⟩
      · cases hAnnounced
  · rintro ⟨n, hSpells⟩
    cases hSpells with
    | @decimal sign first rest hSign hFirst hRest =>
      refine Bool.or_eq_true_iff.mpr (.inl ?_)
      rw [dropSign_append hSign (not_isSignChar_of_isDigitOf ((isDigitOf_ten first).trans hFirst))]
      exact isDecimalRun_iff.mpr ⟨first, rest, rfl, hFirst, hRest⟩
    | @announced letter base body hBase hSome hBody =>
      refine Bool.or_eq_true_iff.mpr (.inr ?_)
      simp only [announcedBases, List.mem_cons, Prod.mk.injEq, List.not_mem_nil, or_false] at hBase
      rcases hBase with ⟨rfl, rfl⟩ | ⟨rfl, rfl⟩ | ⟨rfl, rfl⟩
      · exact (isRunOf_iff hHex).mpr ⟨hSome, hBody⟩
      · exact (isRunOf_iff hOctal).mpr ⟨hSome, hBody⟩
      · exact (isRunOf_iff hBinary).mpr ⟨hSome, hBody⟩

theorem Spells.isDigitOf {s : List Char} {n : Numeral} (h : Spells s n) :
    ∀ c ∈ n.digits, Scalar.isDigitOf n.base c = true := by
  cases h with
  | @decimal sign first rest hSign hFirst hRest =>
    refine List.forall_mem_cons.mpr ⟨(isDigitOf_ten first).trans hFirst, fun c hc => ?_⟩
    obtain ⟨hMem, hDigit⟩ := List.mem_filter.mp hc
    have hEither := hRest c hMem
    rw [isDigitOf_ten]
    simpa [isDigitOrUnderscore, (by simpa using hDigit : c ≠ '_')] using hEither
  | @announced letter base body hBase hSome hBody =>
    intro c hc
    obtain ⟨hMem, hDigit⟩ := List.mem_filter.mp hc
    exact (hBody c hMem).resolve_left (by simpa using hDigit)

theorem dropUnderscores_cons {c : Char} (hc : c ≠ '_') (rest : List Char) :
    dropUnderscores (c :: rest) = c :: dropUnderscores rest :=
  List.filter_cons_of_pos (by simpa using hc)

theorem dropUnderscores_append {sign : List Char} (hSign : sign ∈ [[], ['+'], ['-']])
    (s : List Char) : dropUnderscores (sign ++ s) = sign ++ dropUnderscores s := by
  simp only [List.mem_cons, List.not_mem_nil, or_false] at hSign
  rcases hSign with rfl | rfl | rfl <;> rfl

theorem splitSign_append {sign : List Char} (hSign : sign ∈ [[], ['+'], ['-']]) {c : Char}
    (hc : isSignChar c = false) (rest : List Char) :
    Decimal.splitSign (sign ++ c :: rest) = (sign == ['-'], c :: rest) := by
  simp only [List.mem_cons, List.not_mem_nil, or_false] at hSign
  rcases hSign with rfl | rfl | rfl
  · rw [List.nil_append]
    unfold Decimal.splitSign
    split
    · rename_i hEq
      cases hEq
      cases hc
    · rename_i hEq
      cases hEq
      cases hc
    · rfl
  · rfl
  · rfl

theorem splitBase_of_isDigit {first : Char} {digits : List Char}
    (h : ∀ c ∈ digits, c.isDigit = true) :
    splitBase (first :: digits) = (10, first :: digits) := by
  have hSecond (letter : Char) (hLetter : letter.isDigit = false) :
      ∀ rest, first :: digits ≠ '0' :: letter :: rest := by
    intro rest hEq
    have hDigit := h letter (by simp [(List.cons.inj hEq).2])
    rw [hLetter] at hDigit
    cases hDigit
  unfold splitBase
  split
  · exact absurd ‹_› (hSecond 'x' rfl _)
  · exact absurd ‹_› (hSecond 'o' rfl _)
  · exact absurd ‹_› (hSecond 'b' rfl _)
  · rfl

theorem Spells.parts {s : List Char} {n : Numeral} (h : Spells s n) :
    ∃ body, Decimal.splitSign (dropUnderscores s) = (n.negative, body) ∧
      splitBase body = (n.base, n.digits) := by
  have hDigits := h.isDigitOf
  cases h with
  | @decimal sign first rest hSign hFirst hRest =>
    obtain ⟨hFirstDigit, hRestDigits⟩ := List.forall_mem_cons.mp hDigits
    have hNoMark : first ≠ '_' := by
      rintro rfl
      cases hFirst
    refine ⟨first :: dropUnderscores rest, ?_, ?_⟩
    · rw [dropUnderscores_append hSign, dropUnderscores_cons hNoMark]
      exact splitSign_append hSign (not_isSignChar_of_isDigitOf hFirstDigit) _
    · refine splitBase_of_isDigit fun c hc => ?_
      rw [← isDigitOf_ten]
      exact hRestDigits c hc
  | @announced letter base body hBase hSome hBody =>
    simp only [announcedBases, List.mem_cons, Prod.mk.injEq, List.not_mem_nil, or_false] at hBase
    refine ⟨'0' :: letter :: dropUnderscores body, ?_, ?_⟩
    · rcases hBase with ⟨rfl, rfl⟩ | ⟨rfl, rfl⟩ | ⟨rfl, rfl⟩ <;> rfl
    · rcases hBase with ⟨rfl, rfl⟩ | ⟨rfl, rfl⟩ | ⟨rfl, rfl⟩ <;> rfl

theorem negateWord_natCast (m : Nat) : Decimal.negateWord (m : Int) = -(m : Int) := by
  have hLeast : (m : Int) ≠ -(Decimal.twoPow 63 : Int) := by
    have hPower : 0 < Decimal.twoPow 63 := by decide
    omega
  rw [Decimal.negateWord, if_neg hLeast]

theorem Spells.readInt_eq {s : List Char} {n : Numeral} (h : Spells s n) (hSome : n.digits ≠ []) :
    readInt s = if -(2 ^ 63 : Int) < n.value ∧ n.value < 2 ^ 63 then some n.value else none := by
  obtain ⟨body, hSign, hBase⟩ := h.parts
  -- the sign does not count yet when the digits are read, so that both ends come from one bound
  have hRange : (-(2 ^ 63 : Int) < n.value ∧ n.value < 2 ^ 63) ↔
      numberOf n.base n.digits < 2 ^ 63 := by
    rw [Numeral.value]
    split <;> omega
  rw [readInt, hSign]
  simp only [hBase, hRange, readWord?_of_isDigitOf hSome h.isDigitOf]
  by_cases hFits : numberOf n.base n.digits < 2 ^ 63
  · rw [if_pos hFits, if_pos hFits, Option.map_some, Numeral.value]
    cases n.negative with
    | true => rw [if_pos rfl, if_pos rfl, negateWord_natCast]
    | false => rw [if_neg Bool.false_ne_true, if_neg Bool.false_ne_true]
  · rw [if_neg hFits, if_neg hFits, Option.map_none]

/-! ## Overflow -/

/-- The number whose opposite reading takes, if it takes one. -/
def negated? (s : List Char) : Option Int :=
  let (negative, body) := Decimal.splitSign (dropUnderscores s)
  let (base, digits) := splitBase body
  if negative then readWord? base digits else none

/-- Reading takes the opposite of a number that has none in 64 bits. -/
def Overflows (s : List Char) : Prop := ∃ n, negated? s = some n ∧ Decimal.fitsWord (-n) = false

/-- What may stand behind a sign in front of digits, each with the base it announces. -/
def announcements : List (List Char × Nat) :=
  ([], 10) :: announcedBases.map fun e => (['0', e.1], e.2)

/-- A minus sign, perhaps a base, another minus sign, and digits of the magnitude of the least
integer. -/
def IsDoublyNegative (s : List Char) : Prop :=
  ∃ mark base digits, (mark, base) ∈ announcements ∧
    dropUnderscores s = '-' :: (mark ++ '-' :: digits) ∧
    (∀ c ∈ digits, isDigitOf base c = true) ∧ numberOf base digits = 2 ^ 63

theorem splitBase_announced {mark : List Char} {base : Nat}
    (h : (mark, base) ∈ announcements) (digits : List Char) :
    splitBase (mark ++ '-' :: digits) = (base, '-' :: digits) := by
  simp only [announcements, announcedBases, List.map_cons, List.map_nil, List.mem_cons,
    Prod.mk.injEq, List.not_mem_nil, or_false] at h
  rcases h with ⟨rfl, rfl⟩ | ⟨rfl, rfl⟩ | ⟨rfl, rfl⟩ | ⟨rfl, rfl⟩ <;> rfl

theorem exists_announcement {body digits : List Char} {base : Nat}
    (h : splitBase body = (base, digits)) :
    ∃ mark, (mark, base) ∈ announcements ∧ body = mark ++ digits := by
  unfold splitBase at h
  split at h
  · cases h
    exact ⟨['0', 'x'], by decide, rfl⟩
  · cases h
    exact ⟨['0', 'o'], by decide, rfl⟩
  · cases h
    exact ⟨['0', 'b'], by decide, rfl⟩
  · cases h
    exact ⟨[], by decide, rfl⟩

theorem splitSign_eq_true {s body : List Char} :
    Decimal.splitSign s = (true, body) ↔ s = '-' :: body := by
  constructor
  · intro h
    unfold Decimal.splitSign at h
    split at h
    · cases h
      rfl
    · cases h
    · cases h
  · rintro rfl
    rfl

theorem fitsWord_neg_eq_false_iff {n : Int} (h : Decimal.fitsWord n = true) :
    Decimal.fitsWord (-n) = false ↔ n = -(2 ^ 63) := by
  have hRange := fitsWord_iff.mp h
  rw [← Bool.not_eq_true, fitsWord_iff]
  omega

theorem readWord?_eq_least_iff {base : Nat} {s : List Char} :
    readWord? base s = some (-(2 ^ 63)) ↔
      ∃ digits, s = '-' :: digits ∧ (∀ c ∈ digits, isDigitOf base c = true) ∧
        numberOf base digits = 2 ^ 63 := by
  rw [readWord?_eq_some]
  constructor
  · rintro ⟨-, hDigits, hValue, -⟩
    split at hValue
    · rename_i hHead
      obtain ⟨digits, rfl⟩ := List.head?_eq_some_iff.mp hHead
      refine ⟨digits, rfl, hDigits, ?_⟩
      have hNumber : -(2 ^ 63 : Int) = -(numberOf base digits : Int) := hValue
      omega
    · omega
  · rintro ⟨digits, rfl, hDigits, hNumber⟩
    have hSome : digits ≠ [] := by
      rintro rfl
      cases hNumber
    refine ⟨hSome, hDigits, ?_, by decide⟩
    show (-(2 ^ 63) : Int) = -(numberOf base digits : Int)
    rw [hNumber]
    norm_num

theorem negated?_eq_some {s : List Char} {n : Int} :
    negated? s = some n ↔
      ∃ body base digits, Decimal.splitSign (dropUnderscores s) = (true, body) ∧
        splitBase body = (base, digits) ∧ readWord? base digits = some n := by
  rw [negated?]
  constructor
  · intro h
    obtain ⟨hNegative, hWord⟩ := Option.ite_none_right_eq_some.mp h
    exact ⟨_, _, _, Prod.ext hNegative rfl, rfl, hWord⟩
  · rintro ⟨body, base, digits, hSign, hBase, hWord⟩
    rw [hSign]
    simp only [hBase, if_true]
    exact hWord

theorem overflows_iff_least {s : List Char} :
    Overflows s ↔ negated? s = some (-(2 ^ 63)) := by
  constructor
  · rintro ⟨n, hNegated, hFits⟩
    obtain ⟨body, base, digits, -, -, hWord⟩ := negated?_eq_some.mp hNegated
    obtain ⟨-, -, -, hWordFits⟩ := readWord?_eq_some.mp hWord
    rwa [← (fitsWord_neg_eq_false_iff hWordFits).mp hFits]
  · intro h
    exact ⟨_, h, by decide⟩

theorem overflows_iff (s : List Char) : Overflows s ↔ IsDoublyNegative s := by
  rw [overflows_iff_least, negated?_eq_some]
  constructor
  · rintro ⟨body, base, rest, hSign, hBase, hWord⟩
    obtain ⟨mark, hMark, rfl⟩ := exists_announcement hBase
    obtain ⟨digits, rfl, hDigits, hNumber⟩ := readWord?_eq_least_iff.mp hWord
    exact ⟨mark, base, digits, hMark, splitSign_eq_true.mp hSign, hDigits, hNumber⟩
  · rintro ⟨mark, base, digits, hMark, hText, hDigits, hNumber⟩
    exact ⟨_, base, _, splitSign_eq_true.mpr hText, splitBase_announced hMark digits,
      readWord?_eq_least_iff.mpr ⟨digits, rfl, hDigits, hNumber⟩⟩

theorem Spells.not_overflows {s : List Char} {n : Numeral} (h : Spells s n) : ¬Overflows s := by
  -- behind the sign and the base of an integer stand digits alone, and no second minus sign
  rw [overflows_iff_least, negated?_eq_some]
  rintro ⟨body, base, rest, hSign, hBase, hWord⟩
  obtain ⟨found, hFound, hParts⟩ := h.parts
  obtain ⟨-, rfl⟩ := Prod.ext_iff.mp (hSign.symm.trans hFound)
  obtain ⟨rfl, rfl⟩ := Prod.ext_iff.mp (hBase.symm.trans hParts)
  obtain ⟨digits, hMinus, -⟩ := readWord?_eq_least_iff.mp hWord
  have hMember : '-' ∈ n.digits := by
    rw [show n.digits = '-' :: digits from hMinus]
    exact List.mem_cons_self
  have hDigit := not_isSignChar_of_isDigitOf (h.isDigitOf '-' hMember)
  cases hDigit

/-! ## Reading -/

theorem plainTag_eq_int {text : String} (h : plainTag text = .int) :
    isInt text.toList = true := by
  unfold plainTag at h
  dsimp only at h
  split at h
  · cases h
  · split at h
    · cases h
    · split at h
      · assumption
      · split at h
        · cases h
        · split at h <;> cases h

theorem isInt_of_resolve {text : String} {style : ScalarStyle} {tag : Option Tag}
    (h : resolve text style tag = .int) (hTag : tag.bind explicitTag? = none) :
    isInt text.toList = true := by
  rw [resolve, hTag] at h
  dsimp only at h
  split at h
  · exact plainTag_eq_int h
  · cases h

/-- A text of an integer with a digit is read as the integer if that lies between the ends of the
range, the least one excepted, and is not read otherwise. It does not make the arithmetic overflow;
under a tag a text does so exactly when it has two minus signs and the magnitude of the least
integer. -/
theorem integers_are_read_above_least (text : String) (style : ScalarStyle) (tag : Option Tag) :
    (resolve text style tag = .int →
      (Overflows text.toList ↔ IsDoublyNegative text.toList) ∧
      (tag.bind explicitTag? = none → isInt text.toList = true ∧ ¬Overflows text.toList)) ∧
    (isInt text.toList = true ↔ ∃ n, Spells text.toList n) ∧
    ∀ n, Spells text.toList n → n.digits ≠ [] →
      readInt text.toList =
        if -(2 ^ 63 : Int) < n.value ∧ n.value < 2 ^ 63 then some n.value else none := by
  refine ⟨fun h => ⟨overflows_iff _, fun hTag => ?_⟩, isInt_iff _, fun n h => h.readInt_eq⟩
  have hInt := isInt_of_resolve h hTag
  obtain ⟨n, hSpells⟩ := (isInt_iff _).mp hInt
  exact ⟨hInt, hSpells.not_overflows⟩

theorem integers_are_read_above_least_of_hexadecimal :
    resolve "0x_1F" .plain none = .int ∧ ¬Overflows "0x_1F".toList ∧
      readInt "0x_1F".toList = some 31 := by
  obtain ⟨hSafe, -, hRead⟩ := integers_are_read_above_least "0x_1F" .plain none
  have hTag : resolve "0x_1F" .plain none = .int := by decide
  have hBody : ∀ c ∈ ['_', '1', 'F'], c = '_' ∨ isDigitOf 16 c = true := by
    rw [List.forall_mem_cons, List.forall_mem_cons, List.forall_mem_singleton]
    exact ⟨.inl rfl, .inr (by decide), .inr (by decide)⟩
  have hSpells : Spells "0x_1F".toList ⟨false, 16, ['1', 'F']⟩ :=
    @Spells.announced 'x' 16 _ (by decide) (by decide) hBody
  exact ⟨hTag, ((hSafe hTag).2 rfl).2, (hRead _ hSpells (by decide)).trans (by decide +kernel)⟩

/-- Two minus signs under a tag overflow, and the least integer is not read. -/
theorem least_integer_is_not_read :
    (¬∀ (text : String) (style : ScalarStyle) (tag : Option Tag), resolve text style tag = .int →
      ¬Overflows text.toList) ∧
    ¬∀ s n, Spells s n → n.digits ≠ [] →
      readInt s = if -(2 ^ 63 : Int) ≤ n.value ∧ n.value < 2 ^ 63 then some n.value else none := by
  constructor
  · intro h
    refine h "--9223372036854775808" .plain (some ⟨"!!", "int"⟩) (by decide) ?_
    exact ⟨-9223372036854775808, by decide +kernel, by decide⟩
  · intro h
    have hRest : ∀ c ∈ "223372036854775808".toList, isDigitOrUnderscore c = true :=
      List.all_eq_true.mp (by decide)
    have hRead := h "-9223372036854775808".toList ⟨true, 10, "9223372036854775808".toList⟩
      (@Spells.decimal ['-'] '9' _ (by decide) (by decide) hRest) (by decide)
    exact absurd hRead (by decide +kernel)

end ConfigReference.Yaml.Scalar
