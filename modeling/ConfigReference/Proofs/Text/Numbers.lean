import Mathlib.Algebra.Group.Nat.Defs
import Mathlib.Data.List.SplitBy
import ConfigReference.Proofs.Text.TotalOrder

/-!
# Numbers in natural order

Digit runs without leading zeros compare by length and then by character, which is the order of the
numbers that they denote. A number in a text is a run of its own, whatever stands around it, so that
two texts that first differ in a number are in the order of the two numbers.
-/

set_option autoImplicit false

namespace ConfigReference.Text

/-! ## The value of digits -/

def IsDigits (run : List Char) : Prop := ∀ c ∈ run, isAsciiDigit c = true

def digitValue (c : Char) : Nat := c.toNat - 0x30

theorem toNat_of_isAsciiDigit {c : Char} (h : isAsciiDigit c = true) :
    c.toNat = digitValue c + 48 ∧ digitValue c < 10 := by
  have hRange : 48 ≤ c.toNat ∧ c.toNat ≤ 57 := by
    simpa [isAsciiDigit, Char.isDigit, UInt32.le_iff_toNat_le] using h
  rw [digitValue]
  omega

theorem add_lt_of_digit_lt {a b x p : Nat} (h : a < b) (hx : x < p) (y : Nat) :
    a * p + x < b * p + y :=
  calc a * p + x
    _ < a * p + p := Nat.add_lt_add_left hx _
    _ = (a + 1) * p := (Nat.succ_mul a p).symm
    _ ≤ b * p := Nat.mul_le_mul_right p h
    _ ≤ b * p + y := Nat.le_add_right _ y

theorem foldl_digitsValue (s : List Char) (n : Nat) :
    s.foldl (fun n c => 10 * n + (c.toNat - 0x30)) n = n * 10 ^ s.length + digitsValue s := by
  rw [digitsValue]
  induction s generalizing n with
  | nil => simp
  | cons c s ih =>
    rw [List.foldl_cons, List.foldl_cons, ih, ih (10 * 0 + _), List.length_cons, Nat.pow_succ,
      Nat.mul_zero, Nat.zero_add, Nat.add_mul, Nat.add_assoc, Nat.mul_comm 10 n, Nat.mul_assoc,
      Nat.mul_comm 10 (10 ^ s.length)]

theorem digitsValue_cons (c : Char) (s : List Char) :
    digitsValue (c :: s) = digitValue c * 10 ^ s.length + digitsValue s := by
  rw [digitsValue, List.foldl_cons, foldl_digitsValue, Nat.mul_zero, Nat.zero_add, digitValue]

theorem digitsValue_lt {s : List Char} (h : IsDigits s) : digitsValue s < 10 ^ s.length := by
  induction s with
  | nil => simp [digitsValue]
  | cons c s ih =>
    obtain ⟨hDigit, hRest⟩ := List.forall_mem_cons.mp h
    have hValue := (toNat_of_isAsciiDigit hDigit).2
    rw [digitsValue_cons, List.length_cons, Nat.pow_succ, Nat.mul_comm (10 ^ s.length)]
    exact add_lt_of_digit_lt hValue (ih hRest) 0

theorem digitsValue_dropZeros (s : List Char) :
    digitsValue (s.dropWhile (· == '0')) = digitsValue s := by
  induction s with
  | nil => rfl
  | cons c s ih =>
    rw [List.dropWhile_cons]
    split
    · rename_i hZero
      obtain rfl : c = '0' := by simpa using hZero
      rw [ih, digitsValue_cons]
      simp [digitValue]
    · rfl

theorem le_digitsValue_of_head {s : List Char} (h : IsDigits s) (hSome : s ≠ [])
    (hHead : ∀ c ∈ s.head?, c ≠ '0') : 10 ^ (s.length - 1) ≤ digitsValue s := by
  cases s with
  | nil => exact absurd rfl hSome
  | cons c s =>
    have hRange := toNat_of_isAsciiDigit (h c List.mem_cons_self)
    have hPositive : 1 ≤ digitValue c := by
      by_contra hZero
      have hSame : c.toNat = '0'.toNat := by
        rw [hRange.1, show '0'.toNat = 48 from rfl]
        omega
      exact hHead c rfl (Char.toNat_inj.mp hSame)
    rw [digitsValue_cons, List.length_cons, Nat.add_sub_cancel]
    calc 10 ^ s.length
      _ ≤ digitValue c * 10 ^ s.length := Nat.le_mul_of_pos_left _ hPositive
      _ ≤ digitValue c * 10 ^ s.length + digitsValue s := Nat.le_add_right _ _

theorem digitsValue_lt_of_length {a b : List Char} (ha : IsDigits a) (hb : IsDigits b)
    (hHead : ∀ c ∈ b.head?, c ≠ '0') (h : a.length < b.length) :
    digitsValue a < digitsValue b := by
  have hSome : b ≠ [] := List.ne_nil_of_length_pos (by omega)
  calc digitsValue a
    _ < 10 ^ a.length := digitsValue_lt ha
    _ ≤ 10 ^ (b.length - 1) := Nat.pow_le_pow_right (by decide) (by omega)
    _ ≤ digitsValue b := le_digitsValue_of_head hb hSome hHead

theorem compareChars_of_length {a b : List Char} (ha : IsDigits a) (hb : IsDigits b)
    (h : a.length = b.length) : compareChars a b = compare (digitsValue a) (digitsValue b) := by
  induction a generalizing b with
  | nil =>
    obtain rfl : b = [] := List.length_eq_zero_iff.mp h.symm
    rfl
  | cons c s ih =>
    cases b with
    | nil => cases h
    | cons d t =>
      have hLength : s.length = t.length := Nat.succ.inj h
      obtain ⟨hc, hs⟩ := List.forall_mem_cons.mp ha
      obtain ⟨hd, ht⟩ := List.forall_mem_cons.mp hb
      have hcRange := toNat_of_isAsciiDigit hc
      have hdRange := toNat_of_isAsciiDigit hd
      have hsLt := digitsValue_lt hs
      have htLt := digitsValue_lt ht
      rw [compareChars, ih hs ht hLength, digitsValue_cons, digitsValue_cons, hcRange.1, hdRange.1]
      rw [hLength] at hsLt ⊢
      rcases Nat.lt_trichotomy (digitValue c) (digitValue d) with hLt | hEq | hGt
      · have hLess := add_lt_of_digit_lt hLt hsLt (digitsValue t)
        rw [Nat.compare_eq_lt.mpr (by omega), Nat.compare_eq_lt.mpr hLess]
        rfl
      · rw [hEq, Nat.compare_eq_eq.mpr rfl]
        simp [Nat.compare_eq_ite_lt]
      · have hGreater := add_lt_of_digit_lt hGt htLt (digitsValue s)
        rw [Nat.compare_eq_gt.mpr (by omega), Nat.compare_eq_gt.mpr hGreater]
        rfl

theorem IsDigits.dropZeros {s : List Char} (h : IsDigits s) :
    IsDigits (s.dropWhile (· == '0')) := fun c hc => h c (List.dropWhile_sublist _ |>.subset hc)

theorem head_dropZeros (s : List Char) : ∀ c ∈ (s.dropWhile (· == '0')).head?, c ≠ '0' := by
  intro c hc
  have hHead := List.head?_dropWhile_not (· == '0') s
  rw [Option.mem_def.mp hc] at hHead
  simpa using hHead

/-- The order of digit runs is that of the numbers they denote. -/
theorem compareDigits_eq {a b : List Char} (ha : IsDigits a) (hb : IsDigits b) :
    compareDigits a b = compare (digitsValue a) (digitsValue b) := by
  rw [compareDigits, ← digitsValue_dropZeros a, ← digitsValue_dropZeros b]
  have hShort := digitsValue_lt_of_length ha.dropZeros hb.dropZeros (head_dropZeros b)
  have hLong := digitsValue_lt_of_length hb.dropZeros ha.dropZeros (head_dropZeros a)
  have hSame := compareChars_of_length ha.dropZeros hb.dropZeros
  generalize a.dropWhile (· == '0') = x at *
  generalize b.dropWhile (· == '0') = y at *
  rcases Nat.lt_trichotomy x.length y.length with hLt | hEq | hGt
  · rw [Nat.compare_eq_lt.mpr hLt, Nat.compare_eq_lt.mpr (hShort hLt)]
    rfl
  · rw [Nat.compare_eq_eq.mpr hEq, hSame hEq]
    rfl
  · rw [Nat.compare_eq_gt.mpr hGt, Nat.compare_eq_gt.mpr (hLong hGt)]
    rfl

/-! ## Numbers in texts -/

theorem digitRuns_around {p run s : List Char} (hRun : IsDigits run) (hSome : run ≠ [])
    (hp : ∀ c ∈ p.getLast?, isAsciiDigit c = false) (hs : ∀ c ∈ s.head?, isAsciiDigit c = false) :
    digitRuns (p ++ run ++ s) = digitRuns p ++ run :: digitRuns s := by
  have hOne : digitRuns run = [run] := by
    refine List.splitBy_of_isChain hSome (List.Pairwise.isChain ?_)
    apply List.pairwise_of_forall_mem_list
    intro a ha b hb
    simp [hRun a ha, hRun b hb]
  have hBehind : digitRuns (p ++ run ++ s) = digitRuns (p ++ run) ++ digitRuns s := by
    apply List.splitBy_append
    intro a ha b hb
    rw [List.getLast?_append_of_ne_nil _ hSome] at ha
    simp [hRun a (List.mem_of_getLast? ha), hs b hb]
  have hFront : digitRuns (p ++ run) = digitRuns p ++ digitRuns run := by
    apply List.splitBy_append
    intro a ha b hb
    simp [hp a ha, hRun b (List.mem_of_head? hb)]
  rw [hBehind, hFront, hOne, List.append_assoc, List.singleton_append]

theorem compareRunLists_append_left (runs as bs : List (List Char)) :
    compareRunLists (runs ++ as) (runs ++ bs) = compareRunLists as bs := by
  induction runs with
  | nil => rfl
  | cons run runs ih =>
    have hSelf : compareRuns run run = .eq := Std.ReflCmp.compare_self
    rw [List.cons_append, List.cons_append, compareRunLists, ih, hSelf]
    rfl

structure IsNumber (m : String) : Prop where
  digits : IsDigits m.toList
  notEmpty : m ≠ ""

theorem IsNumber.isDigitRun {m : String} (h : IsNumber m) : isDigitRun m.toList = true := by
  cases hChars : m.toList with
  | nil => exact absurd (String.toList_eq_nil_iff.mp hChars) h.notEmpty
  | cons c rest =>
    have hDigit : isAsciiDigit c = true := h.digits c (by simp [hChars])
    simpa [Text.isDigitRun] using hDigit

/-- Behind a common beginning that is not cut off inside a number, the text with the smaller number
comes first, whatever follows the numbers. -/
theorem smaller_number_comes_first {p m n s t : String} (hm : IsNumber m) (hn : IsNumber n)
    (hp : ∀ c ∈ p.toList.getLast?, isAsciiDigit c = false)
    (hs : ∀ c ∈ s.toList.head?, isAsciiDigit c = false)
    (ht : ∀ c ∈ t.toList.head?, isAsciiDigit c = false)
    (hLess : digitsValue m.toList < digitsValue n.toList) :
    naturalCompare (p ++ m ++ s) (p ++ n ++ t) = .lt := by
  have hmSome : m.toList ≠ [] := fun hNil => hm.notEmpty (String.toList_eq_nil_iff.mp hNil)
  have hnSome : n.toList ≠ [] := fun hNil => hn.notEmpty (String.toList_eq_nil_iff.mp hNil)
  have hNumbers : compareRuns m.toList n.toList = .lt := by
    rw [compareRuns_of_digits hm.isDigitRun hn.isDigitRun, compareDigits_eq hm.digits hn.digits]
    exact Nat.compare_eq_lt.mpr hLess
  have hRuns : compareRunLists (digitRuns (p ++ m ++ s).toList) (digitRuns (p ++ n ++ t).toList) =
      .lt := by
    simp only [String.toList_append]
    rw [digitRuns_around hm.digits hmSome hp hs, digitRuns_around hn.digits hnSome hp ht,
      compareRunLists_append_left, compareRunLists, hNumbers]
    rfl
  rw [naturalCompare, hRuns]
  rfl

/-- Zeros in front of a number, which has more digits than a machine word holds. -/
theorem smaller_number_comes_first_of_long :
    digitsValue "0018446744073709551616".toList < digitsValue "99446744073709551616".toList ∧
      naturalCompare ("v1." ++ "0018446744073709551616" ++ "-z")
        ("v1." ++ "99446744073709551616" ++ "-a") = .lt := by
  have hLess : digitsValue "0018446744073709551616".toList <
      digitsValue "99446744073709551616".toList := by simp [digitsValue]
  have hm : IsNumber "0018446744073709551616" :=
    ⟨List.all_eq_true.mp (by decide +kernel), by decide⟩
  have hn : IsNumber "99446744073709551616" :=
    ⟨List.all_eq_true.mp (by decide +kernel), by decide⟩
  exact ⟨hLess, smaller_number_comes_first hm hn (by simp [isAsciiDigit]) (by simp [isAsciiDigit])
    (by simp [isAsciiDigit]) hLess⟩

end ConfigReference.Text
