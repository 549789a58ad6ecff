import ConfigReference.Text.NaturalOrder

/-!
# Natural order is a total order

The order of characters carried over to texts is a total order. The order of runs is a preorder:
runs of digits with the same value tie, and against any other run a run of digits counts by its
first character, all digits alike. Natural order settles those ties by character.
-/

set_option autoImplicit false

namespace ConfigReference.Text

theorem transCmp_comap {α β : Type} (f : α → β) (cmp : β → β → Ordering) [Std.TransCmp cmp] :
    Std.TransCmp fun a b => cmp (f a) (f b) where
  eq_swap := Std.OrientedCmp.eq_swap
  isLE_trans := Std.TransCmp.isLE_trans

theorem compareChars_eq (a b : List Char) :
    compareChars a b = List.compareLex (compareOn Char.toNat) a b := by
  fun_induction compareChars a b with
  | case1 => rfl
  | case2 => rfl
  | case3 => rfl
  | case4 a as b bs ih =>
    rw [ih, List.compareLex_cons_cons]
    rfl

instance lawfulEqCmp_toNat : Std.LawfulEqCmp (compareOn Char.toNat) where
  eq_of_compare h := Char.toNat_inj.mp (Std.LawfulEqOrd.eq_of_compare h)

instance : Std.TransCmp compareChars := by
  rw [funext fun a => funext (compareChars_eq a)]
  infer_instance

instance : Std.LawfulEqCmp compareChars := by
  rw [funext fun a => funext (compareChars_eq a)]
  infer_instance

instance : Std.TransCmp compareDigits :=
  haveI := transCmp_comap (List.dropWhile (· == '0')) compareChars
  inferInstanceAs (Std.TransCmp (compareLex
    (compareOn fun run : List Char => (run.dropWhile (· == '0')).length)
    (fun a b => compareChars (a.dropWhile (· == '0')) (b.dropWhile (· == '0')))))

/-! ## Runs -/

theorem compareChars_cons_of_ne {a b : Char} (h : a ≠ b) (as bs : List Char) :
    compareChars (a :: as) (b :: bs) = compare a.toNat b.toNat := by
  have hNat : compare a.toNat b.toNat ≠ .eq := fun hEq =>
    h (Char.toNat_inj.mp (Std.LawfulEqOrd.eq_of_compare hEq))
  rw [compareChars]
  cases hCmp : compare a.toNat b.toNat <;> simp_all

theorem exists_cons_of_isDigitRun {run : List Char} (h : isDigitRun run = true) :
    ∃ c rest, run = c :: rest ∧ 48 ≤ c.toNat ∧ c.toNat ≤ 57 := by
  cases run with
  | nil => simp [isDigitRun] at h
  | cons c rest =>
    refine ⟨c, rest, rfl, ?_⟩
    simpa [isDigitRun, isAsciiDigit, Char.isDigit, UInt32.le_iff_toNat_le] using h

/-- Against a run that is no digit run, all digit runs compare alike, and never as equals. -/
theorem compareChars_of_isDigitRun {a b c : List Char} (ha : isDigitRun a = true)
    (hb : isDigitRun b = true) (hc : isDigitRun c = false) :
    compareChars a c = compareChars b c ∧ compareChars a c ≠ .eq := by
  obtain ⟨x, as, rfl, hx⟩ := exists_cons_of_isDigitRun ha
  obtain ⟨y, bs, rfl, hy⟩ := exists_cons_of_isDigitRun hb
  cases c with
  | nil => exact ⟨rfl, by simp [compareChars]⟩
  | cons z cs =>
    have hz : ¬(48 ≤ z.toNat ∧ z.toNat ≤ 57) := by
      simpa [isDigitRun, isAsciiDigit, Char.isDigit, UInt32.le_iff_toNat_le] using hc
    have hxz : x ≠ z := by rintro rfl; exact hz hx
    have hyz : y ≠ z := by rintro rfl; exact hz hy
    rw [compareChars_cons_of_ne hxz, compareChars_cons_of_ne hyz]
    by_cases hLt : z.toNat < 48
    · rw [Nat.compare_eq_gt.mpr (by omega), Nat.compare_eq_gt.mpr (by omega)]
      exact ⟨rfl, by decide⟩
    · rw [Nat.compare_eq_lt.mpr (by omega), Nat.compare_eq_lt.mpr (by omega)]
      exact ⟨rfl, by decide⟩

theorem compareRuns_of_digits {a b : List Char} (ha : isDigitRun a = true)
    (hb : isDigitRun b = true) : compareRuns a b = compareDigits a b := by
  simp [compareRuns, ha, hb]

theorem compareRuns_of_not_left {a b : List Char} (ha : isDigitRun a = false) :
    compareRuns a b = compareChars a b := by
  simp [compareRuns, ha]

theorem compareRuns_of_not_right {a b : List Char} (hb : isDigitRun b = false) :
    compareRuns a b = compareChars a b := by
  simp [compareRuns, hb]

instance : Std.OrientedCmp compareRuns where
  eq_swap {a b} := by
    rw [compareRuns, compareRuns, Bool.and_comm]
    split
    · exact Std.OrientedCmp.eq_swap
    · exact Std.OrientedCmp.eq_swap

/-- Two digit runs and another run: the other one does not stand between them, and it has the same
place against both. -/
theorem isLE_trans_compareRuns_of_digits {a b c : List Char} (ha : isDigitRun a = true)
    (hb : isDigitRun b = true) (hc : isDigitRun c = false) :
    ((compareRuns a c).isLE = (compareRuns b c).isLE ∧
      (compareRuns c a).isLE = (compareRuns c b).isLE) ∧
    ¬((compareRuns a c).isLE = true ∧ (compareRuns c b).isLE = true) := by
  obtain ⟨hSame, hNe⟩ := compareChars_of_isDigitRun ha hb hc
  have hSwap (run : List Char) : compareChars c run = (compareChars run c).swap :=
    Std.OrientedCmp.eq_swap
  rw [compareRuns_of_not_right hc, compareRuns_of_not_right hc, compareRuns_of_not_left hc,
    compareRuns_of_not_left hc, hSwap a, hSwap b, hSame]
  refine ⟨⟨rfl, rfl⟩, ?_⟩
  rw [hSame] at hNe
  cases hCmp : compareChars b c <;> simp_all

instance : Std.TransCmp compareRuns where
  isLE_trans {a b c} hab hbc := by
    cases ha : isDigitRun a <;> cases hb : isDigitRun b <;> cases hc : isDigitRun c
    case true.true.true =>
      rw [compareRuns_of_digits ha hb] at hab
      rw [compareRuns_of_digits hb hc] at hbc
      rw [compareRuns_of_digits ha hc]
      exact Std.TransCmp.isLE_trans hab hbc
    case true.true.false => exact (isLE_trans_compareRuns_of_digits ha hb hc).1.1 ▸ hbc
    case true.false.true => exact absurd ⟨hab, hbc⟩ (isLE_trans_compareRuns_of_digits ha hc hb).2
    case false.true.true => exact (isLE_trans_compareRuns_of_digits hb hc ha).1.2 ▸ hab
    all_goals
      simp only [compareRuns, ha, hb, hc, Bool.and_false, Bool.false_and, Bool.false_eq_true,
        if_false] at hab hbc ⊢
      exact Std.TransCmp.isLE_trans hab hbc

/-! ## Texts -/

theorem compareRunLists_eq (a b : List (List Char)) :
    compareRunLists a b = List.compareLex compareRuns a b := by
  fun_induction compareRunLists a b with
  | case1 => rfl
  | case2 => rfl
  | case3 => rfl
  | case4 a as b bs ih =>
    rw [ih, List.compareLex_cons_cons]

instance : Std.TransCmp compareRunLists := by
  rw [funext fun a => funext (compareRunLists_eq a)]
  infer_instance

instance : Std.TransCmp naturalCompare :=
  haveI := transCmp_comap (fun s : String => digitRuns s.toList) compareRunLists
  haveI := transCmp_comap String.toList compareChars
  inferInstanceAs (Std.TransCmp (compareLex
    (fun a b : String => compareRunLists (digitRuns a.toList) (digitRuns b.toList))
    (fun a b => compareChars a.toList b.toList)))

instance : Std.LawfulEqCmp naturalCompare where
  eq_of_compare h :=
    String.toList_injective (Std.LawfulEqCmp.eq_of_compare (Ordering.then_eq_eq.mp h).2)

end ConfigReference.Text
