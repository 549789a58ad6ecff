import Mathlib.Data.List.Pairwise
import ConfigReference.Section

/-!
# Sorting of rows

Both orders of rows compare any two rows, so sorting gives the rows in ascending order, and rows
that tie stay in the order in which they came.
-/

set_option autoImplicit false

namespace ConfigReference

namespace RowOrder

theorem le_trans (order : RowOrder) (a b c : Row) (hab : order.le a b = true)
    (hbc : order.le b c = true) : order.le a c = true := by
  cases order with
  | byKey =>
    simp only [le, decide_eq_true_eq] at hab hbc ⊢
    exact String.le_trans hab hbc
  | byPlace =>
    simp only [le, decide_eq_true_eq] at hab hbc ⊢
    omega

theorem le_total (order : RowOrder) (a b : Row) : (order.le a b || order.le b a) = true := by
  cases order with
  | byKey =>
    simp only [le, Bool.or_eq_true, decide_eq_true_eq]
    exact String.le_total a.key b.key
  | byPlace =>
    simp only [le, Bool.or_eq_true, decide_eq_true_eq]
    omega

/-- Neither row has to stand before the other. -/
def ties (order : RowOrder) (a b : Row) : Bool := order.le a b && order.le b a

theorem ties_comm (order : RowOrder) (a b : Row) : order.ties a b = order.ties b a :=
  Bool.and_comm _ _

end RowOrder

namespace Row

variable {order : RowOrder} {rows : List Row}

theorem sort_perm (order : RowOrder) (rows : List Row) : (sort order rows).Perm rows :=
  List.mergeSort_perm rows order.le

theorem ascending_sort (order : RowOrder) (rows : List Row) :
    (sort order rows).Pairwise fun a b => order.le a b = true :=
  List.pairwise_mergeSort order.le_trans order.le_total rows

theorem sort_of_ascending (h : rows.Pairwise fun a b => order.le a b = true) :
    sort order rows = rows :=
  List.mergeSort_of_pairwise h

theorem sort_congr {others : List Row} (hPerm : rows.Perm others)
    (hApart : rows.Pairwise fun a b => order.ties a b = false) :
    sort order rows = sort order others := by
  have hSorted := (sort_perm order rows).trans (hPerm.trans (sort_perm order others).symm)
  refine List.Perm.eq_of_pairwise ?_ (ascending_sort order rows) (ascending_sort order others)
    hSorted
  intro a b ha hb hab hba
  by_contra hNe
  have hMem {r : Row} (hr : r ∈ sort order rows) : r ∈ rows := (sort_perm order rows).mem_iff.mp hr
  have hSymm : Std.Symm fun q r => order.ties q r = false :=
    ⟨fun q r h => (order.ties_comm r q).trans h⟩
  have hFalse : order.ties a b = false :=
    hApart.forall (hMem ha) (hMem (hSorted.mem_iff.mpr hb)) hNe
  rw [RowOrder.ties, hab, hba] at hFalse
  cases hFalse

end Row

end ConfigReference
