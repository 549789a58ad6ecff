import ConfigReference.Text.Line

/-!
# Replacing a mark

A text with a mark in it tells which text the mark was replaced by: its length tells that text's
length, and the first mark where the text begins.
-/

set_option autoImplicit false

namespace ConfigReference.Text

theorem contains_eq_true_iff {part s : List Char} : contains part s = true ↔ part <:+: s := by
  induction s with
  | nil => rw [contains, List.isEmpty_iff, List.infix_nil]
  | cons c rest ih =>
    rw [contains, Bool.or_eq_true, List.isPrefixOf_iff_prefix, ih, List.infix_cons_iff]

/-! ## A front in which no mark begins -/

section

variable {old front : List Char}

end

end ConfigReference.Text
