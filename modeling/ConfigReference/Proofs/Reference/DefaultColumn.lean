import Mathlib.Data.List.DropRight
import ConfigReference.Proofs.Template.Assignment
import ConfigReference.Proofs.Template.BuiltIn
import ConfigReference.Reference.Data

/-!
# The column of defaults

What the macro for the column of defaults makes of a row. A default between code marks loses them
and is set out on lines if it is JSON; any other default is shown as it is, under its notation.
-/

set_option autoImplicit false

namespace ConfigReference

open Template Template.BuiltIn

def Template.isCode (t : String) : Bool :=
  "`".toList.isPrefixOf t.toList && "`".toList.isSuffixOf t.toList

/-- A text without the code marks at its ends, set out on lines if it is JSON. -/
def Template.unwrapped (t : String) : String :=
  prettyJson (.ofList (trimEndCopies "`".toList (trimStartCopies "`".toList t.toList)))

namespace Row

def columnBlock (key t label : String) : String :=
  .join ["<pre lang=\"", label, "\">",
    if label == "tpl" then .join ["\n", key, ": |\n  ", t] else .join ["\n", t], "\n</pre>"]

def columnText (r : Row) : String :=
  let t := orElse r.defaultText r.autoDefault
  columnBlock r.key (if isCode t then unwrapped t else t)
    (if isCode t then "json" else r.notationType)

end Row

/-! ## Code marks -/

theorem Template.dropCopies_singleton (c : Char) {fuel : Nat} {s : List Char}
    (hFuel : s.length ≤ fuel) : dropCopies [c] fuel s = s.dropWhile (· == c) := by
  induction s generalizing fuel with
  | nil => cases fuel <;> rfl
  | cons d s ih =>
    obtain ⟨fuel, rfl⟩ := Nat.exists_eq_succ_of_ne_zero (Nat.ne_zero_of_lt hFuel)
    rw [dropCopies, List.dropWhile_cons]
    by_cases hSame : c = d
    · subst hSame
      simpa [List.isPrefixOf] using ih (Nat.le_of_succ_le_succ hFuel)
    · simp [List.isPrefixOf, hSame, Ne.symm hSame]

theorem Template.trimStartCopies_singleton (c : Char) (s : List Char) :
    trimStartCopies [c] s = s.dropWhile (· == c) := dropCopies_singleton c (Nat.le_refl _)

theorem Template.trimEndCopies_singleton (c : Char) (s : List Char) :
    trimEndCopies [c] s = s.rdropWhile (· == c) := by
  rw [trimEndCopies, List.reverse_singleton, trimStartCopies_singleton]
  rfl

theorem toList_mark : "`".toList = [Char.ofNat 0x60] := by decide

theorem Row.toList_codeText (t : String) :
    (codeText t).toList = Char.ofNat 0x60 :: (t.toList ++ [Char.ofNat 0x60]) := by
  simp [codeText]

theorem Template.isCode_codeText (t : String) : isCode (Row.codeText t) = true := by
  have hEnd : [Char.ofNat 0x60] <:+ Char.ofNat 0x60 :: (t.toList ++ [Char.ofNat 0x60]) :=
    (List.suffix_append t.toList _).trans (List.suffix_cons _ _)
  rw [isCode, toList_mark, Row.toList_codeText, List.isSuffixOf_iff_suffix.mpr hEnd]
  simp [List.isPrefixOf]

/-- No code mark starts or ends a text. -/
structure PlainEnds (s : List Char) : Prop where
  head : ∀ c ∈ s.head?, c ≠ Char.ofNat 0x60
  last : ∀ c ∈ s.getLast?, c ≠ Char.ofNat 0x60

def Template.withoutMarks (t : String) : String :=
  .ofList ((t.toList.dropWhile (· == Char.ofNat 0x60)).rdropWhile (· == Char.ofNat 0x60))

theorem Template.unwrapped_eq (t : String) : unwrapped t = prettyJson (withoutMarks t) := by
  rw [unwrapped, toList_mark, trimStartCopies_singleton, trimEndCopies_singleton, withoutMarks]

theorem Template.withoutMarks_codeText (t : String) :
    withoutMarks (Row.codeText t) = withoutMarks t := by
  rw [withoutMarks, Row.toList_codeText, List.dropWhile_cons_of_pos (by simp),
    List.dropWhile_append, withoutMarks]
  split
  · rename_i hEmpty
    simp [List.isEmpty_iff.mp hEmpty]
  · rw [List.rdropWhile_concat_pos _ _ _ (by simp)]

theorem Template.dropWhile_mark_eq_self (s : List Char) :
    s.dropWhile (· == Char.ofNat 0x60) = s ↔ ∀ c ∈ s.head?, c ≠ Char.ofNat 0x60 := by
  rw [List.dropWhile_eq_self_iff]
  cases s <;> simp

theorem Template.rdropWhile_mark_eq_self (s : List Char) :
    s.rdropWhile (· == Char.ofNat 0x60) = s ↔ ∀ c ∈ s.getLast?, c ≠ Char.ofNat 0x60 := by
  rw [List.rdropWhile_eq_self_iff]
  rcases s.eq_nil_or_concat with rfl | ⟨inside, last, rfl⟩ <;> simp

theorem Template.withoutMarks_eq_iff (t : String) : withoutMarks t = t ↔ PlainEnds t.toList := by
  have hChars : withoutMarks t = t ↔ (t.toList.dropWhile (· == Char.ofNat 0x60)).rdropWhile
      (· == Char.ofNat 0x60) = t.toList := by
    rw [← String.toList_inj, withoutMarks, String.toList_ofList]
  rw [hChars]
  constructor
  · intro h
    -- What the second pass leaves is no longer than what the first one does.
    have hHead : t.toList.dropWhile (· == Char.ofNat 0x60) = t.toList := by
      have hLength := (List.rdropWhile_prefix (· == Char.ofNat 0x60)
        (t.toList.dropWhile (· == Char.ofNat 0x60))).length_le
      rw [h] at hLength
      exact (List.dropWhile_suffix _).eq_of_length_le hLength
    rw [hHead] at h
    exact ⟨(dropWhile_mark_eq_self _).mp hHead, (rdropWhile_mark_eq_self _).mp h⟩
  · intro h
    rw [(dropWhile_mark_eq_self _).mpr h.head]
    exact (rdropWhile_mark_eq_self _).mpr h.last

theorem Template.unwrapped_codeText {t : String} (hHead : ∀ c ∈ t.toList.head?, c ≠ Char.ofNat 0x60)
    (hLast : ∀ c ∈ t.toList.getLast?, c ≠ Char.ofNat 0x60) :
    unwrapped (Row.codeText t) = prettyJson t := by
  rw [unwrapped_eq, withoutMarks_codeText, (withoutMarks_eq_iff t).mpr ⟨hHead, hLast⟩]

theorem Row.columnBlock_json (key t : String) :
    columnBlock key t "json" = .join ["<pre lang=\"json\">\n", t, "\n</pre>"] := by
  have hHead : "<pre lang=\"" ++ "json" ++ "\">" ++ "\n" = "<pre lang=\"json\">\n" := by decide
  have hLabel : ("json" == "tpl") = false := by decide
  rw [columnBlock, hLabel, ← hHead]
  simp only [Bool.false_eq_true, if_false, String.join_cons, String.join_nil, String.append_empty,
    String.append_assoc]

theorem Row.columnText_of_codeText {r : Row} {t : String} (h : r.defaultText = codeText t) :
    r.columnText =
      .join ["<pre lang=\"json\">\n", unwrapped r.defaultText, "\n</pre>"] := by
  have hShown : orElse r.defaultText r.autoDefault = r.defaultText := by
    rw [orElse, h]
    simp [codeText]
  have hCode : isCode r.defaultText = true := by
    rw [h]
    exact isCode_codeText t
  simp only [columnText, hShown, hCode, if_true, columnBlock_json]

/-! ## Rendering -/

section

variable {s : Setting} {callee : Callee} {p : Place}

def columnScope (r : Row) (assigned : List (String × Json)) : Scope :=
  [{ assigned := assigned ++ [("row", r.toJson)] }]

theorem lookup?_columnScope_row {data : List (String × Json)} {r : Row}
    {assigned : List (String × Json)} {key t : String} (hName : assigned.lookup "row" = none)
    (h : r.toJson.follow? [key] = some (.string t)) :
    Scope.lookup? data ⟨"row", [key]⟩ (columnScope r assigned) = some (.string t) := by
  simp [columnScope, Scope.lookup?, Frame.lookup?, Variable.valueIn?, List.lookup_append, hName, h]

theorem lookup?_columnScope {data : List (String × Json)} {r : Row}
    {assigned : List (String × Json)} {name : String} {value : Json}
    (h : assigned.lookup name = some value) :
    Scope.lookup? data ⟨name, []⟩ (columnScope r assigned) = some value := by
  simp [columnScope, Scope.lookup?, Frame.lookup?, Variable.valueIn?, List.lookup_append, h,
    Json.follow?]

theorem assign_columnScope (r : Row) (assigned : List (String × Json)) {name : String}
    (hName : name ≠ "row") (value : Json) :
    (columnScope r assigned).assign name value =
      columnScope r ((name, value) :: assigned.filter (·.1 ≠ name)) := by
  simp [Scope.assign, columnScope, Ne.symm hName]

def settledScope (r : Row) (t label : String) : Scope :=
  columnScope r [("lang", .string label), ("value", .string t)]

theorem lookup?_settledScope_value (data : List (String × Json)) (r : Row) (t label : String) :
    Scope.lookup? data ⟨"value", []⟩ (settledScope r t label) = some (.string t) :=
  lookup?_columnScope rfl

theorem lookup?_settledScope_lang (data : List (String × Json)) (r : Row) (t label : String) :
    Scope.lookup? data ⟨"lang", []⟩ (settledScope r t label) = some (.string label) :=
  lookup?_columnScope rfl

theorem sets_default (r : Row) :
    (Part.branch (member "row" ["Default"]) [.assign "value" (member "row" ["Default"])]
      [.assign "value" (member "row" ["AutoDefault"])]).Sets s callee p (columnScope r [])
      (columnScope r [("value", .string (Row.orElse r.defaultText r.autoDefault))]) := by
  have hDefault : Scope.lookup? s.data ⟨"row", ["Default"]⟩ (columnScope r []) =
      some (.string r.defaultText) := lookup?_columnScope_row rfl (Json.follow?_member rfl)
  have hAuto : Scope.lookup? s.data ⟨"row", ["AutoDefault"]⟩ (columnScope r []) =
      some (.string r.autoDefault) := lookup?_columnScope_row rfl (Json.follow?_member rfl)
  have hScope (t : String) : (columnScope r []).assign "value" (.string t) =
      columnScope r [("value", .string t)] := assign_columnScope r [] (by decide) _
  refine (holds_string hDefault).sets_branch ?_
  rw [Row.orElse]
  cases r.defaultText.isEmpty with
  | true =>
    refine .cons (gives_var hAuto).sets_assign ?_
    rw [hScope]
    exact .nil
  | false =>
    refine .cons (gives_var hDefault).sets_assign ?_
    rw [hScope]
    exact .nil

theorem patternChars_mark : patternChars "`" = "`".toList := by decide

theorem gives_unwrapped {scope : Scope} {e : Expr} {t : String}
    (h : Gives s callee p scope e (.string t)) :
    Gives s callee p scope
      (.filter (.filter (.filter e "trim_start_matches" [("pat", .text "`")]) "trim_end_matches"
        [("pat", .text "`")]) "to_pretty_json" []) (.string (unwrapped t)) := by
  have hStart : filter? "trim_start_matches" =
      some (patternFilter "trim_start_matches" trimStartCopies) := rfl
  have hEnd : filter? "trim_end_matches" =
      some (patternFilter "trim_end_matches" trimEndCopies) := rfl
  have hPretty : filter? "to_pretty_json" = some (textFilter "to_pretty_json" prettyJson) := rfl
  have hFirst : Gives s callee p scope (.filter e "trim_start_matches" [("pat", .text "`")])
      (.string (.ofList (trimStartCopies (patternChars "`") t.toList))) := h.patternFilter hStart
  have hLast : Gives s callee p scope
      (.filter (.filter e "trim_start_matches" [("pat", .text "`")]) "trim_end_matches"
        [("pat", .text "`")])
      (.string (.ofList (trimEndCopies (patternChars "`")
        (String.ofList (trimStartCopies (patternChars "`") t.toList)).toList))) :=
    hFirst.patternFilter hEnd
  have hTrimmed : (String.ofList (trimStartCopies "`".toList t.toList)).toList =
      trimStartCopies "`".toList t.toList := String.toList_ofList
  rw [patternChars_mark, hTrimmed] at hLast
  exact hLast.textFilter hPretty

theorem sets_unwrapped (r : Row) (t label : String) :
    (Part.branch (.and (.test ⟨"value", []⟩ false "starting_with" [.text "`"])
        (.test ⟨"value", []⟩ false "ending_with" [.text "`"])) [
      .assign "value" (.filter (.filter (.filter (member "value" []) "trim_start_matches"
        [("pat", .text "`")]) "trim_end_matches" [("pat", .text "`")]) "to_pretty_json" []),
      .assign "lang" (.text "json")] []).Sets s callee p (settledScope r t label)
      (settledScope r (if isCode t then unwrapped t else t)
        (if isCode t then "json" else label)) := by
  have hValue := lookup?_settledScope_value s.data r t label
  have hStarts : Holds s callee p (settledScope r t label)
      (.test ⟨"value", []⟩ false "starting_with" [.text "`"])
      ("`".toList.isPrefixOf t.toList) := holds_textTest hValue rfl
  have hEnds : Holds s callee p (settledScope r t label)
      (.test ⟨"value", []⟩ false "ending_with" [.text "`"])
      ("`".toList.isSuffixOf t.toList) := holds_textTest hValue rfl
  have hCode := hStarts.and hEnds
  rw [← isCode] at hCode
  apply hCode.sets_branch
  cases isCode t with
  | true =>
    simp only [if_true]
    refine .cons (gives_unwrapped (gives_var hValue)).sets_assign ?_
    rw [settledScope, assign_columnScope r _ (by decide)]
    refine .cons gives_text.sets_assign ?_
    rw [assign_columnScope r _ (by decide)]
    exact .nil
  | false => exact .nil

theorem shows_columnBlock (r : Row) (t label : String) :
    Shows s callee p (settledScope r t label)
      [.text "<pre lang=\"", .output (member "lang" []), .text "\">",
        .branch (.equal (member "lang" []) (.text "tpl")) [
          .text "\n", .output (member "row" ["Key"]), .text ": |\n  ",
          .output (member "value" [])] [.text "\n", .output (member "value" [])],
        .text "\n</pre>"] (Row.columnBlock r.key t label) := by
  have hLabel : Gives s callee p (settledScope r t label) (member "lang" []) (.string label) :=
    gives_var (lookup?_settledScope_lang s.data r t label)
  have hText : Gives s callee p (settledScope r t label) (member "value" []) (.string t) :=
    gives_var (lookup?_settledScope_value s.data r t label)
  have hKey : Gives s callee p (settledScope r t label) (member "row" ["Key"]) (.string r.key) :=
    gives_var (lookup?_columnScope_row rfl (Json.follow?_member rfl))
  refine .cons (shows_text _) (.cons hLabel.shows_string (.cons (shows_text _) ?_))
  refine .cons (hLabel.holds_equal.shows_branch ?_ ?_) (.cons (shows_text _) .nil)
  · exact .cons (shows_text _) (.cons hKey.shows_string
      (.cons (shows_text _) (.cons hText.shows_string .nil)))
  · exact .cons (shows_text _) (.cons hText.shows_string .nil)

theorem renders_defaultColumn (r : Row) :
    Renders s callee p (columnScope r []) defaultColumn.body r.columnText := by
  have hNotation : Gives s callee p
      (columnScope r [("value", .string (Row.orElse r.defaultText r.autoDefault))])
      (member "row" ["NotationType"]) (.string r.notationType) :=
    gives_var (lookup?_columnScope_row rfl (Json.follow?_member rfl))
  refine .behind (sets_default r) (.behind hNotation.sets_assign ?_)
  rw [assign_columnScope r _ (by decide)]
  exact .behind (sets_unwrapped r _ _) (shows_columnBlock r _ _).renders

end

end ConfigReference
