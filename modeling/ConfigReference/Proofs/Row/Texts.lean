import ConfigReference.Proofs.Row.Defaults

/-!
# Defaults of texts

The default of a text is the text between code marks. The column of defaults takes all code marks
off both ends, those of the text itself too, and sets the rest out on lines if it is JSON. So a text
is shown as it is written exactly when no code mark starts or ends it and it is either no JSON or
JSON that stands on lines already.
-/

set_option autoImplicit false

namespace ConfigReference

/-! ## Characters of numbers -/

namespace Decimal

def isNumberChar (c : Char) : Bool := c.isDigit || c == '+' || c == '-' || c == '.' || c == 'e'

theorem all_toDigits (n : Nat) : (Nat.toDigits 10 n).all isNumberChar = true := by
  rw [List.all_eq_true]
  intro c hDigit
  simp [isNumberChar, Json.isDigit_of_mem_toDigits hDigit]

theorem all_toString (n : Int) : (toString n).toList.all isNumberChar = true := by
  have hText : (toString n).toList = (if 0 ≤ n then [] else ['-']) ++ Nat.toDigits 10 n.natAbs :=
    Json.render_int n
  rw [hText, List.all_append, all_toDigits]
  split <;> decide

theorem Layout.all_render (l : Layout) {digits : List Char} (point : Int)
    (h : digits.all isNumberChar = true) : (l.render digits point).all isNumberChar = true := by
  have hZeros (n : Nat) : (List.replicate n '0').all isNumberChar = true := by
    simp [isNumberChar]
  have hSplit := h
  rw [← List.take_append_drop point.toNat digits, List.all_append, Bool.and_eq_true] at hSplit
  rw [render]
  split
  · split
    · simp only [List.cons_append, List.all_cons, List.all_append, hZeros, h]
      decide
    · split
      · simp only [List.all_append, hZeros, h]
        cases l.wholeMark <;> decide
      · simp only [List.all_append, List.all_cons, hSplit]
        decide
  · have hMark :
        (if l.plusSign && 0 < point then ['e', '+'] else ['e']).all isNumberChar = true := by
      split <;> decide
    have hExponent := all_toString (point - 1)
    have hPoint : isNumberChar '.' = true := by decide
    match digits with
    | [] => rfl
    | [d] =>
      simp only [List.all_cons, List.all_nil, Bool.and_true] at h
      simp only [List.all_cons, List.all_append, h, hMark, hExponent, Bool.and_self]
    | d :: e :: rest =>
      simp only [List.all_cons, Bool.and_eq_true] at h
      obtain ⟨hFirst, hSecond, hRest⟩ := h
      simp only [List.cons_append, List.all_cons, List.all_append, hFirst, hPoint, hSecond, hRest,
        hMark, hExponent, Bool.and_self]

theorem Layout.all_float (l : Layout) (x : Float) : (l.float x).all isNumberChar = true := by
  rw [float]
  generalize Parts.ofFloat x = p
  generalize p.shortest = shortest
  have hBody : (if p.significand = 0 then '0' :: (if l.wholeMark then ['.', '0'] else [])
      else l.render (Text.natDigits shortest.1)
        ((Text.natDigits shortest.1).length + shortest.2)).all isNumberChar = true := by
    split
    · cases l.wholeMark <;> decide
    · exact l.all_render _ (all_toDigits _)
  cases p.negative with
  | true => exact hBody
  | false => exact hBody

end Decimal

/-! ## Ends of JSON texts -/

namespace PlainEnds

theorem of_all {s : List Char} {P : Char → Bool} (h : s.all P = true)
    (hMark : P (Char.ofNat 0x60) = false) : PlainEnds s := by
  have hInside : ∀ c ∈ s, c ≠ Char.ofNat 0x60 := by
    rintro c hc rfl
    exact Bool.false_ne_true (hMark.symm.trans (List.all_eq_true.mp h _ hc))
  exact ⟨fun c hc => hInside c (List.mem_of_mem_head? hc),
    fun c hc => hInside c (List.mem_of_mem_getLast? hc)⟩

theorem enclosed {first last : Char} (inside : List Char) (hFirst : first ≠ Char.ofNat 0x60)
    (hLast : last ≠ Char.ofNat 0x60) : PlainEnds (first :: inside ++ [last]) where
  head c hc := by cases hc; exact hFirst
  last c hc := by
    rw [List.getLast?_concat] at hc
    cases hc
    exact hLast

end PlainEnds

theorem Json.plainEnds_render (n : Number) : PlainEnds n.render := by
  cases n with
  | int n => exact .of_all (Decimal.all_toString n) (by decide)
  | float x => exact .of_all (Decimal.Layout.all_float _ x) (by decide)

theorem Json.plainEnds_prettyChars (j : Json) (level : Nat) : PlainEnds (j.prettyChars level) := by
  cases j with
  | null => exact .enclosed ['u', 'l'] (by decide) (by decide)
  | bool b =>
    cases b with
    | true => exact .enclosed ['r', 'u'] (by decide) (by decide)
    | false => exact .enclosed ['a', 'l', 's'] (by decide) (by decide)
  | number n => exact plainEnds_render n
  | string s => exact .enclosed _ (by decide) (by decide)
  | array items =>
    cases items with
    | nil => exact .enclosed [] (by decide) (by decide)
    | cons item rest => exact .enclosed _ (by decide) (by decide)
  | object members =>
    cases members with
    | nil => exact .enclosed [] (by decide) (by decide)
    | cons m rest => exact .enclosed _ (by decide) (by decide)

/-! ## Verbatim texts -/

namespace Template

/-- The column of defaults shows a text as it is written: no code mark starts or ends it, and if it
is JSON it stands on lines. -/
structure IsVerbatim (t : String) : Prop where
  ends : PlainEnds t.toList
  json : ∀ j, Json.parse? t = some j → j.pretty = t

theorem unwrapped_codeText_eq_iff (t : String) :
    unwrapped (Row.codeText t) = t ↔ IsVerbatim t := by
  rw [unwrapped_eq, withoutMarks_codeText]
  constructor
  · intro h
    have hEnds : PlainEnds t.toList := by
      rw [prettyJson] at h
      split at h
      · rename_i j hJson
        rw [← h, Json.pretty, String.toList_ofList]
        exact j.plainEnds_prettyChars 0
      · exact (withoutMarks_eq_iff t).mp h
    refine ⟨hEnds, ?_⟩
    intro j hJson
    rw [(withoutMarks_eq_iff t).mpr hEnds, prettyJson, hJson] at h
    exact h
  · intro h
    rw [(withoutMarks_eq_iff t).mpr h.ends, prettyJson]
    split
    · rename_i j hJson
      exact h.json j hJson
    · rfl

end Template

/-! ## Rows of texts -/

namespace Yaml.Node

/-- The text that a value is, itself or behind an alias. A point in time is one too. -/
def writtenText? (n : Node) : Option String :=
  match n.resolve with
  | .scalar _ .str t | .scalar _ .timestamp t => some t
  | _ => none

theorem toJson_of_writtenText? {n : Node} {t : String} (h : n.writtenText? = some t) :
    n.toJson = .string t := by
  rw [writtenText?] at h
  rw [← toJson_resolve]
  split at h
  · rename_i hNode
    cases h
    rw [hNode]
    rfl
  · rename_i hNode
    cases h
    rw [hNode]
    rfl
  · cases h

end Yaml.Node

namespace Row

section

variable {ds : Descriptions} {p : Position} {t : String}

theorem Position.IsPlain.of_silent (hGiven : ds.get? p.key = none)
    (hAbove : commentAbove p.head = {}) : p.IsPlain ds where
  given := by rw [hGiven]; rfl
  above := by rw [hAbove]
  notationType := by
    rw [commentAbove] at hAbove
    rw [said, Said.notationType, hGiven, hAbove]
    rfl

theorem shown_of_writtenText? (hPlain : p.IsPlain ds) (h : p.value.writtenText? = some t) :
    p.shown ds = .data (.string t) := by
  rw [← Yaml.Node.toJson_of_writtenText? h, Position.shown, ← Yaml.Node.toJson_resolve p.value]
  rw [Yaml.Node.writtenText?] at h
  split at h
  · rename_i hNode
    simp [hNode, shownScalar, hPlain.notationType]
  · rename_i hNode
    simp [hNode, shownScalar, hPlain.notationType]
  · cases h

theorem defaultText_of_writtenText? (hPlain : p.IsPlain ds) (h : p.value.writtenText? = some t)
    (s : InForce) : (p.row ds s).defaultText = codeText t := by
  have hGiven : ((said ds p.key p.head).given.getD {}).defaultText = "" := hPlain.given
  have hAbove : (said ds p.key p.head).auto.defaultText = "" := hPlain.above
  rw [Position.row, shown_of_writtenText? hPlain h]
  simp [ofValue, hGiven, hAbove, shownDefault, hPlain.notationType, plainJson]

end

/-- What the column of defaults shows for a row on the lines between its tags. -/
def ColumnShows (r : Row) (t : String) : Prop :=
  ∀ (s : Template.Setting) (depth : Nat) (place : Template.Place),
    Template.renderBody s (depth + 1) place [{ assigned := [("row", r.toJson)] }]
        Template.BuiltIn.defaultColumn.body =
      .ok (.join ["<pre lang=\"json\">\n", t, "\n</pre>"])

theorem columnShows_of_codeText {r : Row} {t : String} (h : r.defaultText = codeText t) :
    r.ColumnShows (Template.unwrapped (codeText t)) := by
  intro s depth place
  rw [← h, ← columnText_of_codeText h]
  exact (renders_defaultColumn r).renderBody

theorem ColumnShows.unique {r : Row} {t other : String} (h : r.ColumnShows t)
    (hOther : r.ColumnShows other) : t = other := by
  have hSame := Except.ok.inj ((h ⟨[], fun _ => none, []⟩ 0 ⟨"", none⟩).symm.trans
    (hOther ⟨[], fun _ => none, []⟩ 0 ⟨"", none⟩))
  rw [← String.toList_inj] at hSame ⊢
  simpa using hSame

theorem IsRowOf.text_shown {ds : Descriptions} {p : Position} {r : Row} {t : String}
    (h : IsRowOf ds p r) (hText : p.value.writtenText? = some t) (hPlain : p.IsPlain ds) :
    r.defaultText = codeText t ∧
      r.ColumnShows (Template.prettyJson (Template.withoutMarks t)) ∧
      (r.ColumnShows t ↔ Template.IsVerbatim t) := by
  obtain ⟨s, rfl⟩ := h
  have hDefault := defaultText_of_writtenText? hPlain hText s
  have hShows := columnShows_of_codeText hDefault
  refine ⟨hDefault, ?_, ?_⟩
  · rwa [Template.unwrapped_eq, Template.withoutMarks_codeText] at hShows
  · rw [← Template.unwrapped_codeText_eq_iff]
    constructor
    · exact hShows.unique
    · intro hSame
      rwa [hSame] at hShows

/-- Where nothing else is told, the default in the row of a text is the text between code marks. The
column of defaults shows it without the code marks at its ends, and on lines if that is JSON, which
is the text as it is written exactly for the verbatim texts. -/
theorem text_defaults_shown {root : Yaml.Node} {ds : Descriptions} {rows : List Row}
    (h : Yaml.Node.rows (some root) ds = .ok rows) :
    List.Forall₂ (fun p r => Documents ds p r ∧
        ∀ t, p.value.writtenText? = some t → p.IsPlain ds →
          r.defaultText = codeText t ∧
          r.ColumnShows (Template.prettyJson (Template.withoutMarks t)) ∧
          (r.ColumnShows t ↔ Template.IsVerbatim t))
      ((positions root).filter (·.isListed ds)) rows :=
  (forall₂_isRowOf_rows h).imp fun _ _ hRow =>
    ⟨hRow.documents, fun _ hText hPlain => hRow.text_shown hText hPlain⟩

/-- Code marks inside a text stay. -/
theorem text_defaults_shown_marks_inside :
    let root : Yaml.Node := .mapping {} [(.scalar {} .str "a", .scalar {} .str "run `x` now")]
    ∃ rows, Yaml.Node.rows (some root) .empty = .ok rows ∧
      ∃ r ∈ rows, r.key = "a" ∧ r.ColumnShows "run `x` now" := by
  intro root
  have hRows : Yaml.Node.rows (some root) .empty =
      .ok (flatten .empty {} "" none true root).1 := rfl
  have hPosition : (⟨"a", some {}, .scalar {} .str "run `x` now", [("", none)]⟩ : Position) ∈
      (positions root).filter (·.isListed .empty) :=
    List.mem_filter.mpr ⟨.tail _ (.head _), by decide +kernel⟩
  obtain ⟨r, hr, hDoc, hShown⟩ :=
    exists_of_forall₂_left (text_defaults_shown hRows) hPosition
  obtain ⟨-, -, hVerbatim⟩ := hShown "run `x` now" rfl (.of_silent rfl (by decide))
  refine ⟨_, hRows, r, hr, hDoc.key, hVerbatim.mpr ⟨?_, ?_⟩⟩
  · exact .enclosed "un `x` no".toList (by decide) (by decide)
  · intro j hJson
    have hNone : Json.parse? "run `x` now" = none := by decide +kernel
    cases hNone.symm.trans hJson

theorem exists_shown_otherwise {root : Yaml.Node} {ds : Descriptions} {rows : List Row}
    (h : Yaml.Node.rows (some root) ds = .ok rows) {p : Position} (hPosition : p ∈ positions root)
    (hListed : p.isListed ds = true) {t shown : String} (hText : p.value.writtenText? = some t)
    (hPlain : p.IsPlain ds) (hShown : Template.prettyJson (Template.withoutMarks t) = shown)
    (hOther : shown ≠ t) :
    ∃ r ∈ rows, r.key = p.key ∧ r.ColumnShows shown ∧ ¬r.ColumnShows t := by
  obtain ⟨r, hr, hRow⟩ := exists_of_forall₂_left (forall₂_isRowOf_rows h)
    (List.mem_filter.mpr ⟨hPosition, hListed⟩)
  obtain ⟨-, hShows, -⟩ := hRow.text_shown hText hPlain
  rw [hShown] at hShows
  exact ⟨r, hr, hRow.documents.key, hShows, fun hSame => hOther (hShows.unique hSame)⟩

/-- The text `[1]` is set out on lines, and a text that ends in a mark loses it. -/
theorem texts_not_shown_as_written :
    let root : Yaml.Node := .mapping {} [(.scalar {} .str "a", .scalar {} .str "[1]"),
      (.scalar {} .str "b", .scalar {} .str "x`")]
    ∃ rows, Yaml.Node.rows (some root) .empty = .ok rows ∧
      (∃ r ∈ rows, r.key = "a" ∧ r.ColumnShows "[\n  1\n]" ∧ ¬r.ColumnShows "[1]") ∧
      ∃ r ∈ rows, r.key = "b" ∧ r.ColumnShows "x" ∧ ¬r.ColumnShows "x`" := by
  intro root
  have hRows : Yaml.Node.rows (some root) .empty =
      .ok (flatten .empty {} "" none true root).1 := rfl
  have hSilent : commentAbove (some {}) = {} := by decide
  let a : Position := ⟨"a", some {}, .scalar {} .str "[1]", [("", none)]⟩
  let b : Position := ⟨"b", some {}, .scalar {} .str "x`", [("", none)]⟩
  refine ⟨_, hRows, ?_, ?_⟩
  · exact exists_shown_otherwise hRows (p := a) (.tail _ (.head _)) (by decide +kernel) rfl
      (.of_silent rfl hSilent) (by decide +kernel) (by decide)
  · exact exists_shown_otherwise hRows (p := b) (.tail _ (.tail _ (.head _))) (by decide +kernel)
      rfl (.of_silent rfl hSilent) (by decide +kernel) (by decide)

end Row

end ConfigReference
