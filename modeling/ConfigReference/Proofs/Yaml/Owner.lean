import ConfigReference.Proofs.Yaml.Removal

/-!
# Where comments are looked up

The comment of a key, an item or a value is the block above its line if one of its marks is the
first on that line. A key that hands its comment over has no mark for that, and the mapping that
takes it has two.
-/

set_option autoImplicit false

namespace ConfigReference.Yaml

theorem comment_placeAt (lines : List (List Char)) (mark : Mark) :
    (placeAt lines mark).comment =
      if isFirstOnLine lines mark then
        String.ofList (List.intercalate ['\n'] (commentBlock (lines.take (mark.line - 1))))
      else "" := by
  rw [placeAt, headComment, isFirstOnLine]
  cases lines[mark.line - 1]? with
  | none => rfl
  | some current => rfl

def blockText (lines : List (List Char)) (line : Nat) : String :=
  String.ofList (List.intercalate ['\n'] (commentBlock (lines.take (line - 1))))

/-- What owns the comment block above its line: the mark that it stands at, and those where the
comment is looked up. -/
structure Owner where
  mark : Mark
  marks : List Mark
  onLine : ∀ other ∈ marks, other.line = mark.line

def Owner.place (lines : List (List Char)) (o : Owner) : Place where
  line := o.mark.line
  column := o.mark.column + 1
  comment := if o.marks.any (isFirstOnLine lines) then blockText lines o.mark.line else ""

theorem Owner.any_ignoredAt (lines : List (List Char)) (o : Owner) :
    o.marks.any (ignoredAt lines) =
      (o.marks.any (isFirstOnLine lines) && ignoreAbove lines o.mark.line) := by
  rw [Bool.eq_iff_iff, Bool.and_eq_true, List.any_eq_true, List.any_eq_true]
  constructor
  · rintro ⟨mark, hMark, hIgnored⟩
    obtain ⟨hFirst, hAbove⟩ := Bool.and_eq_true_iff.mp hIgnored
    exact ⟨⟨mark, hMark, hFirst⟩, o.onLine mark hMark ▸ hAbove⟩
  · rintro ⟨⟨mark, hMark, hFirst⟩, hAbove⟩
    exact ⟨mark, hMark, Bool.and_eq_true_iff.mpr ⟨hFirst, (o.onLine mark hMark).symm ▸ hAbove⟩⟩

theorem Node.isIgnored_of_place {lines : List (List Char)} {o : Owner} {n : Node}
    (h : n.place = o.place lines) : n.isIgnored = o.marks.any (ignoredAt lines) := by
  rw [isIgnored, h, o.any_ignoredAt, Owner.place, ignoreAbove, blockText]
  cases o.marks.any (isFirstOnLine lines) with
  | false => rfl
  | true => simp

namespace Outline

/-- A key. If it has handed its comment over, there is no mark to look at. -/
def keyOwner (handed : Bool) (key : Outline) : Owner where
  mark := key.spot.mark
  marks := if handed then [] else [key.spot.mark]
  onLine := by cases handed <;> simp

theorem itemMarks_ne_nil (item : Outline) : itemMarks item ≠ [] := by
  cases item with
  | mapping opening entries close =>
    cases entries with
    | nil => exact List.cons_ne_nil _ _
    | cons entry rest =>
      rw [itemMarks]
      split <;> exact List.cons_ne_nil _ _
  | _ => exact List.cons_ne_nil _ _

/-- An item. It stands at the last of its marks, that of its first key if this hands its comment
over. -/
def itemOwner (item : Outline) : Owner where
  mark := (itemMarks item).getLast item.itemMarks_ne_nil
  marks := itemMarks item
  onLine := by
    cases item with
    | mapping opening entries close =>
      cases entries with
      | nil => simp [itemMarks, spot]
      | cons entry rest =>
        obtain ⟨key, value⟩ := entry
        cases hHands : handsOver opening ((key, value) :: rest) with
        | false => simp [itemMarks, hHands]
        | true =>
          have hLine : key.spot.mark.line = opening.spot.mark.line := by
            simpa [handsOver] using hHands
          simp [itemMarks, hHands, hLine]
    | _ => simp [itemMarks]

/-- A value. Below its key a sequence stands at the key, and has no mark to look at. -/
def valueOwner (key value : Outline) : Owner where
  mark := (valueMarks key value).headD key.spot.mark
  marks := valueMarks key value
  onLine := by
    cases value with
    | sequence opening items close =>
      rw [valueMarks]
      split <;> simp
    | _ => simp [valueMarks]

variable {lines : List (List Char)}

theorem placeAt_eq_place (mark : Mark) :
    placeAt lines mark = Owner.place lines ⟨mark, [mark], by simp⟩ := by
  have hComment := comment_placeAt lines mark
  rw [Owner.place, List.any_cons, List.any_nil, Bool.or_false, blockText, ← hComment]
  rfl

theorem place_of_built_key {key : Outline} {n : Node} (h : key.Built lines .key n)
    (handed : Bool) :
    (if handed then n.withPlace { n.place with comment := "" } else n).place =
      (keyOwner handed key).place lines := by
  cases handed with
  | true =>
    rw [if_pos rfl, Node.place_withPlace, h.place_key]
    rfl
  | false =>
    rw [if_neg Bool.false_ne_true, h.place_key, placeAt_eq_place]
    rfl

/-- What becomes of a mapping that is an item: it takes the comment of a first key on its line,
unless it has one itself, and the key is left without. -/
theorem adoptFirstKey_eq {opening : Opening} {key : Outline} {k : Node} (value : Outline)
    (hKey : key.Built lines .key k) (v : Node) (rest : List (Outline × Outline))
    (more : List (Node × Node)) :
    Builder.adoptFirstKey (placeAt lines opening.spot.mark) ((k, v) :: more) =
      if handsOver opening ((key, value) :: rest) then
        ({ line := opening.spot.mark.line
           column := key.spot.mark.column + 1
           comment :=
            if (placeAt lines opening.spot.mark).comment.isEmpty then
              (placeAt lines key.spot.mark).comment
            else (placeAt lines opening.spot.mark).comment },
          (k.withPlace { placeAt lines key.spot.mark with comment := "" }, v) :: more)
      else (placeAt lines opening.spot.mark, (k, v) :: more) := by
  unfold Builder.adoptFirstKey
  dsimp only
  rw [hKey.place_key]
  by_cases hLine : key.spot.mark.line = opening.spot.mark.line
  · have hHands : handsOver opening ((key, value) :: rest) = true := by simpa [handsOver]
    have hSame : ¬(placeAt lines key.spot.mark).line ≠ (placeAt lines opening.spot.mark).line :=
      not_not_intro hLine
    rw [hHands, if_pos rfl, if_neg hSame]
    rfl
  · have hKeeps : handsOver opening ((key, value) :: rest) = false := by simpa [handsOver]
    have hApart : (placeAt lines key.spot.mark).line ≠ (placeAt lines opening.spot.mark).line :=
      hLine
    rw [hKeeps, if_pos hApart, if_neg Bool.false_ne_true]

theorem comment_of_two_marks {mark other : Mark} (hLine : other.line = mark.line) :
    (if (placeAt lines mark).comment.isEmpty then (placeAt lines other).comment
      else (placeAt lines mark).comment) =
      if [mark, other].any (isFirstOnLine lines) then blockText lines other.line else "" := by
  rw [comment_placeAt, comment_placeAt, hLine, List.any_cons, List.any_cons, List.any_nil,
    Bool.or_false, blockText]
  cases isFirstOnLine lines mark with
  | false => simp
  | true =>
    simp only [Bool.true_or, if_true]
    split
    · rename_i hEmpty
      rw [String.isEmpty_iff.mp hEmpty, ite_self]
    · rfl

theorem place_itemOwner {item : Outline} {mark : Mark} (h : itemMarks item = [mark]) :
    (itemOwner item).place lines = placeAt lines mark := by
  rw [placeAt_eq_place]
  simp [Owner.place, itemOwner, h]

theorem place_of_built_item {item : Outline} {n : Node} (h : item.Built lines .item n) :
    n.place = (itemOwner item).place lines := by
  cases item with
  | scalar spot text style anchor tag =>
    obtain rfl := h
    exact (place_itemOwner rfl).symm
  | aliasTo spot anchor =>
    obtain ⟨target, rfl⟩ := h
    exact (place_itemOwner rfl).symm
  | sequence opening items close =>
    obtain ⟨nodes, rfl, -⟩ := h
    exact (place_itemOwner rfl).symm
  | mapping opening entries close =>
    obtain ⟨nodes, rfl, hEntries⟩ := h
    cases entries with
    | nil =>
      obtain rfl : nodes = [] := hEntries
      exact (place_itemOwner rfl).symm
    | cons entry rest =>
      obtain ⟨key, value⟩ := entry
      obtain ⟨k, v, more, rfl, hKey, -, -⟩ := hEntries
      rw [Slot.mappingNode, adoptFirstKey_eq value hKey v rest more]
      by_cases hHands : handsOver opening ((key, value) :: rest) = true
      · have hLine : key.spot.mark.line = opening.spot.mark.line := by
          simpa [handsOver] using hHands
        have hMarks : itemMarks (.mapping opening ((key, value) :: rest) close) =
            [opening.spot.mark, key.spot.mark] := by rw [itemMarks, if_pos hHands]
        rw [if_pos hHands]
        dsimp only [Node.place]
        rw [comment_of_two_marks hLine]
        simp [Owner.place, itemOwner, hMarks, hLine]
      · rw [if_neg hHands]
        exact (place_itemOwner (by rw [itemMarks, if_neg hHands])).symm

theorem place_valueOwner {key value : Outline} {mark : Mark} (h : valueMarks key value = [mark]) :
    (valueOwner key value).place lines = placeAt lines mark := by
  rw [placeAt_eq_place]
  simp [Owner.place, valueOwner, h]

theorem place_of_built_value {key value : Outline} {n : Node}
    (h : value.Built lines (.value key) n) : n.place = (valueOwner key value).place lines := by
  cases value with
  | scalar spot text style anchor tag =>
    obtain rfl := h
    exact (place_valueOwner rfl).symm
  | aliasTo spot anchor =>
    obtain ⟨target, rfl⟩ := h
    exact (place_valueOwner rfl).symm
  | mapping opening entries close =>
    obtain ⟨nodes, rfl, -⟩ := h
    exact (place_valueOwner rfl).symm
  | sequence opening items close =>
    obtain ⟨nodes, rfl, -⟩ := h
    dsimp only [Node.place]
    rw [Slot.sequencePlace, Slot.keyAbove]
    by_cases hAbove : key.spot.mark.line < opening.spot.mark.line
    · have hMarks : valueMarks key (.sequence opening items close) = [] := by
        rw [valueMarks, if_pos hAbove]
      rw [if_pos hAbove]
      simp [Owner.place, valueOwner, hMarks, placeAt]
    · rw [if_neg hAbove]
      exact (place_valueOwner (by rw [valueMarks, if_neg hAbove])).symm

end Outline

end ConfigReference.Yaml
