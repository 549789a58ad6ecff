import ConfigReference.Proofs.Comment.Runs
import ConfigReference.Proofs.Comment.Spans

/-!
# Reading a block

Reading the lines behind the last header one by one gives every field the value that the spans of
the block give it.
-/

set_option autoImplicit false

namespace ConfigReference.Comment

/-! ## Lines behind a header -/

namespace Block

/-- The field that bare lines go to. -/
def target (b : Block) : Field :=
  match b.field with
  | .text => .text
  | .sectionText _ => .sectionText
  | .exampleCode => .exampleCode
  | .exampleText _ => .exampleText

def isRaw (b : Block) : Bool :=
  match b.field with
  | .text => b.rawText
  | .sectionText isRaw => isRaw
  | .exampleCode => true
  | .exampleText isRaw => isRaw

def addAll (b : Block) (texts : List String) : Block :=
  texts.foldl (fun b text => b.addBare text.toList) b

theorem addBare_eq (b : Block) (line : List Char) :
    b.addBare line = { b with
      description :=
        b.target.set (append (b.target.get b.description) line b.isRaw) b.description } := by
  obtain ⟨d, field, rawText⟩ := b
  cases field <;> rfl

theorem addAll_cons (b : Block) (text : String) (texts : List String) :
    b.addAll (text :: texts) = (b.addBare text.toList).addAll texts := rfl

theorem get_addAll (b : Block) (texts : List String) (f : Field) :
    f.get (b.addAll texts).description =
      if f = b.target then join b.isRaw (f.get b.description :: texts) else f.get b.description := by
  rw [← foldl_append_eq_join]
  induction texts generalizing b with
  | nil => simp [addAll]
  | cons text texts ih =>
    have hTarget : (b.addBare text.toList).target = b.target := by
      rw [addBare_eq]
      rfl
    have hRaw : (b.addBare text.toList).isRaw = b.isRaw := by
      rw [addBare_eq]
      rfl
    rw [addAll_cons, List.foldl_cons, ih, hTarget, hRaw, addBare_eq, Field.get_set]
    by_cases hField : f = b.target
    · simp [hField]
    · simp [hField]

theorem rawText_addBare (b : Block) (line : List Char) :
    (b.addBare line).rawText = b.rawText := by
  rw [addBare_eq]

theorem add_of_bare {line text : List Char} (h : Line.read line = .bare text) (b : Block) :
    b.add line = b.addBare text := by
  rw [add, h]

theorem add_of_other {line : List Char} (h : Line.read line = .other) (b : Block) :
    b.add line = b := by
  rw [add, h]

theorem get_addAll_add {line : List Char} (h : (Line.read line).opens?.isSome = true) (b : Block)
    (texts : List String) {f : Field} (hText : f ≠ .text) (hExample : f ≠ .exampleText) :
    f.get ((b.add line).addAll texts).description =
      (f.given? ⟨Line.read line, texts⟩).getD (f.get b.description) := by
  rw [get_addAll, add]
  cases hRead : Line.read line with
  | bare t => simp [hRead, Line.opens?] at h
  | other => simp [hRead, Line.opens?] at h
  | exampleName name t => cases f <;> simp_all [target, isRaw, Field.get, Field.given?, join, joinLines]
  | _ => cases f <;> simp_all [target, isRaw, Field.get, Field.given?]

theorem text_addAll_add {line : List Char} (h : (Line.read line).opens?.isSome = true) (b : Block)
    (texts : List String) :
    ((b.add line).addAll texts).description.text =
      join (b.add line).rawText
        (b.description.text :: Span.textsFor .text ⟨Line.read line, texts⟩) := by
  have hAll := get_addAll (b.add line) texts .text
  rw [Field.get] at hAll
  rw [hAll, add]
  cases hRead : Line.read line with
  | bare t => simp [hRead, Line.opens?] at h
  | other => simp [hRead, Line.opens?] at h
  | _ => simp [target, isRaw, Field.get, Span.textsFor, Span.field, Line.opens?, join_singleton]

theorem rawText_add {line : List Char} (b : Block) :
    (b.add line).rawText = (b.rawText || Line.read line == .raw) := by
  rw [add]
  cases hRead : Line.read line with
  | bare t => simp [addBare_eq]
  | _ => simp

theorem exampleText_addAll_add {line : List Char} (h : (Line.read line).opens?.isSome = true)
    (b : Block) (texts : List String) :
    ((b.add line).addAll texts).description.exampleText =
      (Field.given? .exampleText ⟨Line.read line, texts⟩).getD
        (if b.description.exampleText = "" then
          (Span.offer? ⟨Line.read line, texts⟩).getD ""
        else b.description.exampleText) := by
  have hAll := get_addAll (b.add line) texts .exampleText
  rw [Field.get] at hAll
  rw [hAll, add]
  cases hRead : Line.read line with
  | bare t => simp [hRead, Line.opens?] at h
  | other => simp [hRead, Line.opens?] at h
  | _ => simp [target, isRaw, Field.get, Field.given?, Span.offer?]

theorem labels_add (b : Block) (line : List Char) :
    labels (b.add line).description = labels b.description := by
  rw [add]
  cases hRead : Line.read line with
  | bare t =>
    show labels (b.addBare t).description = _
    rw [addBare_eq, labels_set]
  | _ => rfl

theorem labels_foldl_add (lines : List (List Char)) (b : Block) :
    labels (lines.foldl add b).description = labels b.description := by
  induction lines generalizing b with
  | nil => rfl
  | cons line rest ih => rw [List.foldl_cons, ih, labels_add]

theorem read_cases (line : List Char) :
    (∃ t, Line.read line = .bare t) ∨ Line.read line = .other ∨
      (Line.read line).opens?.isSome = true := by
  cases hRead : Line.read line with
  | bare t => exact .inl ⟨t, rfl⟩
  | other => exact .inr (.inl rfl)
  | _ => exact .inr (.inr rfl)

theorem get_foldl_add {f : Field} (hText : f ≠ .text) (hExample : f ≠ .exampleText)
    (lines : List (List Char)) (b : Block) :
    f.get (lines.foldl add b).description =
      (f.lastGiven? (cut lines).2).getD (f.get (b.addAll (cut lines).1).description) := by
  induction lines generalizing b with
  | nil => rfl
  | cons line rest ih =>
    rw [List.foldl_cons, ih]
    obtain ⟨t, hBare⟩ | hOther | hOpens := read_cases line
    · rw [add_of_bare hBare, cut_of_bare hBare, addAll_cons, String.toList_ofList]
    · rw [add_of_other hOther, cut_of_other hOther]
    · rw [cut_of_opens hOpens, get_addAll_add hOpens b _ hText hExample]
      show _ = (Field.lastGiven? f (_ :: _)).getD (f.get b.description)
      rw [Field.lastGiven?, Field.lastGiven?, List.filterMap_cons]
      cases f.given? ⟨Line.read line, (cut rest).1⟩ with
      | none => rfl
      | some value => rw [List.getLast?_cons]; cases ((cut rest).2.filterMap f.given?).getLast? <;> rfl

/-- Up to the first `@raw` the text is joined by blanks, and by line breaks from there on. -/
theorem text_foldl_add (lines : List (List Char)) (b : Block) :
    (lines.foldl add b).description.text =
      if b.rawText then
        joinLines ((b.addAll (cut lines).1).description.text ::
          (cut lines).2.flatMap (·.textsFor .text))
      else Field.textOf (b.addAll (cut lines).1).description.text [] (cut lines).2 := by
  induction lines generalizing b with
  | nil =>
    have hOnly (isRaw : Bool) : join isRaw [b.description.text] = b.description.text :=
      join_singleton isRaw b.description.text
    have hWords : joinWords [b.description.text] = b.description.text := hOnly false
    have hLines : joinLines [b.description.text] = b.description.text := hOnly true
    simp [cut, addAll, Field.textOf, hWords, hLines]
  | cons line rest ih =>
    rw [List.foldl_cons, ih]
    obtain ⟨t, hBare⟩ | hOther | hOpens := read_cases line
    · rw [add_of_bare hBare, cut_of_bare hBare, addAll_cons, rawText_addBare, String.toList_ofList]
    · rw [add_of_other hOther, cut_of_other hOther]
    · rw [cut_of_opens hOpens, text_addAll_add hOpens, rawText_add]
      show _ = if b.rawText then joinLines (b.description.text :: _) else
        Field.textOf b.description.text [] _
      by_cases hRaw : b.rawText = true
      · rw [hRaw, Bool.true_or, if_pos rfl, if_pos rfl, List.flatMap_cons, join, if_pos rfl,
          joinLines_joinLines]
      · by_cases hLine : Line.read line = .raw
        · have hHere : (b.rawText || Line.read line == .raw) = true := by simp [hLine]
          rw [hHere, if_pos rfl, if_neg hRaw, join, if_pos rfl, joinLines_joinLines,
            Field.textOf_cons_of_raw hLine]
        · have hHere : (b.rawText || Line.read line == .raw) = false := by simp [hRaw, hLine]
          rw [hHere, if_neg Bool.false_ne_true, if_neg hRaw, join, if_neg Bool.false_ne_true,
            Field.textOf_cons_of_ne hLine]

/-- A span that sets the text of the example decides over what was said before; an example's own
line counts only while nothing was said. -/
theorem exampleText_foldl_add (lines : List (List Char)) (b : Block) :
    (lines.foldl add b).description.exampleText =
      if (cut lines).2.any fun s => (Field.given? .exampleText s).isSome then
        Field.exampleTextOf (cut lines).2
      else
        (((b.addAll (cut lines).1).description.exampleText ::
          (cut lines).2.filterMap Field.said?).find? (· ≠ "")).getD "" := by
  induction lines generalizing b with
  | nil => by_cases hEmpty : b.description.exampleText = "" <;> simp [cut, addAll, hEmpty]
  | cons line rest ih =>
    rw [List.foldl_cons, ih]
    obtain ⟨t, hBare⟩ | hOther | hOpens := read_cases line
    · rw [add_of_bare hBare, cut_of_bare hBare, addAll_cons, String.toList_ofList]
    · rw [add_of_other hOther, cut_of_other hOther]
    · rw [cut_of_opens hOpens, exampleText_addAll_add hOpens, Field.exampleTextOf,
        Field.exampleTextOf, fromLast, List.any_cons]
      by_cases hLater : ((cut rest).2.any fun s => (Field.given? .exampleText s).isSome) = true
      · simp [hLater]
      · rw [if_neg hLater, if_neg hLater]
        cases hGiven : Field.given? .exampleText ⟨Line.read line, (cut rest).1⟩ with
        | some value =>
          have hSaid : Field.said? ⟨Line.read line, (cut rest).1⟩ = some value := by
            rw [Field.said?, hGiven, Option.some_or]
          rw [Option.isSome_some, Bool.true_or, if_pos rfl, List.filterMap_cons, hSaid]
          rfl
        | none =>
          rw [Option.isSome_none, Bool.false_or, if_neg hLater]
          show _ = ((b.description.exampleText :: _).find? _).getD ""
          by_cases hEmpty : b.description.exampleText = ""
          · cases hOffer : Span.offer? ⟨Line.read line, (cut rest).1⟩ <;>
              simp [Field.said?, hGiven, hOffer, hEmpty]
          · simp [hEmpty]

theorem get_foldl_add_header {d : Description} (h : ∀ f, f ≠ Field.text → f.get d = "")
    (lines : List (List Char)) (f : Field) :
    f.get (lines.foldl add { description := d }).description =
      f.value d.text (cut lines).1 (cut lines).2 := by
  have hHead := get_addAll { description := d } (cut lines).1
  have hText : ((addAll { description := d } (cut lines).1).description).text =
      joinWords (d.text :: (cut lines).1) := hHead .text
  have hOther (g : Field) (hNe : g ≠ .text) :
      g.get (addAll { description := d } (cut lines).1).description = "" := by
    rw [hHead g, if_neg (by exact hNe), h g hNe]
  by_cases hIsText : f = .text
  · subst hIsText
    show (lines.foldl add { description := d }).description.text = _
    rw [text_foldl_add, if_neg Bool.false_ne_true, hText, Field.textOf_joinWords, List.append_nil]
    rfl
  by_cases hIsExample : f = .exampleText
  · subst hIsExample
    show (lines.foldl add { description := d }).description.exampleText =
      Field.exampleTextOf (cut lines).2
    have hEmpty : (addAll { description := d } (cut lines).1).description.exampleText = "" :=
      hOther .exampleText (by decide)
    rw [exampleText_foldl_add, hEmpty]
    split
    · rfl
    · rename_i hNone
      rw [Field.exampleTextOf, fromLast_of_not_any hNone]
      simp
  · rw [get_foldl_add hIsText hIsExample, hOther f hIsText]
    cases f <;> first | rfl | contradiction

/-- Two blocks are alike but for one field. -/
structure AgreesOutside (f : Field) (b b' : Block) : Prop where
  field : b.field = b'.field
  rawText : b.rawText = b'.rawText
  get : ∀ g, g ≠ f → g.get b.description = g.get b'.description

theorem AgreesOutside.add {f : Field} {b b' : Block} (h : AgreesOutside f b b')
    (line : List Char) : AgreesOutside f (b.add line) (b'.add line) := by
  have hTarget : b.target = b'.target := by rw [target, target, h.field]
  have hRaw : b.isRaw = b'.isRaw := by rw [isRaw, isRaw, h.field, h.rawText]
  obtain ⟨t, hBare⟩ | hOther | hOpens := read_cases line
  · rw [add_of_bare hBare, add_of_bare hBare, addBare_eq, addBare_eq]
    refine ⟨h.field, h.rawText, ?_⟩
    intro g hNe
    rw [Field.get_set, Field.get_set, hTarget, hRaw]
    split
    · rename_i hHere
      rw [← hHere, h.get g hNe]
    · exact h.get g hNe
  · rw [add_of_other hOther, add_of_other hOther]
    exact h
  · refine ⟨?_, ?_, ?_⟩
    · rw [Block.add, Block.add]
      cases hRead : Line.read line with
      | bare t => simp [hRead, Line.opens?] at hOpens
      | other => simp [hRead, Line.opens?] at hOpens
      | _ => rfl
    · rw [rawText_add, rawText_add, h.rawText]
    · intro g hNe
      by_cases hIsText : g = .text
      · subst hIsText
        have hLeft := text_addAll_add hOpens b []
        have hRight := text_addAll_add hOpens b' []
        simp only [Span.textsFor, ite_self, join_singleton] at hLeft hRight
        exact hLeft.trans ((h.get .text hNe).trans hRight.symm)
      by_cases hIsExample : g = .exampleText
      · subst hIsExample
        have hBefore : b.description.exampleText = b'.description.exampleText :=
          h.get .exampleText hNe
        have hLeft := exampleText_addAll_add hOpens b []
        have hRight := exampleText_addAll_add hOpens b' []
        rw [hBefore] at hLeft
        exact hLeft.trans hRight.symm
      · have hLeft := get_addAll_add hOpens b [] hIsText hIsExample
        have hRight := get_addAll_add hOpens b' [] hIsText hIsExample
        rw [h.get g hNe] at hLeft
        exact hLeft.trans hRight.symm

theorem AgreesOutside.foldl {f : Field} {b b' : Block} (h : AgreesOutside f b b')
    (lines : List (List Char)) : AgreesOutside f (lines.foldl Block.add b)
      (lines.foldl Block.add b') := by
  induction lines generalizing b b' with
  | nil => exact h
  | cons line rest ih => exact ih (h.add line)

end Block

/-! ## Blocks with a header -/

theorem get_readHeaderText (s : List Char) {f : Field} (h : f ≠ .text) :
    f.get (readHeaderText s) = "" := by
  cases f <;> first | rfl | contradiction

theorem parse_eq_foldl (above : List (List Char)) {below : List (List Char)}
    {header key text : List Char} (hKey : headerKey? header = some key)
    (hText : readHeader? header = some (key, text))
    (hLast : ∀ line ∈ below, headerKey? line = none) :
    parse (above ++ header :: below) =
      some (String.ofList key,
        (below.foldl Block.add { description := readHeaderText text }).description) := by
  rw [parse, lastHeader?_append (by rw [hKey]; rfl) hLast, Option.bind_eq_bind, Option.bind_some]
  simp [hText]

end ConfigReference.Comment
