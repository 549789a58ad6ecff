import Mathlib.Data.List.DropRight
import ConfigReference.Proofs.Json.Token
import ConfigReference.Proofs.KeyedMap

/-!
# JSON that reads back

Compact and indented text are two layouts of one way to set out a value, which differ in the blanks
between tokens. Whatever these blanks are, the text reads back as the value, as long as the value
nests no deeper than is read, its members are in key order and its numbers are integers of 64 bits.
-/

set_option autoImplicit false

namespace ConfigReference.Json

/-! ## Layouts -/

/-- The blanks of a text: in front of each part and of the closing bracket, by level, and behind a
colon. -/
structure Layout where
  gap : Nat → List Char
  space : List Char
  blank_gap : ∀ level, Blank (gap level)
  blank_space : Blank space

namespace Layout

def compact : Layout where
  gap _ := []
  space := []
  blank_gap _ := List.forall_mem_nil _
  blank_space := List.forall_mem_nil _

theorem blank_indent (level : Nat) : Blank (indent level) := by
  intro c hc
  rcases List.mem_cons.mp hc with rfl | hc
  · rfl
  · rw [List.eq_of_mem_replicate hc]
    rfl

def indented : Layout where
  gap := indent
  space := [' ']
  blank_gap := blank_indent
  blank_space := by simp [Blank, isSpace]

mutual

def text (l : Layout) (level : Nat) : Json → List Char
  | .null => "null".toList
  | .bool b => (if b then "true" else "false").toList
  | .number n => n.render
  | .string s => quote s.toList
  | .array [] => ['[', ']']
  | .array items => '[' :: l.itemsText (level + 1) items ++ l.gap level ++ [']']
  | .object [] => ['{', '}']
  | .object members => '{' :: l.membersText (level + 1) members ++ l.gap level ++ ['}']

def itemsText (l : Layout) (level : Nat) : List Json → List Char
  | [] => []
  | [item] => l.gap level ++ l.text level item
  | item :: rest => l.gap level ++ l.text level item ++ ',' :: l.itemsText level rest

def membersText (l : Layout) (level : Nat) : List (String × Json) → List Char
  | [] => []
  | [(key, value)] => l.gap level ++ quote key.toList ++ ':' :: l.space ++ l.text level value
  | (key, value) :: rest =>
    l.gap level ++ quote key.toList ++ ':' :: l.space ++ l.text level value
      ++ ',' :: l.membersText level rest

end

mutual

theorem text_compact (level : Nat) (j : Json) : compact.text level j = j.renderChars := by
  match j with
  | .null | .bool _ | .number _ | .string _ => rfl
  | .array [] => rfl
  | .array (item :: rest) =>
    rw [text, renderChars, itemsText_compact (level + 1) (item :: rest)]
    · simp [compact]
    · simp
  | .object [] => rfl
  | .object (m :: rest) =>
    rw [text, renderChars, membersText_compact (level + 1) (m :: rest)]
    · simp [compact]
    · simp

theorem itemsText_compact (level : Nat) (items : List Json) :
    compact.itemsText level items = renderItems items := by
  match items with
  | [] => rfl
  | [item] => exact text_compact level item
  | item :: other :: rest =>
    rw [itemsText, renderItems, text_compact level item, itemsText_compact level (other :: rest)]
    · rfl
    · simp
    · simp

theorem membersText_compact (level : Nat) (members : List (String × Json)) :
    compact.membersText level members = renderMembers members := by
  match members with
  | [] => rfl
  | [(key, value)] =>
    rw [membersText, renderMembers, text_compact level value]
    simp [compact]
  | (key, value) :: other :: rest =>
    rw [membersText, renderMembers, text_compact level value,
      membersText_compact level (other :: rest)]
    · simp [compact]
    · simp
    · simp

end

mutual

theorem text_indented (level : Nat) (j : Json) : indented.text level j = j.prettyChars level := by
  match j with
  | .null | .bool _ | .number _ | .string _ => rfl
  | .array [] => rfl
  | .array (item :: rest) =>
    rw [text, prettyChars, itemsText_indented (level + 1) (item :: rest)]
    · rfl
    · simp
    · simp
  | .object [] => rfl
  | .object (m :: rest) =>
    rw [text, prettyChars, membersText_indented (level + 1) (m :: rest)]
    · rfl
    · simp
    · simp

theorem itemsText_indented (level : Nat) (items : List Json) :
    indented.itemsText level items = prettyItems level items := by
  match items with
  | [] => rfl
  | [item] =>
    rw [itemsText, prettyItems, text_indented level item]
    rfl
  | item :: other :: rest =>
    rw [itemsText, prettyItems, text_indented level item, itemsText_indented level (other :: rest)]
    · rfl
    · simp
    · simp

theorem membersText_indented (level : Nat) (members : List (String × Json)) :
    indented.membersText level members = prettyMembers level members := by
  match members with
  | [] => rfl
  | [(key, value)] =>
    rw [membersText, prettyMembers, text_indented level value]
    simp [indented]
  | (key, value) :: other :: rest =>
    rw [membersText, prettyMembers, text_indented level value,
      membersText_indented level (other :: rest)]
    · simp [indented]
    · simp
    · simp

end

end Layout

/-! ## Depth and exactness -/

mutual

/-- How many arrays and objects lie in each other. -/
def nesting : Json → Nat
  | .array items => itemsNesting items + 1
  | .object members => membersNesting members + 1
  | _ => 0

def itemsNesting : List Json → Nat
  | [] => 0
  | item :: rest => max item.nesting (itemsNesting rest)

def membersNesting : List (String × Json) → Nat
  | [] => 0
  | (_, value) :: rest => max value.nesting (membersNesting rest)

end

/-- A value that its text tells exactly: there are no floats in it, its integers are read as
integers, and the members of objects are in key order. -/
inductive IsExact : Json → Prop
  | null : IsExact .null
  | bool (b : Bool) : IsExact (.bool b)
  | int {n : Int} (h : FitsInteger n) : IsExact (.number (.int n))
  | string (s : String) : IsExact (.string s)
  | array {items : List Json} (h : ∀ item ∈ items, IsExact item) : IsExact (.array items)
  | object {members : List (String × Json)} (hKeys : Ascending members)
    (h : ∀ m ∈ members, IsExact m.2) : IsExact (.object members)

theorem sortMembers_of_ascending {members : List (String × Json)} (h : Ascending members) :
    sortMembers members = members := foldl_insertKeyed_of_ascending h

/-! ## Reading -/

theorem endsValue_cons {c : Char} (rest : List Char)
    (h : (isSpace c || c == ',' || c == ']' || c == '}') = true) : EndsValue (c :: rest) := by
  rintro d ⟨⟩
  exact h

theorem endsValue_append {gap : List Char} (hGap : Blank gap) {c : Char} (rest : List Char)
    (h : (isSpace c || c == ',' || c == ']' || c == '}') = true) :
    EndsValue (gap ++ c :: rest) := by
  cases gap with
  | nil => exact endsValue_cons rest h
  | cons d gap => exact endsValue_cons _ (by simp [hGap d List.mem_cons_self])

section

variable {fuel depth : Nat} {s rest : List Char}

theorem readValue_skipSpace (fuel depth : Nat) (s : List Char) :
    readValue fuel depth (skipSpace s) = readValue fuel depth s := by
  cases fuel with
  | zero => rfl
  | succ fuel =>
    have hTwice : skipSpace (skipSpace s) = skipSpace s := List.dropWhile_idempotent isSpace s
    rw [readValue, readValue, hTwice]

theorem readValue_append {gap : List Char} (h : Blank gap) (fuel depth : Nat) (s : List Char) :
    readValue fuel depth (gap ++ s) = readValue fuel depth s := by
  rw [← readValue_skipSpace, skipSpace_append h, readValue_skipSpace]

/-! ### Arrays -/

theorem readValue_bracket (fuel depth : Nat) (s : List Char) :
    readValue fuel depth (']' :: s) = none := by
  cases fuel with
  | zero => rfl
  | succ fuel =>
    rw [readValue, skipSpace_cons rfl]
    rfl

theorem readItems_skipSpace (fuel depth : Nat) (s : List Char) :
    readItems fuel depth (skipSpace s) = readItems fuel depth s := by
  cases fuel with
  | zero => rfl
  | succ fuel => rw [readItems, readItems, readValue_skipSpace]

theorem readItems_last {gap : List Char} (hGap : Blank gap) {item : Json}
    (h : readValue fuel depth s = some (item, gap ++ ']' :: rest)) :
    readItems (fuel + 1) depth s = some ([item], rest) := by
  have hClose : skipSpace (gap ++ ']' :: rest) = ']' :: rest := by
    rw [skipSpace_append hGap, skipSpace_cons rfl]
  simp [readItems, h, hClose]

theorem readItems_next {item : Json} {items : List Json} {behind : List Char}
    (h : readValue fuel depth s = some (item, ',' :: behind))
    (hRest : readItems fuel depth behind = some (items, rest)) :
    readItems (fuel + 1) depth s = some (item :: items, rest) := by
  have hComma : skipSpace (',' :: behind) = ',' :: behind := skipSpace_cons rfl behind
  simp [readItems, h, hComma, hRest]

theorem readValue_array {items : List Json} (hDepth : depth + 1 < maxDepth)
    (h : readItems fuel (depth + 1) s = some (items, rest)) :
    readValue (fuel + 1) depth ('[' :: s) = some (.array items, rest) := by
  rw [← readItems_skipSpace] at h
  rw [readValue, skipSpace_cons rfl]
  simp only [hDepth, if_true]
  split
  · rename_i hClose
    rw [hClose] at h
    cases fuel with
    | zero => cases h
    | succ fuel => simp [readItems, readValue_bracket] at h
  · rw [h]
    rfl

/-! ### Objects -/

theorem readMembers_skipSpace (fuel depth : Nat) (s : List Char) :
    readMembers fuel depth (skipSpace s) = readMembers fuel depth s := by
  cases fuel with
  | zero => rfl
  | succ fuel =>
    have hTwice : skipSpace (skipSpace s) = skipSpace s := List.dropWhile_idempotent isSpace s
    rw [readMembers, readMembers, hTwice]

theorem readMembers_append {gap : List Char} (h : Blank gap) (fuel depth : Nat) (s : List Char) :
    readMembers fuel depth (gap ++ s) = readMembers fuel depth s := by
  rw [← readMembers_skipSpace, skipSpace_append h, readMembers_skipSpace]

theorem readMembers_last {gap : List Char} (hGap : Blank gap) (key : String) {value : Json}
    (h : readValue fuel depth s = some (value, gap ++ '}' :: rest)) :
    readMembers (fuel + 1) depth (quote key.toList ++ ':' :: s) = some ([(key, value)], rest) := by
  have hColon : skipSpace (':' :: s) = ':' :: s := skipSpace_cons rfl s
  have hClose : skipSpace (gap ++ '}' :: rest) = '}' :: rest := by
    rw [skipSpace_append hGap, skipSpace_cons rfl]
  have hKey := readQuoted_quote key (':' :: s) (Nat.le_succ _)
  rw [quote_append, readMembers, skipSpace_cons rfl]
  simp only [hKey, Option.bind_eq_bind, Option.bind_some, hColon, h, hClose]

theorem readMembers_next (key : String) {value : Json} {members : List (String × Json)}
    {behind : List Char} (h : readValue fuel depth s = some (value, ',' :: behind))
    (hRest : readMembers fuel depth behind = some (members, rest)) :
    readMembers (fuel + 1) depth (quote key.toList ++ ':' :: s) =
      some ((key, value) :: members, rest) := by
  have hColon : skipSpace (':' :: s) = ':' :: s := skipSpace_cons rfl s
  have hComma : skipSpace (',' :: behind) = ',' :: behind := skipSpace_cons rfl behind
  have hKey := readQuoted_quote key (':' :: s) (Nat.le_succ _)
  rw [quote_append, readMembers, skipSpace_cons rfl]
  simp only [hKey, Option.bind_eq_bind, Option.bind_some, hColon, h, hComma, hRest]

theorem readValue_object {members : List (String × Json)} (hKeys : Ascending members)
    (hDepth : depth + 1 < maxDepth)
    (h : readMembers fuel (depth + 1) s = some (members, rest)) :
    readValue (fuel + 1) depth ('{' :: s) = some (.object members, rest) := by
  rw [← readMembers_skipSpace] at h
  rw [readValue, skipSpace_cons rfl]
  simp only [hDepth, if_true]
  split
  · rename_i rest hClose
    have hBrace : skipSpace ('}' :: rest) = '}' :: rest := skipSpace_cons rfl rest
    rw [hClose] at h
    cases fuel with
    | zero => cases h
    | succ fuel => simp [readMembers, hBrace] at h
  · rw [h]
    simp [ofMembers, sortMembers_of_ascending hKeys]

/-! ### Numbers -/

theorem readNumber_eq_none {c : Char} (hSign : c ≠ '-') (hDigit : c.isDigit = false)
    (s : List Char) : readNumber (c :: s) = none := by
  simp [readNumber, hSign, Text.isAsciiDigit, hDigit]

theorem readValue_number {n : Number} (h : readNumber s = some (n, rest)) (fuel depth : Nat) :
    readValue (fuel + 1) depth s = some (.number n, rest) := by
  cases s with
  | nil => cases h
  | cons c tail =>
    -- No blank and no other token starts with a sign or a digit.
    have hStart : c = '-' ∨ c.isDigit = true := by
      by_contra hOther
      simp only [not_or, Bool.not_eq_true] at hOther
      rw [readNumber_eq_none hOther.1 hOther.2] at h
      cases h
    have hBlank : isSpace c = false := by
      by_contra hSpace
      simp only [isSpace, Bool.not_eq_false, Bool.or_eq_true, beq_iff_eq] at hSpace
      rcases hSpace with ((rfl | rfl) | rfl) | rfl <;> simp at hStart
    rw [readValue, skipSpace_cons hBlank]
    split
    case h_1 hNil => cases hNil
    case h_8 hCons =>
      cases hCons
      rw [h]
      rfl
    all_goals
      rename_i hCons
      cases hCons
      simp at hStart

/-! ### Values -/

/-- The text of a value in a layout is read as the value, up to what ends it. -/
def ReadsBack (l : Layout) (j : Json) : Prop :=
  ∀ (fuel depth level : Nat) (rest : List Char), (l.text level j).length ≤ fuel →
    depth + j.nesting < maxDepth → EndsValue rest →
    readValue (fuel + 1) depth (l.text level j ++ rest) = some (j, rest)

theorem readItems_itemsText {l : Layout} {items : List Json} (hSome : items ≠ [])
    (hItems : ∀ item ∈ items, ReadsBack l item) {level : Nat}
    (hFuel : (l.itemsText level items).length < fuel)
    (hDepth : depth + itemsNesting items < maxDepth) {gap : List Char} (hGap : Blank gap) :
    readItems (fuel + 1) depth (l.itemsText level items ++ (gap ++ ']' :: rest)) =
      some (items, rest) := by
  induction items generalizing fuel with
  | nil => exact absurd rfl hSome
  | cons item others ih =>
    obtain ⟨fuel, rfl⟩ := Nat.exists_eq_succ_of_ne_zero (Nat.ne_zero_of_lt hFuel)
    obtain ⟨hItem, hOthers⟩ := List.forall_mem_cons.mp hItems
    rw [itemsNesting] at hDepth
    cases others with
    | nil =>
      rw [Layout.itemsText] at hFuel ⊢
      rw [List.length_append] at hFuel
      refine readItems_last hGap ?_
      rw [List.append_assoc, readValue_append (l.blank_gap level)]
      exact hItem _ _ _ _ (by omega) (by omega) (endsValue_append hGap rest rfl)
    | cons other others =>
      have hText : l.itemsText level (item :: other :: others) =
          l.gap level ++ l.text level item ++ ',' :: l.itemsText level (other :: others) := rfl
      rw [hText] at hFuel ⊢
      simp only [List.length_append, List.length_cons] at hFuel
      refine readItems_next ?_ (ih (List.cons_ne_nil _ _) hOthers (by omega) (by omega))
      rw [List.append_assoc, List.append_assoc, readValue_append (l.blank_gap level)]
      exact hItem _ _ _ _ (by omega) (by omega) (endsValue_cons _ rfl)

theorem readMembers_membersText {l : Layout} {members : List (String × Json)}
    (hSome : members ≠ []) (hMembers : ∀ m ∈ members, ReadsBack l m.2) {level : Nat}
    (hFuel : (l.membersText level members).length < fuel)
    (hDepth : depth + membersNesting members < maxDepth) {gap : List Char} (hGap : Blank gap) :
    readMembers (fuel + 1) depth (l.membersText level members ++ (gap ++ '}' :: rest)) =
      some (members, rest) := by
  induction members generalizing fuel with
  | nil => exact absurd rfl hSome
  | cons m others ih =>
    obtain ⟨key, value⟩ := m
    obtain ⟨fuel, rfl⟩ := Nat.exists_eq_succ_of_ne_zero (Nat.ne_zero_of_lt hFuel)
    have hValue : ReadsBack l value := hMembers (key, value) List.mem_cons_self
    have hOthers := (List.forall_mem_cons.mp hMembers).2
    rw [membersNesting] at hDepth
    cases others with
    | nil =>
      rw [Layout.membersText] at hFuel ⊢
      simp only [List.length_append, List.length_cons] at hFuel
      simp only [List.append_assoc, List.cons_append]
      rw [readMembers_append (l.blank_gap level)]
      refine readMembers_last hGap key ?_
      rw [readValue_append l.blank_space]
      exact hValue _ _ _ _ (by omega) (by omega) (endsValue_append hGap rest rfl)
    | cons other others =>
      have hText : l.membersText level ((key, value) :: other :: others) =
          l.gap level ++ quote key.toList ++ ':' :: l.space ++ l.text level value
            ++ ',' :: l.membersText level (other :: others) := rfl
      rw [hText] at hFuel ⊢
      simp only [List.length_append, List.length_cons] at hFuel
      simp only [List.append_assoc, List.cons_append]
      rw [readMembers_append (l.blank_gap level)]
      refine readMembers_next key ?_ (ih (List.cons_ne_nil _ _) hOthers (by omega) (by omega))
      rw [readValue_append l.blank_space]
      exact hValue _ _ _ _ (by omega) (by omega) (endsValue_cons _ rfl)

theorem readsBack_array {l : Layout} {items : List Json} (h : ∀ item ∈ items, ReadsBack l item) :
    ReadsBack l (.array items) := by
  intro fuel depth level rest hFuel hDepth _
  rw [nesting] at hDepth
  cases items with
  | nil =>
    have hLimit : depth + 1 < maxDepth := by omega
    rw [Layout.text, readValue, List.cons_append, skipSpace_cons rfl]
    have hClose : skipSpace (']' :: rest) = ']' :: rest := skipSpace_cons rfl rest
    simp [hLimit, hClose]
  | cons item others =>
    have hText : l.text level (.array (item :: others)) =
        '[' :: l.itemsText (level + 1) (item :: others) ++ l.gap level ++ [']'] := rfl
    rw [hText] at hFuel ⊢
    simp only [List.cons_append, List.append_assoc, List.length_cons, List.length_append,
      List.nil_append] at hFuel ⊢
    obtain ⟨fuel, rfl⟩ := Nat.exists_eq_succ_of_ne_zero (Nat.ne_zero_of_lt hFuel)
    exact readValue_array (by omega) (readItems_itemsText (List.cons_ne_nil _ _) h (by omega)
      (by omega) (l.blank_gap level))

theorem readsBack_object {l : Layout} {members : List (String × Json)} (hKeys : Ascending members)
    (h : ∀ m ∈ members, ReadsBack l m.2) : ReadsBack l (.object members) := by
  intro fuel depth level rest hFuel hDepth _
  rw [nesting] at hDepth
  cases members with
  | nil =>
    have hLimit : depth + 1 < maxDepth := by omega
    rw [Layout.text, readValue, List.cons_append, skipSpace_cons rfl]
    have hClose : skipSpace ('}' :: rest) = '}' :: rest := skipSpace_cons rfl rest
    simp [hLimit, hClose]
  | cons m others =>
    have hText : l.text level (.object (m :: others)) =
        '{' :: l.membersText (level + 1) (m :: others) ++ l.gap level ++ ['}'] := rfl
    rw [hText] at hFuel ⊢
    simp only [List.cons_append, List.append_assoc, List.length_cons, List.length_append,
      List.nil_append] at hFuel ⊢
    obtain ⟨fuel, rfl⟩ := Nat.exists_eq_succ_of_ne_zero (Nat.ne_zero_of_lt hFuel)
    exact readValue_object hKeys (by omega) (readMembers_membersText (List.cons_ne_nil _ _) h
      (by omega) (by omega) (l.blank_gap level))

theorem IsExact.readsBack {j : Json} (h : j.IsExact) (l : Layout) : ReadsBack l j := by
  induction h with
  | null =>
    intro fuel depth level rest _ _ _
    rfl
  | bool b =>
    intro fuel depth level rest _ _ _
    cases b <;> rfl
  | int hFits =>
    intro fuel depth level rest _ _ hRest
    exact readValue_number (readNumber_render hFits hRest) fuel depth
  | string s =>
    intro fuel depth level rest _ _ _
    rw [Layout.text, quote_append, readValue, skipSpace_cons rfl]
    simp only [readQuoted_quote s rest (Nat.le_succ _), Option.map_some]
  | array _ ih => exact readsBack_array ih
  | object hKeys _ ih => exact readsBack_object hKeys ih

theorem parse?_of_readValue {j : Json}
    (h : readValue (2 * s.length + 2) 0 s = some (j, [])) : parse? (.ofList s) = some j := by
  simp only [parse?, String.toList_ofList, h]
  rfl

theorem endsValue_nil : EndsValue [] := by
  rintro c ⟨⟩

theorem IsExact.parse?_text {j : Json} (h : j.IsExact) (hDepth : j.nesting < maxDepth)
    (l : Layout) (level : Nat) : parse? (.ofList (l.text level j)) = some j := by
  apply parse?_of_readValue
  have hFuel : (l.text level j).length ≤ 2 * (l.text level j).length + 1 := by omega
  have hTop : 0 + j.nesting < maxDepth := by omega
  have hRead := h.readsBack l (2 * (l.text level j).length + 1) 0 level [] hFuel hTop endsValue_nil
  rwa [List.append_nil] at hRead

theorem IsExact.parse?_render {j : Json} (h : j.IsExact) (hDepth : j.nesting < maxDepth) :
    parse? j.render = some j := by
  rw [render, ← Layout.text_compact 0]
  exact h.parse?_text hDepth .compact 0

theorem IsExact.parse?_pretty {j : Json} (h : j.IsExact) (hDepth : j.nesting < maxDepth) :
    parse? j.pretty = some j := by
  rw [pretty, ← Layout.text_indented]
  exact h.parse?_text hDepth .indented 0

end

end ConfigReference.Json
