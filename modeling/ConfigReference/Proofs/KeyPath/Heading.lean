import ConfigReference.Proofs.Audit.Agreement
import ConfigReference.Proofs.Comment.Collection
import ConfigReference.Proofs.Comment.Header

/-!
# Headers for key paths

A key path is a text that a header line can have for its key, if its keys have no double quote and
no blank but the space. The header is then read back under just that path, whatever text follows,
and describes the row of the path.
-/

set_option autoImplicit false

namespace ConfigReference

open Text

namespace Comment

theorem isKeyText_of_plain {s : List Char} (h : ∀ c ∈ s, isBlank c = false ∧ c ≠ '"') :
    IsKeyText s := by
  induction s with
  | nil => exact .nil
  | cons c s ih =>
    obtain ⟨⟨hBlank, hQuote⟩, hRest⟩ := List.forall_mem_cons.mp h
    exact .plain hBlank hQuote (ih hRest)

theorem IsKeyText.append {s t : List Char} (hs : IsKeyText s) (ht : IsKeyText t) :
    IsKeyText (s ++ t) := by
  induction hs with
  | nil => exact ht
  | plain hBlank hQuote _ ih => exact .plain hBlank hQuote ih
  | quoted hBody _ ih =>
    rw [List.cons_append, List.append_assoc, List.cons_append]
    exact .quoted hBody ih

def headerLine (key text : List Char) : List Char :=
  '#' :: ' ' :: (key ++ ' ' :: '-' :: '-' :: ' ' :: text)

section

variable {key text : List Char}

/-- A header line is read as it was put together: a longer key would hold the blank behind `key`,
and a shorter one has no dashes behind it. -/
theorem readHeader?_headerLine (hKey : IsKeyText key) (hSome : key ≠ []) (hLine : '\n' ∉ text) :
    readHeader? (headerLine key text) = some (key, trimStart text) := by
  obtain ⟨c, rest, rfl⟩ := List.exists_cons_of_ne_nil hSome
  have hMark : afterMark? (headerLine (c :: rest) text) =
      some (' ' :: (c :: rest ++ ' ' :: '-' :: '-' :: ' ' :: text)) :=
    afterMark?_eq_some.mpr ⟨[], by simp, rfl⟩
  have hSpace : ∀ c ∈ [' '], isBlank c = true := List.forall_mem_singleton.mpr rfl
  have hTrim : trimStart (' ' :: (c :: rest ++ ' ' :: '-' :: '-' :: ' ' :: text)) =
      c :: rest ++ ' ' :: '-' :: '-' :: ' ' :: text := by
    rw [← List.singleton_append, trimStart_append hSpace]
    exact trimStart_cons (hKey.isBlank_head rfl) _
  have hText : trimStart (' ' :: text) = trimStart text := by
    rw [← List.singleton_append]
    exact trimStart_append hSpace text
  have hOneLine : '\n' ∉ trimStart text := fun h => hLine (List.dropWhile_subset _ h)
  have hDashes : afterSpacedDashes? (' ' :: '-' :: '-' :: ' ' :: text) = some (trimStart text) :=
    afterSpacedDashes?_eq_some.mpr
      ⟨⟨[' '], ' ' :: text, by simp, hSpace, rfl, hText.symm⟩, hOneLine⟩
  rw [readHeader?, hMark, Option.bind_eq_bind, Option.bind_some, hTrim,
    splitKey_keyText hKey (by decide)]
  simp only [hDashes]

theorem headerKey?_headerLine (hKey : IsKeyText key) (hSome : key ≠ []) (hAt : key.head? ≠ some '@')
    (hLine : '\n' ∉ text) : headerKey? (headerLine key text) = some key := by
  rw [headerKey?, readHeader?_headerLine hKey hSome hLine]
  exact if_neg hAt

theorem parse_headerLine (hKey : IsKeyText key) (hSome : key ≠ []) (hAt : key.head? ≠ some '@')
    (hLine : '\n' ∉ text) :
    parse [headerLine key text] = some (String.ofList key, readHeaderText (trimStart text)) := by
  have hLast : lastHeader? [headerLine key text] = some (headerLine key text, []) := by
    rw [lastHeader?, lastHeader?, headerKey?_headerLine hKey hSome hAt hLine]
    rfl
  rw [parse, hLast]
  show (readHeader? (headerLine key text)).bind _ = _
  rw [readHeader?_headerLine hKey hSome hLine]
  rfl

theorem collect_headerLine (hKey : IsKeyText key) (hSome : key ≠ []) (hAt : key.head? ≠ some '@')
    (hKeyLine : '\n' ∉ key) (hLine : '\n' ∉ text) :
    Descriptions.collect (.ofList (headerLine key text)) =
      KeyedMap.empty.insert (.ofList key) (readHeaderText (trimStart text)) := by
  have hOneLine : '\n' ∉ headerLine key text := by simp [headerLine, hKeyLine, hLine]
  have hLines : lines (headerLine key text) = [headerLine key text] := by
    rw [lines, List.splitOn_eq_singleton hOneLine]
    rfl
  have hOpens : Descriptions.opensBlock (headerLine key text) = true := by
    simp [Descriptions.opensBlock, headerKey?_headerLine hKey hSome hAt hLine, hSome]
  have hNotEmpty : (String.ofList key).isEmpty = false := by simpa using hSome
  rw [Descriptions.collect, String.toList_ofList, hLines, Descriptions.collectLines, hOpens]
  show Descriptions.record .empty [headerLine key text] = _
  rw [Descriptions.record, parse_headerLine hKey hSome hAt hLine]
  simp [hNotEmpty]

end

end Comment

namespace KeyPath

open Comment

/-- A key without double quotes, and without blanks other than the space. -/
def IsNameable (key : List Char) : Prop := ∀ c ∈ key, c ≠ '"' ∧ (isBlank c = true → c = ' ')

def Step.IsNameable : Step → Prop
  | key text => KeyPath.IsNameable text.toList
  | item _ => True

instance (key : List Char) : Decidable (IsNameable key) :=
  List.decidableBAll (fun c => c ≠ '"' ∧ (isBlank c = true → c = ' ')) key

instance : DecidablePred Step.IsNameable
  | .key text => inferInstanceAs (Decidable (KeyPath.IsNameable text.toList))
  | .item _ => inferInstanceAs (Decidable True)

/-- A text on one line that a header can have for its key. -/
structure IsHeading (s : List Char) : Prop where
  isKey : IsKeyText s
  oneLine : '\n' ∉ s

theorem IsHeading.append {s t : List Char} (hs : IsHeading s) (ht : IsHeading t) :
    IsHeading (s ++ t) :=
  ⟨hs.isKey.append ht.isKey, by simp [hs.oneLine, ht.oneLine]⟩

theorem isHeading_of_plain {s : List Char} (h : ∀ c ∈ s, isBlank c = false ∧ c ≠ '"') :
    IsHeading s := by
  refine ⟨isKeyText_of_plain h, ?_⟩
  intro hLine
  exact absurd (h _ hLine).1 (by decide)

theorem IsNameable.isHeading_quote {key : List Char} (h : IsNameable key) :
    IsHeading (quote key) := by
  rw [quote]
  split
  · have hQuote : '"' ∉ key := fun hMem => (h _ hMem).1 rfl
    have hLine : '\n' ∉ key := fun hMem => absurd ((h _ hMem).2 (by decide)) (by decide)
    exact ⟨.quoted hQuote .nil, by simp [hLine]⟩
  · rename_i hPlain
    refine isHeading_of_plain ?_
    intro c hc
    refine ⟨?_, (h c hc).1⟩
    cases hBlank : isBlank c with
    | false => rfl
    | true =>
      obtain rfl := (h c hc).2 hBlank
      simp [hc] at hPlain

theorem isHeading_natDigits (index : Nat) : IsHeading (natDigits index) := by
  refine isHeading_of_plain ?_
  intro c hc
  have hDigit : c.isDigit = true := Nat.isDigit_of_mem_toDigits (by decide) (by decide) hc
  have hBounds : 48 ≤ c.toNat ∧ c.toNat ≤ 57 := Char.isDigit_iff_toNat.mp hDigit
  constructor
  · simp [isBlank]
    omega
  · rintro rfl
    exact absurd hDigit (by decide)

theorem isHeading_ontoChars {base : List Char} (hBase : IsHeading base) {s : Step}
    (hs : s.IsNameable) : IsHeading (s.ontoChars base) := by
  have hSign (c : Char) (hc : isBlank c = false ∧ c ≠ '"') : IsHeading [c] :=
    isHeading_of_plain (by simpa using hc)
  cases s with
  | key text =>
    rw [Step.ontoChars, childChars]
    split
    · exact IsNameable.isHeading_quote hs
    · exact hBase.append ((hSign '.' (by decide)).append (IsNameable.isHeading_quote hs))
  | item index =>
    have hIndex := ((hSign '[' (by decide)).append (isHeading_natDigits index)).append
      (hSign ']' (by decide))
    simpa [Step.ontoChars, itemChars] using hBase.append hIndex

theorem isHeading_foldl_ontoChars {base : List Char} (hBase : IsHeading base) {steps : List Step}
    (hSteps : ∀ s ∈ steps, s.IsNameable) : IsHeading (steps.foldl Step.ontoChars base) := by
  induction steps generalizing base with
  | nil => exact hBase
  | cons s rest ih =>
    obtain ⟨hs, hRest⟩ := List.forall_mem_cons.mp hSteps
    exact ih (isHeading_ontoChars hBase hs) hRest

theorem isHeading_ofSteps {steps : List Step} (hSteps : ∀ s ∈ steps, s.IsNameable) :
    IsHeading (ofSteps steps).toList := by
  rw [toList_ofSteps]
  exact isHeading_foldl_ontoChars ⟨.nil, by simp⟩ hSteps

end KeyPath

namespace Row

/-- A key that has a row under some descriptions has one under all that describe it, with the text
that is given for it. -/
theorem exists_row_of_described {root : Yaml.Node} {ds given : Descriptions} {rows : List Row}
    (h : Yaml.Node.rows (some root) ds = .ok rows) {r : Row} (hr : r ∈ rows) (hSome : r.key ≠ "")
    {d : Description} (hGiven : given.get? r.key = some d) :
    ∃ others, Yaml.Node.rows (some root) given = .ok others ∧
      ∃ other ∈ others, other.key = r.key ∧ other.text = d.text := by
  obtain ⟨place, entries, hRoot⟩ := resolve_mapping_of_rows h
  obtain ⟨others, hOthers⟩ : ∃ others, Yaml.Node.rows (some root) given = .ok others := by
    rw [Yaml.Node.rows, hRoot]
    exact ⟨_, rfl⟩
  obtain ⟨p, hp, hDoc⟩ := exists_of_forall₂_left (forall₂_rows h).flip hr
  have hKey : p.key = r.key := hDoc.key.symm
  have hListed : p.isListed given = true := by
    simp [Position.isListed, Position.isShown, Position.isDescribed, describedAt, hKey, hGiven,
      hSome]
  obtain ⟨other, hOther, hOtherDoc⟩ := exists_of_forall₂_left (forall₂_rows hOthers)
    (List.mem_filter.mpr ⟨(List.mem_filter.mp hp).1, hListed⟩)
  refine ⟨others, hOthers, other, hOther, hOtherDoc.key.trans hKey, ?_⟩
  rw [hOtherDoc.text, hKey, hGiven]
  rfl

end Row

namespace KeyPath

open Comment

/-- A header with a key path in front of any text on the line has that path for its key, and alone
in a source it describes the path and nothing else. So it gives its text to the row of the path in
every tree that has one. -/
theorem header_describes_key_path {steps : List Step} (hSteps : ∀ s ∈ steps, s.IsNameable)
    (hSome : ofSteps steps ≠ "") (hAt : (ofSteps steps).toList.head? ≠ some '@') {text : List Char}
    (hLine : '\n' ∉ text) :
    let line := headerLine (ofSteps steps).toList text
    headerKey? line = some (ofSteps steps).toList ∧
    (Descriptions.collect (.ofList line)).keys = [ofSteps steps] ∧
    ∀ (root : Yaml.Node) (ds : Descriptions) (rows : List Row),
      Yaml.Node.rows (some root) ds = .ok rows → ∀ r ∈ rows, r.key = ofSteps steps →
        ∃ others, Yaml.Node.rows (some root) (Descriptions.collect (.ofList line)) = .ok others ∧
          ∃ other ∈ others, other.key = r.key ∧
            other.text = (readHeaderText (trimStart text)).text := by
  intro line
  have hHeading := isHeading_ofSteps hSteps
  have hNotNil : (ofSteps steps).toList ≠ [] := by simpa using hSome
  have hCollect : Descriptions.collect (.ofList line) =
      KeyedMap.empty.insert (ofSteps steps) (readHeaderText (trimStart text)) := by
    rw [collect_headerLine hHeading.isKey hNotNil hAt hHeading.oneLine hLine,
      String.ofList_toList]
  refine ⟨headerKey?_headerLine hHeading.isKey hNotNil hAt hLine, ?_, ?_⟩
  · rw [hCollect]
    rfl
  · intro root ds rows hRows r hr hKey
    refine Row.exists_row_of_described hRows hr (hKey ▸ hSome) ?_
    rw [hCollect, hKey, KeyedMap.get?_insert, if_pos rfl]

/-- A path with dashes in a quoted key, in front of a text with a quote and dashes. -/
theorem header_describes_quoted_path :
    let steps := [Step.key "env", .item 0, .key "a -- b.c"]
    let text := "say \"hi -- x".toList
    headerKey? (headerLine (ofSteps steps).toList text) = some "env[0].\"a -- b.c\"".toList ∧
      (Descriptions.collect (.ofList (headerLine (ofSteps steps).toList text))).keys =
        ["env[0].\"a -- b.c\""] := by
  intro steps text
  have hPath : ofSteps steps = "env[0].\"a -- b.c\"" := by decide +kernel
  have hSteps : ∀ s ∈ steps, s.IsNameable := by decide +kernel
  have hLine : '\n' ∉ text := by decide
  obtain ⟨hKey, hKeys, -⟩ := header_describes_key_path hSteps (by rw [hPath]; decide)
    (by rw [hPath]; decide) hLine
  rw [hPath] at hKey hKeys ⊢
  exact ⟨hKey, hKeys⟩

end KeyPath

end ConfigReference
