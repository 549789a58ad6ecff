import ConfigReference.Proofs.Yaml.Owner

/-!
# What pruning removes

Pruning the tree of a text takes out what the deciding marks of its outline stand for. That is what
starts below a comment block with the word wherever the marks stand for the starts.
-/

set_option autoImplicit false

namespace ConfigReference.Yaml

namespace Outline

variable {lines : List (List Char)}

/-- The nodes of a mapping's entries, the first key being without its comment if it hands that
over. -/
def handOver (handed : Bool) : List (Node × Node) → List (Node × Node)
  | [] => []
  | (k, v) :: rest =>
    if handed then (k.withPlace { k.place with comment := "" }, v) :: rest else (k, v) :: rest

theorem handOver_false (nodes : List (Node × Node)) : handOver false nodes = nodes := by
  cases nodes <;> rfl

theorem exists_mappingNode (opening : Opening) {entries : List (Outline × Outline)}
    {nodes : List (Node × Node)} (h : BuiltEntries lines entries nodes) (slot : Slot) :
    ∃ p, slot.mappingNode (placeAt lines opening.spot.mark) nodes =
      .mapping p (handOver (slot.isItem && handsOver opening entries) nodes) := by
  cases slot with
  | item =>
    cases entries with
    | nil =>
      obtain rfl : nodes = [] := h
      exact ⟨_, rfl⟩
    | cons entry rest =>
      obtain ⟨key, value⟩ := entry
      obtain ⟨k, v, more, rfl, hKey, -, -⟩ := h
      rw [Slot.mappingNode, adoptFirstKey_eq value hKey v rest more, Slot.isItem,
        Bool.true_and, handOver, hKey.place_key]
      by_cases hHands : handsOver opening ((key, value) :: rest) = true
      · rw [if_pos hHands, if_pos hHands]
        exact ⟨_, rfl⟩
      · rw [if_neg hHands, if_neg hHands]
        exact ⟨_, rfl⟩
  | _ => exact ⟨_, congrArg (Node.mapping _) (handOver_false nodes).symm⟩

theorem shape_withPlace (n : Node) (comment : String) :
    (n.withPlace { n.place with comment }).shape = n.shape := by
  cases n <;> rfl

theorem entryShapes_handOver (handed : Bool) (nodes : List (Node × Node)) :
    Node.entryShapes (handOver handed nodes) = Node.entryShapes nodes := by
  cases nodes with
  | nil => rfl
  | cons entry rest =>
    cases handed with
    | false => rfl
    | true =>
      rw [handOver, if_pos rfl, Node.entryShapes, Node.entryShapes, shape_withPlace]

mutual

theorem shape_of_built {slot : Slot} : ∀ {t : Outline} {n : Node}, t.Built lines slot n →
    n.shape = t.shape
  | scalar s text style anchor tag, n, h => by
    obtain rfl := h
    rfl
  | aliasTo s anchor, n, h => by
    obtain ⟨target, rfl⟩ := h
    rfl
  | sequence opening items close, n, h => by
    obtain ⟨nodes, rfl, hItems⟩ := h
    rw [Node.shape, shape, itemShapes_of_built hItems]
  | mapping opening entries close, n, h => by
    obtain ⟨nodes, rfl, hEntries⟩ := h
    obtain ⟨p, hNode⟩ := exists_mappingNode opening hEntries slot
    rw [hNode, Node.shape, shape, entryShapes_handOver, entryShapes_of_built hEntries]

theorem itemShapes_of_built : ∀ {items : List Outline} {nodes : List Node},
    BuiltItems lines items nodes → Node.itemShapes nodes = itemShapes items
  | [], nodes, h => by
    obtain rfl : nodes = [] := h
    rfl
  | item :: rest, nodes, h => by
    obtain ⟨n, more, rfl, hItem, hRest⟩ := h
    rw [Node.itemShapes, itemShapes, shape_of_built hItem, itemShapes_of_built hRest]

theorem entryShapes_of_built : ∀ {entries : List (Outline × Outline)} {nodes : List (Node × Node)},
    BuiltEntries lines entries nodes → Node.entryShapes nodes = entryShapes entries
  | [], nodes, h => by
    obtain rfl : nodes = [] := h
    rfl
  | (key, value) :: rest, nodes, h => by
    obtain ⟨k, v, more, rfl, hKey, hValue, hRest⟩ := h
    rw [Node.entryShapes, entryShapes, shape_of_built hKey, shape_of_built hValue,
      entryShapes_of_built hRest]

end

theorem isIgnored_entry {key value : Outline} {k v : Node} (hKey : key.Built lines .key k)
    (hValue : value.Built lines (.value key) v) (inBlock handed : Bool) :
    ((if handed then k.withPlace { k.place with comment := "" } else k).isIgnored || v.isIgnored) =
      (Removal.byMarks lines).entry inBlock handed key value := by
  rw [Node.isIgnored_of_place (place_of_built_key hKey handed),
    Node.isIgnored_of_place (place_of_built_value hValue)]
  cases handed <;> simp [keyOwner, valueOwner, Removal.byMarks]

mutual

/-- Pruning takes out what the deciding marks stand for. -/
theorem shape_prune {slot : Slot} : ∀ {t : Outline} {n : Node}, t.Built lines slot n →
    n.prune.shape = (t.without (.byMarks lines) slot.isItem).shape
  | scalar s text style anchor tag, n, h => by
    obtain rfl := h
    rfl
  | aliasTo s anchor, n, h => by
    obtain ⟨target, rfl⟩ := h
    rfl
  | sequence opening items close, n, h => by
    obtain ⟨nodes, rfl, hItems⟩ := h
    rw [Node.prune, Node.shape, without, shape, itemShapes_prune hItems]
  | mapping opening entries close, n, h => by
    obtain ⟨nodes, rfl, hEntries⟩ := h
    obtain ⟨p, hNode⟩ := exists_mappingNode opening hEntries slot
    rw [hNode, Node.prune, Node.shape, without, shape,
      entryShapes_prune hEntries opening.spot.inBlock]

theorem itemShapes_prune : ∀ {items : List Outline} {nodes : List Node},
    BuiltItems lines items nodes → ∀ inBlock,
      Node.itemShapes (Node.pruneItems nodes) =
        itemShapes (withoutItems (.byMarks lines) inBlock items)
  | [], nodes, h, inBlock => by
    obtain rfl : nodes = [] := h
    rfl
  | item :: rest, nodes, h, inBlock => by
    obtain ⟨n, more, rfl, hItem, hRest⟩ := h
    have hRestShapes := itemShapes_prune hRest inBlock
    have hDecided : n.isIgnored = (Removal.byMarks lines).item inBlock item :=
      Node.isIgnored_of_place (place_of_built_item hItem)
    rw [Node.pruneItems, withoutItems, hDecided]
    split
    · exact hRestShapes
    · rw [Node.itemShapes, itemShapes, shape_prune hItem, hRestShapes]
      rfl

theorem entryShapes_prune : ∀ {entries : List (Outline × Outline)} {nodes : List (Node × Node)},
    BuiltEntries lines entries nodes → ∀ inBlock handed,
      Node.entryShapes (Node.pruneEntries (handOver handed nodes)) =
        entryShapes (withoutEntries (.byMarks lines) inBlock handed entries)
  | [], nodes, h, inBlock, handed => by
    obtain rfl : nodes = [] := h
    rfl
  | (key, value) :: rest, nodes, h, inBlock, handed => by
    obtain ⟨k, v, more, rfl, hKey, hValue, hRest⟩ := h
    have hRestShapes := entryShapes_prune hRest inBlock false
    rw [handOver_false] at hRestShapes
    have hDecided := isIgnored_entry hKey hValue inBlock handed
    have hSplit : handOver handed ((k, v) :: more) =
        (if handed then k.withPlace { k.place with comment := "" } else k, v) :: more := by
      cases handed <;> rfl
    rw [hSplit, Node.pruneEntries, withoutEntries, hDecided]
    split
    · exact hRestShapes
    · have hKeyShape : (if handed then k.withPlace { k.place with comment := "" } else k).shape =
          key.shape := by
        rw [← shape_of_built hKey]
        cases handed with
        | false => rfl
        | true => exact shape_withPlace k ""
      rw [Node.entryShapes, entryShapes, hKeyShape, shape_prune hValue, hRestShapes]
      rfl

end

mutual

theorem without_congr {r r' : Removal} : ∀ {t : Outline} {isItem : Bool},
    t.Agrees r r' isItem → t.without r isItem = t.without r' isItem
  | scalar .., _, _ => rfl
  | aliasTo .., _, _ => rfl
  | sequence opening items close, isItem, h => by
    rw [without, without, withoutItems_congr h]
  | mapping opening entries close, isItem, h => by
    rw [without, without, withoutEntries_congr h]

theorem withoutItems_congr {r r' : Removal} {inBlock : Bool} : ∀ {items : List Outline},
    AgreesOnItems r r' inBlock items →
      withoutItems r inBlock items = withoutItems r' inBlock items
  | [], _ => rfl
  | item :: rest, ⟨hSame, hInside, hRest⟩ => by
    rw [withoutItems, withoutItems, ← hSame, withoutItems_congr hRest]
    cases hItem : r.item inBlock item with
    | true => rfl
    | false => rw [without_congr (hInside hItem)]

theorem withoutEntries_congr {r r' : Removal} {inBlock : Bool} : ∀ {handed : Bool}
    {entries : List (Outline × Outline)}, AgreesOnEntries r r' inBlock handed entries →
      withoutEntries r inBlock handed entries = withoutEntries r' inBlock handed entries
  | _, [], _ => rfl
  | handed, (key, value) :: rest, ⟨hSame, hInside, hRest⟩ => by
    rw [withoutEntries, withoutEntries, ← hSame, withoutEntries_congr hRest]
    cases hEntry : r.entry inBlock handed key value with
    | true => rfl
    | false => rw [without_congr (hInside hEntry)]

end

theorem any_ignoredAt_of_standsFor {start : Mark} {marks : List Mark}
    (h : standsFor lines start marks = true) :
    marks.any (ignoredAt lines) = ignoreAbove lines start.line := by
  obtain ⟨hSome, hAll⟩ := Bool.and_eq_true_iff.mp h
  obtain ⟨mark, hMem, hMark⟩ := List.any_eq_true.mp hSome
  obtain ⟨hLine, hFirst⟩ := Bool.and_eq_true_iff.mp hMark
  have hSameLine : mark.line = start.line := by simpa using hLine
  rw [Bool.eq_iff_iff]
  constructor
  · intro hAny
    obtain ⟨other, hOther, hIgnored⟩ := List.any_eq_true.mp hAny
    obtain ⟨hOtherFirst, hAbove⟩ := Bool.and_eq_true_iff.mp hIgnored
    have hOtherLine : other.line = start.line := by
      simpa [hOtherFirst] using List.all_eq_true.mp hAll other hOther
    rwa [hOtherLine] at hAbove
  · intro hAbove
    refine List.any_eq_true.mpr ⟨mark, hMem, ?_⟩
    rw [ignoredAt, hFirst, hSameLine, hAbove]
    rfl

theorem item_byMarks_of_standsFor {item : Outline} {inBlock : Bool}
    (h : inBlock = true → standsFor lines item.spot.start (itemMarks item) = true) :
    (Removal.byMarks lines).item inBlock item = (Removal.byStart lines).item inBlock item := by
  cases inBlock with
  | false => rfl
  | true => exact any_ignoredAt_of_standsFor (h rfl)

theorem entry_byMarks_of_standsFor {key value : Outline} {inBlock handed : Bool}
    (hHanded : handed = true → ignoredAt lines key.spot.mark = false)
    (h : inBlock = true →
      standsFor lines key.spot.start (key.spot.mark :: valueMarks key value) = true) :
    (Removal.byMarks lines).entry inBlock handed key value =
      (Removal.byStart lines).entry inBlock handed key value := by
  cases inBlock with
  | false => rfl
  | true =>
    have hAny := any_ignoredAt_of_standsFor (h rfl)
    rw [List.any_cons] at hAny
    -- a handed key does not count, but then it is not below the word either
    show (!handed && _ || _) = ignoreAbove lines key.spot.start.line
    rw [← hAny]
    cases handed with
    | false => rfl
    | true =>
      rw [hHanded rfl]
      rfl

theorem ignoredAt_first_key {opening : Opening} {key value : Outline}
    {rest : List (Outline × Outline)} {close : Spot}
    (h : (itemMarks (mapping opening ((key, value) :: rest) close)).any (ignoredAt lines) = false)
    (hHands : handsOver opening ((key, value) :: rest) = true) :
    ignoredAt lines key.spot.mark = false := by
  rw [itemMarks, if_pos hHands] at h
  simp only [List.any_cons, List.any_nil, Bool.or_false, Bool.or_eq_false_iff] at h
  exact h.2

mutual

theorem agrees_of_wellMarked : ∀ {t : Outline} {isItem : Bool},
    (isItem = true → (itemMarks t).any (ignoredAt lines) = false) → t.WellMarked lines isItem →
      t.Agrees (.byMarks lines) (.byStart lines) isItem
  | scalar .., _, _, _ => trivial
  | aliasTo .., _, _, _ => trivial
  | sequence opening items close, isItem, _, h => agreesOnItems_of_wellMarked h
  | mapping opening entries close, isItem, hStays, h => by
    refine agreesOnEntries_of_wellMarked (fun hHanded key value rest hEntries => ?_) h
    obtain ⟨hItem, hHands⟩ := Bool.and_eq_true_iff.mp hHanded
    subst hEntries
    exact ignoredAt_first_key (hStays hItem) hHands

theorem agreesOnItems_of_wellMarked {inBlock : Bool} : ∀ {items : List Outline},
    WellMarkedItems lines inBlock items →
      AgreesOnItems (.byMarks lines) (.byStart lines) inBlock items
  | [], _ => trivial
  | _ :: _, ⟨hStart, hInside, hRest⟩ =>
    ⟨item_byMarks_of_standsFor hStart,
      fun hStays => agrees_of_wellMarked (fun _ => hStays) (hInside hStays),
      agreesOnItems_of_wellMarked hRest⟩

theorem agreesOnEntries_of_wellMarked {inBlock : Bool} : ∀ {handed : Bool}
    {entries : List (Outline × Outline)},
    (handed = true → ∀ key value rest, entries = (key, value) :: rest →
      ignoredAt lines key.spot.mark = false) → WellMarkedEntries lines inBlock handed entries →
      AgreesOnEntries (.byMarks lines) (.byStart lines) inBlock handed entries
  | _, [], _, _ => trivial
  | _, (key, value) :: rest, hHanded, ⟨hStart, hInside, hRest⟩ =>
    ⟨entry_byMarks_of_standsFor (fun h => hHanded h key value rest rfl) hStart,
      fun hStays => agrees_of_wellMarked nofun (hInside hStays),
      agreesOnEntries_of_wellMarked nofun hRest⟩

end

end Outline

/-- What pruning the tree of a text leaves is its outline without what a deciding mark stands for.
That is the outline without what starts below the word if the two agree on every part that stays,
as they do where all deciding marks stand for the starts. The line of a mark is the line of the text
with its number, counted by line feeds alone. A carriage return that stands alone is counted by marks
and not there. -/
theorem Node.shape_prune_of_load {source : String} {root : Node}
    (h : Node.load source = .ok (some root)) :
    ∃ t : Outline, t.Spells source ∧ (∀ u : Outline, u.Spells source → u = t) ∧
      root.shape = t.shape ∧
      root.prune.shape = (t.without (.byMarks (sourceLines source)) false).shape ∧
      (t.Agrees (.byMarks (sourceLines source)) (.byStart (sourceLines source)) false →
        root.prune.shape = (t.without (.byStart (sourceLines source)) false).shape) ∧
      (t.WellMarked (sourceLines source) false →
        t.Agrees (.byMarks (sourceLines source)) (.byStart (sourceLines source)) false) := by
  obtain ⟨t, hSpells, hBuilt⟩ := Outline.exists_of_load h
  have hPrune : root.prune.shape = (t.without (.byMarks (sourceLines source)) false).shape :=
    Outline.shape_prune hBuilt
  have hOnly (u : Outline) (hOther : u.Spells source) : u = t :=
    Outline.steps_inj (hOther.symm.trans hSpells)
  refine ⟨t, hSpells, hOnly, Outline.shape_of_built hBuilt, hPrune, ?_, ?_⟩
  · intro hAgrees
    rw [hPrune, Outline.without_congr hAgrees]
  · exact Outline.agrees_of_wellMarked nofun

theorem Node.exists_load (source : String) (test : Node → Bool)
    (h : (Node.load source).toOption.join.any test = true) :
    ∃ root, Node.load source = .ok (some root) ∧ test root = true := by
  cases hLoad : Node.load source with
  | error e =>
    rw [hLoad] at h
    cases h
  | ok root? =>
    rw [hLoad] at h
    cases root? with
    | none => cases h
    | some root => exact ⟨root, rfl, h⟩

theorem Node.shape_prune_of_load_ignored_key :
    ∃ root, Node.load "# @ignore\nsecret: 1\nopen: 2\n" = .ok (some root) ∧
      ∃ t : Outline, t.Spells "# @ignore\nsecret: 1\nopen: 2\n" ∧ root.shape = t.shape ∧
        root.prune.shape =
          (t.without (.byMarks (sourceLines "# @ignore\nsecret: 1\nopen: 2\n")) false).shape := by
  obtain ⟨root, hLoad, -⟩ :=
    Node.exists_load "# @ignore\nsecret: 1\nopen: 2\n" (fun _ => true) (by decide +kernel)
  obtain ⟨t, hSpells, -, hShape, hPrune, -⟩ := Node.shape_prune_of_load hLoad
  exact ⟨root, hLoad, t, hSpells, hShape, hPrune⟩

/-- A value that is left out has the mark of what comes next, and its entry goes with the comment
there. -/
theorem Node.omitted_value_goes_with_next_comment :
    ∃ root, Node.load "a:\n# @ignore\nb: 1\n" = .ok (some root) ∧
      (root.get? "a").isSome = true ∧ (root.prune.get? "a").isNone = true ∧
      ∃ t : Outline, t.Spells "a:\n# @ignore\nb: 1\n" ∧
        (t.without (.byStart (sourceLines "a:\n# @ignore\nb: 1\n")) false).shape =
          .mapping [(.scalar 1 1 "a", .scalar 3 1 "~")] := by
  obtain ⟨root, hLoad, hTest⟩ := Node.exists_load "a:\n# @ignore\nb: 1\n"
    (fun root => (root.get? "a").isSome && (root.prune.get? "a").isNone) (by decide +kernel)
  obtain ⟨hSome, hNone⟩ := Bool.and_eq_true_iff.mp hTest
  refine ⟨root, hLoad, hSome, hNone, ?_⟩
  refine ⟨.mapping ⟨⟨⟨1, 1, 1⟩, ⟨1, 1, 1⟩, true⟩, none, none⟩
    [(.scalar ⟨⟨0, 1, 0⟩, ⟨0, 1, 0⟩, true⟩ "a" .plain none none,
      .scalar ⟨⟨1, 1, 1⟩, ⟨13, 3, 0⟩, true⟩ "~" .plain none none),
     (.scalar ⟨⟨13, 3, 0⟩, ⟨13, 3, 0⟩, true⟩ "b" .plain none none,
      .scalar ⟨⟨14, 3, 1⟩, ⟨16, 3, 3⟩, true⟩ "1" .plain none none)]
    ⟨⟨18, 4, 0⟩, ⟨18, 4, 0⟩, false⟩, ?_, ?_⟩
  · rw [Outline.Spells]
    decide +kernel
  · rfl

end ConfigReference.Yaml
