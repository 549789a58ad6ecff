import ConfigReference.Proofs.Row.Coverage
import ConfigReference.Proofs.Row.Sorting
import ConfigReference.Proofs.Yaml.Composition
import ConfigReference.Proofs.Yaml.Pruning

/-!
# Document order

The events of a document come in the order of their marks, apart from the start of a mapping on the
line of its first key, which is marked behind the key. The rows of the tree that is built of them
stand where the events do, in the same order: a mapping that is an item takes the place of its first
key, and so stands with it and not behind it.
-/

set_option autoImplicit false

namespace ConfigReference

namespace Yaml

def Mark.le (a b : Mark) : Prop := a.line < b.line ∨ (a.line = b.line ∧ a.column ≤ b.column)

instance (a b : Mark) : Decidable (a.le b) := inferInstanceAs (Decidable (_ ∨ _))

theorem Mark.le_refl (a : Mark) : a.le a := Or.inr ⟨rfl, Nat.le_refl _⟩

/-- Whether the events behind the start of a mapping begin with a key on its line. -/
def PlacedEvent.hasKeyOnLine (start : Mark) (rest : List PlacedEvent) : Bool :=
  rest.head?.any fun next => next.event ≠ .mappingEnd && next.mark.line == start.line

/-- The marks of the scalars and of the starts of collections, as they come. The start of a mapping
on the line of its first key is left out. -/
def PlacedEvent.contentMarks : List PlacedEvent → List Mark
  | [] => []
  | e :: rest =>
    match e.event with
    | .scalar .. => e.mark :: contentMarks rest
    | .sequenceStart .. => e.mark :: contentMarks rest
    | .mappingStart .. =>
      if hasKeyOnLine e.mark rest then contentMarks rest else e.mark :: contentMarks rest
    | _ => contentMarks rest

namespace Outline

def isScalar : Outline → Bool
  | scalar .. => true
  | _ => false

mutual

/-- There is no alias in an outline, and its keys are scalars. -/
def IsPlain : Outline → Prop
  | scalar .. => True
  | aliasTo .. => False
  | sequence _ items _ => ItemsArePlain items
  | mapping _ entries _ => EntriesArePlain entries

def ItemsArePlain : List Outline → Prop
  | [] => True
  | item :: rest => item.IsPlain ∧ ItemsArePlain rest

def EntriesArePlain : List (Outline × Outline) → Prop
  | [] => True
  | (key, value) :: rest => key.isScalar = true ∧ value.IsPlain ∧ EntriesArePlain rest

end

mutual

def contentMarks : Outline → List Mark
  | scalar spot .. => [spot.mark]
  | aliasTo .. => []
  | sequence opening items _ => opening.spot.mark :: itemContentMarks items
  | mapping opening entries _ =>
    if handsOver opening entries then entryContentMarks entries
    else opening.spot.mark :: entryContentMarks entries

def itemContentMarks : List Outline → List Mark
  | [] => []
  | item :: rest => item.contentMarks ++ itemContentMarks rest

def entryContentMarks : List (Outline × Outline) → List Mark
  | [] => []
  | (key, value) :: rest => key.spot.mark :: (value.contentMarks ++ entryContentMarks rest)

end

/-! ## Marks of events -/

theorem steps_of_isScalar {key : Outline} (h : key.isScalar = true) :
    ∃ text style anchor tag, key.steps = [⟨key.spot, .scalar text style anchor tag⟩] := by
  cases key with
  | scalar spot text style anchor tag => exact ⟨text, style, anchor, tag, rfl⟩
  | _ => cases h

theorem hasKeyOnLine_entrySteps (opening : Opening) {entries : List (Outline × Outline)}
    (h : EntriesArePlain entries) (close : Mark) (rest : List PlacedEvent) :
    PlacedEvent.hasKeyOnLine opening.spot.mark
        ((entrySteps entries).map Step.placed ++ ⟨.mappingEnd, close⟩ :: rest) =
      handsOver opening entries := by
  match entries with
  | [] => rfl
  | (key, value) :: _ =>
    obtain ⟨text, style, anchor, tag, hKey⟩ := steps_of_isScalar h.1
    rw [entrySteps, hKey]
    simp [PlacedEvent.hasKeyOnLine, Step.placed, handsOver]

mutual

theorem contentMarks_steps : ∀ (t : Outline), t.IsPlain → ∀ rest : List PlacedEvent,
    PlacedEvent.contentMarks (t.steps.map Step.placed ++ rest) =
      t.contentMarks ++ PlacedEvent.contentMarks rest
  | .scalar .., _, _ => rfl
  | .sequence opening items close, hPlain, rest => by
    have hItems := contentMarks_itemSteps items hPlain (⟨.sequenceEnd, close.mark⟩ :: rest)
    rw [steps, contentMarks]
    simpa [Step.placed, PlacedEvent.contentMarks] using hItems
  | .mapping opening entries close, hPlain, rest => by
    have hEntries := contentMarks_entrySteps entries hPlain (⟨.mappingEnd, close.mark⟩ :: rest)
    have hNext := hasKeyOnLine_entrySteps opening hPlain close.mark rest
    have hSteps : (mapping opening entries close).steps.map Step.placed ++ rest =
        ⟨.mappingStart opening.anchor opening.tag, opening.spot.mark⟩ ::
          ((entrySteps entries).map Step.placed ++ ⟨.mappingEnd, close.mark⟩ :: rest) := by
      simp [steps, Step.placed]
    rw [hSteps, contentMarks]
    show (if PlacedEvent.hasKeyOnLine opening.spot.mark _ then PlacedEvent.contentMarks _
      else opening.spot.mark :: PlacedEvent.contentMarks _) = _
    rw [hNext, hEntries]
    split <;> rfl

theorem contentMarks_itemSteps : ∀ (items : List Outline), ItemsArePlain items →
    ∀ rest : List PlacedEvent,
      PlacedEvent.contentMarks ((itemSteps items).map Step.placed ++ rest) =
        itemContentMarks items ++ PlacedEvent.contentMarks rest
  | [], _, _ => rfl
  | item :: others, ⟨hItem, hOthers⟩, rest => by
    rw [itemSteps, List.map_append, List.append_assoc, contentMarks_steps item hItem,
      contentMarks_itemSteps others hOthers, itemContentMarks, List.append_assoc]

theorem contentMarks_entrySteps : ∀ (entries : List (Outline × Outline)),
    EntriesArePlain entries → ∀ rest : List PlacedEvent,
      PlacedEvent.contentMarks ((entrySteps entries).map Step.placed ++ rest) =
        entryContentMarks entries ++ PlacedEvent.contentMarks rest
  | [], _, _ => rfl
  | (key, value) :: others, ⟨hKey, hValue, hOthers⟩, rest => by
    obtain ⟨text, style, anchor, tag, hSteps⟩ := steps_of_isScalar hKey
    have hBelow := contentMarks_steps value hValue
      ((entrySteps others).map Step.placed ++ rest)
    rw [contentMarks_entrySteps others hOthers] at hBelow
    rw [entrySteps, hSteps, entryContentMarks]
    simpa [Step.placed, PlacedEvent.contentMarks] using hBelow

end

/-! ## Building without aliases -/

mutual

theorem not_alias_of_mem_steps : ∀ (t : Outline), t.IsPlain → ∀ s ∈ t.steps, ∀ id,
    s.event ≠ .aliasTo id
  | .scalar .., _ => by simp [steps]
  | .sequence opening items close, hPlain => by
    intro s hs id
    rw [steps, List.mem_cons, List.mem_append, List.mem_singleton] at hs
    rcases hs with rfl | hItem | rfl
    · nofun
    · exact not_alias_of_mem_itemSteps items hPlain s hItem id
    · nofun
  | .mapping opening entries close, hPlain => by
    intro s hs id
    rw [steps, List.mem_cons, List.mem_append, List.mem_singleton] at hs
    rcases hs with rfl | hEntry | rfl
    · nofun
    · exact not_alias_of_mem_entrySteps entries hPlain s hEntry id
    · nofun

theorem not_alias_of_mem_itemSteps : ∀ (items : List Outline), ItemsArePlain items →
    ∀ s ∈ itemSteps items, ∀ id, s.event ≠ .aliasTo id
  | [], _ => nofun
  | item :: others, ⟨hItem, hOthers⟩ => by
    intro s hs id
    rcases List.mem_append.mp hs with hHere | hBehind
    · exact not_alias_of_mem_steps item hItem s hHere id
    · exact not_alias_of_mem_itemSteps others hOthers s hBehind id

theorem not_alias_of_mem_entrySteps : ∀ (entries : List (Outline × Outline)),
    EntriesArePlain entries → ∀ s ∈ entrySteps entries, ∀ id, s.event ≠ .aliasTo id
  | [], _ => nofun
  | (key, value) :: others, ⟨hKey, hValue, hOthers⟩ => by
    intro s hs id
    obtain ⟨text, style, anchor, tag, hSteps⟩ := steps_of_isScalar hKey
    rw [entrySteps, hSteps, List.singleton_append, List.mem_cons, List.mem_append] at hs
    rcases hs with rfl | hHere | hBehind
    · nofun
    · exact not_alias_of_mem_steps value hValue s hHere id
    · exact not_alias_of_mem_entrySteps others hOthers s hBehind id

end

variable {lines : List (List Char)} {events : List PlacedEvent} {t : Outline}

theorem SpellsOut.events_eq (h : t.SpellsOut events) : t.steps.map Step.placed = events := by
  rw [h, List.map_map]
  exact List.map_id events

theorem contentMarks_of_spellsOut (h : t.SpellsOut events) (hPlain : t.IsPlain) :
    PlacedEvent.contentMarks events = t.contentMarks := by
  have hSteps := contentMarks_steps t hPlain []
  rw [List.append_nil, h.events_eq] at hSteps
  rw [hSteps]
  exact List.append_nil _

theorem exists_built_of_isPlain (lines : List (List Char)) (h : t.SpellsOut events)
    (hPlain : t.IsPlain) :
    ∃ root, Node.ofEvents lines events = .ok (some root) ∧ t.Built lines .root root := by
  cases hRun : events.foldlM (Builder.step lines) {} with
  | error fault =>
    obtain ⟨before, e, after, b, hEvents, -, hFault⟩ := exists_of_foldlM_eq_error hRun
    obtain ⟨id, mark, rfl, -⟩ := Builder.step_eq_error hFault
    have hMem : PlacedEvent.step ⟨.aliasTo id, mark⟩ ∈ t.steps := by
      rw [h, hEvents]
      simp
    exact absurd rfl (not_alias_of_mem_steps t hPlain _ hMem id)
  | ok b =>
    have hBuilt : Draft.Built lines { root := some t } b :=
      Draft.Built.run (b := {}) ⟨.nil, .none⟩ (Draft.run_steps t []) (by rwa [h.events_eq])
    obtain ⟨root, hFinal, hNode⟩ := exists_of_rel_some hBuilt.root
    rw [Node.ofEvents, hRun]
    exact ⟨root, congrArg Except.ok hFinal, hNode⟩

end Outline

/-! ## Places of nodes -/

/-- A place is that of a mark, columns being counted from one. -/
def Place.IsAt (p : Place) (mark : Mark) : Prop :=
  p.line = mark.line ∧ p.column = mark.column + 1

def Place.le (p q : Place) : Prop := p.line < q.line ∨ (p.line = q.line ∧ p.column ≤ q.column)

theorem Place.IsAt.le {p q : Place} {a b : Mark} (hp : p.IsAt a) (hq : q.IsAt b) (h : a.le b) :
    p.le q := by
  obtain ⟨hpLine, hpColumn⟩ := hp
  obtain ⟨hqLine, hqColumn⟩ := hq
  unfold Mark.le at h
  unfold Place.le
  omega

namespace Outline

variable {lines : List (List Char)}

def PlacedEntries (lines : List (List Char)) :
    List (Outline × Outline) → List (Node × Node) → Prop
  | [], nodes => nodes = []
  | (key, value) :: rest, nodes =>
    ∃ k v more, nodes = (k, v) :: more ∧ k.place.IsAt key.spot.mark ∧
      Built lines (.value key) value v ∧ PlacedEntries lines rest more

theorem BuiltEntries.placed {entries : List (Outline × Outline)} {nodes : List (Node × Node)}
    (h : BuiltEntries lines entries nodes) : PlacedEntries lines entries nodes := by
  induction entries generalizing nodes with
  | nil => exact h
  | cons entry entries ih =>
    obtain ⟨k, v, rest, rfl, hKey, hValue, hRest⟩ := h
    exact ⟨k, v, rest, rfl, by rw [hKey.place_key]; exact ⟨rfl, rfl⟩, hValue, ih hRest⟩

theorem PlacedEntries.adoptFirstKey {entries : List (Outline × Outline)}
    {nodes : List (Node × Node)} (h : PlacedEntries lines entries nodes) (item : Place) :
    PlacedEntries lines entries (Builder.adoptFirstKey item nodes).2 := by
  cases entries with
  | nil =>
    obtain rfl : nodes = [] := h
    rfl
  | cons entry entries =>
    obtain ⟨k, v, rest, rfl, hKey, hValue, hRest⟩ := h
    rw [Builder.adoptFirstKey]
    dsimp only
    split
    · exact ⟨k, v, rest, rfl, hKey, hValue, hRest⟩
    · refine ⟨_, v, rest, rfl, ?_, hValue, hRest⟩
      rw [Node.place_withPlace]
      exact hKey

theorem Built.exists_placedEntries {slot : Slot} {opening : Opening}
    {entries : List (Outline × Outline)} {close : Spot} {n : Node}
    (h : Built lines slot (.mapping opening entries close) n) :
    ∃ p nodes, n = .mapping p nodes ∧ PlacedEntries lines entries nodes := by
  obtain ⟨nodes, rfl, hEntries⟩ := h
  cases slot with
  | item => exact ⟨_, _, rfl, hEntries.placed.adoptFirstKey _⟩
  | _ => exact ⟨_, nodes, rfl, hEntries.placed⟩

theorem Built.place_item {item : Outline} {n : Node} (hPlain : item.IsPlain)
    (h : Built lines .item item n) :
    ∃ mark rest, item.contentMarks = mark :: rest ∧ n.place.IsAt mark := by
  cases item with
  | scalar spot text style anchor tag =>
    obtain rfl := h
    exact ⟨spot.mark, [], rfl, rfl, rfl⟩
  | aliasTo spot anchor => exact hPlain.elim
  | sequence opening items close =>
    obtain ⟨nodes, rfl, -⟩ := h
    exact ⟨opening.spot.mark, _, rfl, rfl, rfl⟩
  | mapping opening entries close =>
    obtain ⟨nodes, rfl, hEntries⟩ := h
    match entries with
    | [] =>
      obtain rfl : nodes = [] := hEntries
      exact ⟨opening.spot.mark, [], rfl, rfl, rfl⟩
    | (key, value) :: rest =>
      obtain ⟨k, v, more, rfl, hKey, -, -⟩ := hEntries
      rw [Slot.mappingNode, adoptFirstKey_eq value hKey v rest more, contentMarks]
      cases hHands : handsOver opening ((key, value) :: rest) with
      | false => exact ⟨opening.spot.mark, _, rfl, rfl, rfl⟩
      | true =>
        have hLine : key.spot.mark.line = opening.spot.mark.line := by
          simpa [handsOver] using hHands
        exact ⟨key.spot.mark, _, rfl, hLine.symm, rfl⟩

end Outline

end Yaml

namespace Row

open Yaml Yaml.Outline

def Position.place (p : Position) : Place := p.head.getD {}

/-- Positions that stand at marks, in the order of their places. -/
structure InOrder (marks : List Mark) (ps : List Position) : Prop where
  among : ∀ p ∈ ps, ∃ mark ∈ marks, p.place.IsAt mark
  order : ps.Pairwise fun p q => p.place.le q.place

namespace InOrder

variable {marks others : List Mark} {ps qs : List Position}

theorem nil (marks : List Mark) : InOrder marks [] := ⟨nofun, .nil⟩

theorem mono (h : InOrder marks ps) (hMarks : ∀ mark ∈ marks, mark ∈ others) :
    InOrder others ps :=
  ⟨fun p hp => (h.among p hp).imp fun _ hAt => ⟨hMarks _ hAt.1, hAt.2⟩, h.order⟩

theorem append (h : InOrder marks ps) (hOthers : InOrder others qs)
    (hSorted : (marks ++ others).Pairwise Mark.le) : InOrder (marks ++ others) (ps ++ qs) where
  among := List.forall_mem_append.mpr
    ⟨(h.mono fun _ => List.mem_append_left _).among,
      (hOthers.mono fun _ => List.mem_append_right _).among⟩
  order := by
    refine List.pairwise_append.mpr ⟨h.order, hOthers.order, ?_⟩
    intro p hp q hq
    obtain ⟨a, ha, hpAt⟩ := h.among p hp
    obtain ⟨b, hb, hqAt⟩ := hOthers.among q hq
    exact hpAt.le hqAt ((List.pairwise_append.mp hSorted).2.2 a ha b hb)

theorem cons {mark : Mark} (h : InOrder (mark :: marks) ps) {p : Position}
    (hp : p.place.IsAt mark) (hSorted : (mark :: marks).Pairwise Mark.le) :
    InOrder (mark :: marks) (p :: ps) where
  among := List.forall_mem_cons.mpr ⟨⟨mark, List.mem_cons_self, hp⟩, h.among⟩
  order := by
    refine List.pairwise_cons.mpr ⟨?_, h.order⟩
    intro q hq
    obtain ⟨other, hOther, hqAt⟩ := h.among q hq
    rcases List.mem_cons.mp hOther with rfl | hOther
    · exact hp.le hqAt (Mark.le_refl _)
    · exact hp.le hqAt ((List.pairwise_cons.mp hSorted).1 other hOther)

end InOrder

variable {lines : List (List Char)}

mutual

theorem inOrder_positionsBelow : ∀ (t : Outline) {slot : Slot} {n : Node}, t.IsPlain →
    t.contentMarks.Pairwise Mark.le → t.Built lines slot n →
    ∀ around key, InOrder t.contentMarks (positionsBelow around key n)
  | .scalar .., _, _, _, _, rfl, _, _ => .nil _
  | .sequence opening items close, _, _, hPlain, hSorted, ⟨nodes, rfl, hItems⟩, around, key =>
    (inOrder_itemPositions items hPlain (List.pairwise_cons.mp hSorted).2 hItems around key 0).mono
      fun _ => List.mem_cons_of_mem _
  | .mapping opening entries close, _, _, hPlain, hSorted, hBuilt, around, key => by
    obtain ⟨p, nodes, rfl, hEntries⟩ := hBuilt.exists_placedEntries
    rw [contentMarks] at hSorted ⊢
    split
    · rename_i hHands
      rw [if_pos hHands] at hSorted
      exact inOrder_entryPositions entries hPlain hSorted hEntries around key
    · rename_i hHands
      rw [if_neg hHands] at hSorted
      exact (inOrder_entryPositions entries hPlain (List.pairwise_cons.mp hSorted).2 hEntries
        around key).mono fun _ => List.mem_cons_of_mem _

theorem inOrder_itemPositions : ∀ (items : List Outline) {nodes : List Node},
    ItemsArePlain items → (itemContentMarks items).Pairwise Mark.le →
    BuiltItems lines items nodes → ∀ around key index,
      InOrder (itemContentMarks items) (itemPositions around key index nodes)
  | [], _, _, _, rfl, _, _, _ => .nil _
  | item :: rest, _, ⟨hItem, hRest⟩, hSorted, ⟨n, more, rfl, hNode, hMore⟩, around, key, index => by
    obtain ⟨hHere, hBehind, -⟩ := List.pairwise_append.mp hSorted
    obtain ⟨mark, marks, hMarks, hAt⟩ := hNode.place_item hItem
    have hBelow := inOrder_positionsBelow item hItem hHere hNode
      ((KeyPath.item key index, some n.place) :: around) (KeyPath.item key index)
    rw [hMarks] at hHere hBelow
    have hFirst := hBelow.cons (p := ⟨KeyPath.item key index, some n.place, n, around⟩) hAt hHere
    rw [← hMarks] at hFirst
    exact hFirst.append (inOrder_itemPositions rest hRest hBehind hMore around key (index + 1))
      hSorted

theorem inOrder_entryPositions : ∀ (entries : List (Outline × Outline))
    {nodes : List (Node × Node)}, EntriesArePlain entries →
    (entryContentMarks entries).Pairwise Mark.le → PlacedEntries lines entries nodes →
    ∀ around key, InOrder (entryContentMarks entries) (entryPositions around key nodes)
  | [], _, _, _, rfl, _, _ => .nil _
  | (k, value) :: rest, _, ⟨_, hValue, hRest⟩, hSorted, ⟨kNode, v, more, rfl, hAt, hNode, hMore⟩,
      around, key => by
    obtain ⟨hFirst, hBoth⟩ := List.pairwise_cons.mp hSorted
    obtain ⟨hHere, hBehind, -⟩ := List.pairwise_append.mp hBoth
    have hBelow := inOrder_positionsBelow value hValue hHere hNode
      ((KeyPath.child key kNode.text, some kNode.place) :: around) (KeyPath.child key kNode.text)
    have hOthers := inOrder_entryPositions rest hRest hBehind hMore around key
    exact ((hBelow.append hOthers hBoth).mono fun _ => List.mem_cons_of_mem _).cons
      (p := ⟨KeyPath.child key kNode.text, some kNode.place, v, around⟩) hAt hSorted

end

/-! ## Rows -/

variable {events : List PlacedEvent} {t : Outline}

theorem pairwise_place_positions {root : Node} (hPlain : t.IsPlain)
    (hMarks : t.contentMarks.Pairwise Mark.le) (hBuilt : t.Built lines .root root) :
    (positions root).Pairwise fun p q => p.place.le q.place := by
  refine List.pairwise_cons.mpr ⟨fun p _ => ?_, ?_⟩
  · show Place.le {} p.place
    unfold Place.le
    dsimp only
    omega
  · exact (inOrder_positionsBelow t hPlain hMarks hBuilt [("", none)] "").order

theorem Documents.byPlace_le {ds : Descriptions} {p q : Position} {a b : Row}
    (ha : Documents ds p a) (hb : Documents ds q b) (h : p.place.le q.place) :
    RowOrder.byPlace.le a b = true := by
  have hAt {r : Row} {p : Position} (hr : Documents ds p r) :
      r.line = p.place.line ∧ r.column = p.place.column := by
    rw [hr.line, hr.column, Position.place]
    cases p.head <;> exact ⟨rfl, rfl⟩
  unfold Place.le at h
  simpa [RowOrder.le, hAt ha, hAt hb] using h

/-- The rows of events without aliases, whose keys are scalars and which come in the order of their
marks, come in the order of their places. So sorting them by place leaves them as they are. -/
theorem rows_in_document_order (lines : List (List Char)) (hSpells : t.SpellsOut events)
    (hPlain : t.IsPlain) (hMarks : (PlacedEvent.contentMarks events).Pairwise Mark.le) :
    ∃ root, Node.ofEvents lines events = .ok (some root) ∧
      ∀ (ds : Descriptions) (rows : List Row), Node.rows (some root) ds = .ok rows →
        (rows.Pairwise fun a b => RowOrder.byPlace.le a b = true) ∧ sort .byPlace rows = rows := by
  obtain ⟨root, hRoot, hBuilt⟩ := exists_built_of_isPlain lines hSpells hPlain
  refine ⟨root, hRoot, fun ds rows hRows => ?_⟩
  rw [contentMarks_of_spellsOut hSpells hPlain] at hMarks
  have hListed := (pairwise_place_positions hPlain hMarks hBuilt).filter (·.isListed ds)
  have hOrder : rows.Pairwise fun a b => RowOrder.byPlace.le a b = true := by
    refine pairwise_of_forall₂ ?_ (forall₂_rows hRows) hListed
    intro p q a b ha hb h
    exact ha.byPlace_le hb h
  exact ⟨hOrder, sort_of_ascending hOrder⟩

/-- A list below a key, whose item has two keys, the second of them with a list on its line. Both
mappings are marked behind their first keys. -/
def nestedOutline : Outline :=
  let at_ (index line column : Nat) : Spot := ⟨⟨index, line, column⟩, ⟨index, line, column⟩, false⟩
  let word (spot : Spot) (text : String) : Outline := .scalar spot text .plain none none
  let words : Outline := .sequence ⟨at_ 19 3 7, none, none⟩ [word (at_ 20 3 8) "x"] (at_ 21 3 9)
  let item : Outline := .mapping ⟨at_ 8 2 5, none, none⟩
    [(word (at_ 7 2 4) "a", word (at_ 10 2 7) "y"), (word (at_ 16 3 4) "b", words)] (at_ 23 4 0)
  let items : Outline := .sequence ⟨at_ 5 2 2, none, none⟩ [item] (at_ 23 4 0)
  .mapping ⟨at_ 1 1 1, none, none⟩ [(word (at_ 0 1 0) "l", items)] (at_ 23 4 0)

def nestedEvents : List PlacedEvent := nestedOutline.steps.map Step.placed

def nestedRoot : Node :=
  let word (line column : Nat) (text : String) : Node := .scalar ⟨line, column, ""⟩ .str text
  let item : Node := .mapping ⟨2, 5, ""⟩
    [(word 2 5 "a", word 2 8 "y"),
      (word 3 5 "b", .sequence ⟨3, 8, ""⟩ [word 3 9 "x"])]
  .mapping ⟨1, 2, ""⟩ [(word 1 1 "l", .sequence ⟨1, 1, ""⟩ [item])]

theorem rows_in_document_order_of_nested :
    nestedOutline.SpellsOut nestedEvents ∧ nestedOutline.IsPlain ∧
    (PlacedEvent.contentMarks nestedEvents).Pairwise Mark.le ∧
    Node.ofEvents [] nestedEvents = .ok (some nestedRoot) ∧
    ∃ rows, Node.rows (some nestedRoot) .empty = .ok rows ∧
      rows.map (fun r => (r.key, r.line, r.column)) =
        [("l[0].a", 2, 5), ("l[0].b[0]", 3, 9)] ∧ sort .byPlace rows = rows := by
  have hSpells : nestedOutline.SpellsOut nestedEvents := rfl
  have hMarks : (PlacedEvent.contentMarks nestedEvents).Pairwise Mark.le := by decide
  have hPlain : nestedOutline.IsPlain := by
    simp [nestedOutline, IsPlain, ItemsArePlain, EntriesArePlain, isScalar]
  have hBuilt : Node.ofEvents [] nestedEvents = .ok (some nestedRoot) := rfl
  obtain ⟨root, hRoot, hSorted⟩ := rows_in_document_order [] hSpells hPlain hMarks
  rw [hBuilt] at hRoot
  obtain rfl : nestedRoot = root := Option.some.inj (Except.ok.inj hRoot)
  have hRows : Node.rows (some nestedRoot) .empty =
      .ok (flatten .empty {} "" none true nestedRoot).1 := rfl
  exact ⟨hSpells, hPlain, hMarks, hBuilt, _, hRows, by decide +kernel, (hSorted .empty _ hRows).2⟩

end Row

end ConfigReference
