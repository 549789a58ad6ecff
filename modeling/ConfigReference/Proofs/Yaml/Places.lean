import ConfigReference.Proofs.Yaml.Placement

/-!
# Places of a tree

The places of all nodes in a tree, keys and what aliases stand for included. Whatever the builder
does with the places that it gives out, a comment stays with the line that it was found above.
-/

set_option autoImplicit false

namespace ConfigReference.Yaml

namespace Node

mutual

def places : Node → List Place
  | scalar p _ _ => [p]
  | aliasTo p target => p :: target.places
  | sequence p items => p :: itemPlaces items
  | mapping p entries => p :: entryPlaces entries

def itemPlaces : List Node → List Place
  | [] => []
  | item :: rest => item.places ++ itemPlaces rest

def entryPlaces : List (Node × Node) → List Place
  | [] => []
  | (key, value) :: rest => key.places ++ value.places ++ entryPlaces rest

end

variable {p q : Place}

@[simp]
theorem mem_itemPlaces {items : List Node} :
    p ∈ itemPlaces items ↔ ∃ n ∈ items, p ∈ n.places := by
  induction items with
  | nil => simp [itemPlaces]
  | cons item rest ih => simp [itemPlaces, ih]

@[simp]
theorem mem_entryPlaces {entries : List (Node × Node)} :
    p ∈ entryPlaces entries ↔ ∃ e ∈ entries, p ∈ e.1.places ∨ p ∈ e.2.places := by
  induction entries with
  | nil => simp [entryPlaces]
  | cons e rest ih => simp [entryPlaces, ih, or_assoc]

theorem place_mem_places (n : Node) : n.place ∈ n.places := by
  cases n <;> simp [place, places]

theorem mem_places_withPlace {n : Node} (h : p ∈ (n.withPlace q).places) :
    p = q ∨ p ∈ n.places := by
  cases n <;> simp only [withPlace, places, List.mem_cons] at h ⊢ <;> exact h.imp_right .inr

end Node

def Frame.places : Frame → List Place
  | sequence p _ items => p :: Node.itemPlaces items
  | mapping p _ entries pending => p :: Node.entryPlaces entries ++ pending.elim [] Node.places

/-! ## Comments stay with their lines -/

def HasLineComment (lines : List (List Char)) (p : Place) : Prop :=
  p.comment = "" ∨ ∃ column, p.comment = headComment lines p.line column

section

variable {lines : List (List Char)}

theorem HasLineComment.placeAt (lines : List (List Char)) (mark : Mark) :
    HasLineComment lines (placeAt lines mark) := .inr ⟨mark.column + 1, rfl⟩

theorem HasLineComment.withoutComment (lines : List (List Char)) (p : Place) :
    HasLineComment lines { p with comment := "" } := .inl rfl

theorem HasLineComment.adopt {p q : Place} (hp : HasLineComment lines p)
    (hq : HasLineComment lines q) (hLine : p.line = q.line) (column : Nat) :
    HasLineComment lines
      { q with column, comment := if q.comment.isEmpty then p.comment else q.comment } := by
  dsimp only [HasLineComment]
  split
  · rw [← hLine]
    exact hp
  · exact hq

end

namespace Builder

variable {lines : List (List Char)} {b : Builder}

structure Sound (lines : List (List Char)) (b : Builder) : Prop where
  stack : ∀ f ∈ b.stack, ∀ p ∈ f.places, HasLineComment lines p
  anchors : ∀ a ∈ b.anchors, ∀ p ∈ a.2.places, HasLineComment lines p
  root : ∀ n ∈ b.root, ∀ p ∈ n.places, HasLineComment lines p

namespace Sound

theorem push (h : b.Sound lines) {f : Frame} (hFrame : ∀ p ∈ f.places, HasLineComment lines p) :
    Sound lines { b with stack := f :: b.stack } :=
  ⟨List.forall_mem_cons.mpr ⟨hFrame, h.stack⟩, h.anchors, h.root⟩

theorem pop (h : b.Sound lines) {f : Frame} {rest : List Frame} (hStack : b.stack = f :: rest) :
    (∀ p ∈ f.places, HasLineComment lines p) ∧ Sound lines { b with stack := rest } := by
  have hAll := h.stack
  rw [hStack] at hAll
  obtain ⟨hHere, hRest⟩ := List.forall_mem_cons.mp hAll
  exact ⟨hHere, hRest, h.anchors, h.root⟩

theorem complete_none (h : b.Sound lines) {node : Node}
    (hNode : ∀ p ∈ node.places, HasLineComment lines p) : (b.complete node none).Sound lines := by
  unfold Builder.complete
  dsimp only
  split
  · rename_i q a items rest hStack
    obtain ⟨hFrame, hRest⟩ := h.pop hStack
    apply hRest.push
    grind [Frame.places, Node.itemPlaces]
  · rename_i q a entries key rest hStack
    obtain ⟨hFrame, hRest⟩ := h.pop hStack
    apply hRest.push
    grind [Frame.places, Node.entryPlaces]
  · rename_i q a entries rest hStack
    obtain ⟨hFrame, hRest⟩ := h.pop hStack
    apply hRest.push
    grind [Frame.places]
  · refine ⟨h.stack, h.anchors, ?_⟩
    intro n hRoot
    rcases Option.or_eq_some_iff.mp hRoot with hOld | ⟨-, hNew⟩
    · exact h.root n hOld
    · cases hNew
      exact hNode

theorem complete (h : b.Sound lines) {node : Node}
    (hNode : ∀ p ∈ node.places, HasLineComment lines p) (anchor : Option Nat) :
    (b.complete node anchor).Sound lines := by
  cases anchor with
  | none => exact h.complete_none hNode
  | some id =>
    have hAnchored : Sound lines { b with anchors := (id, node) :: b.anchors } :=
      ⟨h.stack, List.forall_mem_cons.mpr ⟨hNode, h.anchors⟩, h.root⟩
    exact hAnchored.complete_none hNode

theorem drop (h : b.Sound lines) : Sound lines { b with stack := b.stack.drop 1 } :=
  ⟨fun f hf => h.stack f (List.mem_of_mem_drop hf), h.anchors, h.root⟩

theorem adoptFirstKey {item : Place} {entries : List (Node × Node)}
    (hItem : HasLineComment lines item)
    (hEntries : ∀ p ∈ Node.entryPlaces entries, HasLineComment lines p) :
    HasLineComment lines (Builder.adoptFirstKey item entries).1 ∧
      ∀ p ∈ Node.entryPlaces (Builder.adoptFirstKey item entries).2, HasLineComment lines p := by
  match entries with
  | [] => exact ⟨hItem, hEntries⟩
  | (key, value) :: rest =>
    rw [Builder.adoptFirstKey]
    split
    · exact ⟨hItem, hEntries⟩
    · rename_i hLine
      have hKey : ∀ p ∈ key.places, HasLineComment lines p := by grind [Node.entryPlaces]
      constructor
      · exact (hKey _ key.place_mem_places).adopt hItem (Decidable.not_not.mp hLine) _
      · intro p hp
        rw [Node.entryPlaces, List.append_assoc, List.mem_append] at hp
        rcases hp with hp | hp
        · rcases Node.mem_places_withPlace hp with rfl | hp
          · exact .withoutComment lines key.place
          · exact hKey p hp
        · apply hEntries
          rw [Node.entryPlaces, List.append_assoc, List.mem_append]
          exact .inr hp

theorem step_sequenceEnd {b' : Builder} {mark : Mark} (h : b.Sound lines)
    (hStep : Builder.step lines b ⟨.sequenceEnd, mark⟩ = .ok b') : b'.Sound lines := by
  dsimp only [Builder.step] at hStep
  split at hStep
  · rename_i p anchor items rest hStack
    cases hStep
    obtain ⟨hFrame, hRest⟩ := h.pop hStack
    apply hRest.complete
    simpa [Frame.places, Node.places] using hFrame
  · cases hStep
    exact h.drop

theorem step_mappingEnd {b' : Builder} {mark : Mark} (h : b.Sound lines)
    (hStep : Builder.step lines b ⟨.mappingEnd, mark⟩ = .ok b') : b'.Sound lines := by
  dsimp only [Builder.step] at hStep
  split at hStep
  · rename_i p anchor entries pending rest hStack
    obtain ⟨hFrame, hRest⟩ := h.pop hStack
    have hItem : HasLineComment lines p := hFrame p (by simp [Frame.places])
    have hEntries : ∀ q ∈ Node.entryPlaces entries.reverse, HasLineComment lines q := by
      intro q hq
      apply hFrame
      simp_all [Frame.places]
    cases hStep
    apply hRest.complete
    split
    · exact List.forall_mem_cons.mpr (adoptFirstKey hItem hEntries)
    · exact List.forall_mem_cons.mpr ⟨hItem, hEntries⟩
  · cases hStep
    exact h.drop

theorem step {b' : Builder} {e : PlacedEvent} (h : b.Sound lines)
    (hStep : Builder.step lines b e = .ok b') : b'.Sound lines := by
  -- places given out before change in two ways: a sequence takes its key's without the comment,
  -- and a mapping that is an item adopts its first key's
  obtain ⟨event, mark⟩ := e
  have hPlace := HasLineComment.placeAt lines mark
  cases event with
  | scalar text style anchor tag =>
    cases hStep
    apply h.complete
    exact List.forall_mem_cons.mpr ⟨hPlace, List.forall_mem_nil _⟩
  | aliasTo id =>
    dsimp only [Builder.step] at hStep
    split at hStep
    · rename_i target hTarget
      cases hStep
      apply h.complete
      refine List.forall_mem_cons.mpr ⟨hPlace, ?_⟩
      obtain ⟨before, after, hAnchors, -⟩ := List.lookup_eq_some_iff.mp hTarget
      exact h.anchors (id, target) (by simp [hAnchors])
    · cases hStep
  | sequenceStart anchor tag =>
    cases hStep
    apply h.push
    refine List.forall_mem_cons.mpr ⟨?_, List.forall_mem_nil _⟩
    split
    · exact .withoutComment lines _
    · exact hPlace
  | sequenceEnd => exact h.step_sequenceEnd hStep
  | mappingStart anchor tag =>
    cases hStep
    apply h.push
    exact List.forall_mem_cons.mpr ⟨hPlace, List.forall_mem_nil _⟩
  | mappingEnd => exact h.step_mappingEnd hStep

theorem run {b' : Builder} {events : List PlacedEvent} (h : b.Sound lines)
    (hRun : events.foldlM (Builder.step lines) b = .ok b') : b'.Sound lines := by
  induction events generalizing b with
  | nil =>
    cases hRun
    exact h
  | cons e rest ih =>
    rw [List.foldlM_cons] at hRun
    cases hStep : Builder.step lines b e with
    | error fault =>
      rw [hStep] at hRun
      cases hRun
    | ok next =>
      rw [hStep] at hRun
      exact ih (h.step hStep) hRun

end Sound

end Builder

/-- Every comment in the tree of a text stands above the line of the place that has it. -/
theorem Node.hasLineComment_of_load {source : String} {root : Node}
    (h : Node.load source = .ok (some root)) {p : Place} (hp : p ∈ root.places) :
    HasLineComment (sourceLines source) p := by
  obtain ⟨b, hRun, hRoot⟩ := Node.ofEvents_ok (Node.load_ok h)
  have hStart : Builder.Sound (sourceLines source) {} := ⟨nofun, nofun, nofun⟩
  exact (hStart.run hRun).root root hRoot p hp

end ConfigReference.Yaml
