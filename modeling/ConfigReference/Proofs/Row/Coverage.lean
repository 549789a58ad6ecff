import Mathlib.Data.List.Forall2
import ConfigReference.Row

/-!
# Coverage of a tree by its rows

The positions of a tree in document order, each with the containers around it, and which of them get
a row: those with a description, and those without parts that nothing around them describes. The
rows with a key are these positions, one row each.
-/

set_option autoImplicit false

namespace ConfigReference.Row

/-- A value of a tree at its key path. `head` is the place of its key or, for an item, its own;
`around` are the containers that it lies in, innermost first, each by key and head. -/
structure Position where
  key : String
  head : Option Yaml.Place
  value : Yaml.Node
  around : List (String × Option Yaml.Place)

def commentAbove (head : Option Yaml.Place) : Description :=
  head.elim {} fun p => .ofComment p.comment

/-- Whether a description is given for a key, or a text by the comment above it. -/
def describedAt (ds : Descriptions) (key : String) (head : Option Yaml.Place) : Bool :=
  (ds.get? key).isSome || !(commentAbove head).text.isEmpty

namespace Position

def isDescribed (ds : Descriptions) (p : Position) : Bool := describedAt ds p.key p.head

def isEmptyContainer (p : Position) : Bool :=
  match p.value.resolve with
  | .sequence _ items => items.isEmpty
  | .mapping _ entries => entries.isEmpty
  | _ => false

def isLeaf (p : Position) : Bool := p.value.scalarTag?.isSome || p.isEmptyContainer

def isFree (ds : Descriptions) (p : Position) : Bool :=
  p.around.all fun a => !describedAt ds a.1 a.2

def isShown (ds : Descriptions) (p : Position) : Bool :=
  p.isDescribed ds || (p.isLeaf && p.isFree ds)

end Position

mutual

/-- The positions inside a value at `key`, in document order. -/
def positionsBelow (around : List (String × Option Yaml.Place)) (key : String) :
    Yaml.Node → List Position
  | .scalar .. => []
  | .aliasTo _ target => positionsBelow around key target
  | .sequence _ items => itemPositions around key 0 items
  | .mapping _ entries => entryPositions around key entries

def itemPositions (around : List (String × Option Yaml.Place)) (key : String) (index : Nat) :
    List Yaml.Node → List Position
  | [] => []
  | item :: rest =>
    ⟨KeyPath.item key index, some item.place, item, around⟩
      :: positionsBelow ((KeyPath.item key index, some item.place) :: around)
        (KeyPath.item key index) item
      ++ itemPositions around key (index + 1) rest

def entryPositions (around : List (String × Option Yaml.Place)) (key : String) :
    List (Yaml.Node × Yaml.Node) → List Position
  | [] => []
  | (k, value) :: rest =>
    ⟨KeyPath.child key k.text, some k.place, value, around⟩
      :: positionsBelow ((KeyPath.child key k.text, some k.place) :: around)
        (KeyPath.child key k.text) value
      ++ entryPositions around key rest

end

def Position.all (p : Position) : List Position :=
  p :: positionsBelow ((p.key, p.head) :: p.around) p.key p.value

/-- The positions of a whole tree. The root has the empty key. -/
def positions (root : Yaml.Node) : List Position := Position.all ⟨"", none, root, []⟩

/-- A row is about a position: it has its key and the place of its head, and the descriptions given
for it. -/
structure Documents (ds : Descriptions) (p : Position) (r : Row) : Prop where
  key : r.key = p.key
  line : r.line = p.head.elim 0 (·.line)
  column : r.column = p.head.elim 0 (·.column)
  text : r.text = ((ds.get? p.key).getD {}).text
  autoText : r.autoText = (commentAbove p.head).text

/-- Whether a position has a row. Only an empty container with an empty key is shown without. -/
def Position.isListed (ds : Descriptions) (p : Position) : Bool :=
  p.isShown ds && !(p.key.isEmpty && p.isEmptyContainer)

/-- What the row of a position shows: the data of the value, or of a scalar or of a container with
parts what its notation asks for. -/
def Position.shown (ds : Descriptions) (p : Position) : Shown :=
  match p.value.resolve with
  | .scalar place tag text =>
    shownScalar (.scalar place tag text) tag (said ds p.key p.head)
  | value =>
    if p.isEmptyContainer then .data value.toJson
    else shownContainer value (said ds p.key p.head)

def Position.row (ds : Descriptions) (s : InForce) (p : Position) : Row :=
  (Row.ofValue s p.key p.head p.value.resolve (said ds p.key p.head) (p.shown ds)
    p.isEmptyContainer).1

def IsRowOf (ds : Descriptions) (p : Position) (r : Row) : Prop := ∃ s : InForce, r = p.row ds s

theorem isDescribed_said (ds : Descriptions) (key : String) (head : Option Yaml.Place) :
    (said ds key head).isDescribed = describedAt ds key head := rfl

theorem IsRowOf.documents {ds : Descriptions} {p : Position} {r : Row} (h : IsRowOf ds p r) :
    Documents ds p r := by
  obtain ⟨s, rfl⟩ := h
  exact ⟨rfl, rfl, rfl, rfl, rfl⟩

theorem IsRowOf.aliasTo {ds : Descriptions} {key : String} {head : Option Yaml.Place}
    {target : Yaml.Node} {around : List (String × Option Yaml.Place)} {r : Row}
    (h : IsRowOf ds ⟨key, head, target, around⟩ r) (place : Yaml.Place) :
    IsRowOf ds ⟨key, head, .aliasTo place target, around⟩ r := h

theorem forall₂_ite {R : Position → Row → Prop} {p : Position} {r : Row} (h : R p r) (c : Bool) :
    List.Forall₂ R (if c then [p] else []) (if c then [r] else []) := by
  cases c with
  | true => exact .cons h .nil
  | false => exact .nil

theorem Position.isListed_of_empty (ds : Descriptions) {p : Position}
    (h : p.isEmptyContainer = true) :
    p.isListed ds = ((p.isDescribed ds || p.isFree ds) && !p.key.isEmpty) := by
  simp [isListed, isShown, isLeaf, h]

theorem Position.isListed_of_parts (ds : Descriptions) {p : Position}
    (hScalar : p.value.scalarTag? = none) (h : p.isEmptyContainer = false) :
    p.isListed ds = p.isDescribed ds := by
  simp [isListed, isShown, isLeaf, h, hScalar]

theorem Position.isListed_of_scalar (ds : Descriptions) {p : Position}
    (hScalar : p.value.scalarTag?.isSome = true) (h : p.isEmptyContainer = false) :
    p.isListed ds = (p.isDescribed ds || p.isFree ds) := by
  simp [isListed, isShown, isLeaf, h, hScalar]

section

variable {ds : Descriptions} {p : Position} {leaves : Bool} {R : Position → Row → Prop}

theorem forall₂_ofScalar (s : InForce) (tag : Yaml.ScalarTag) (hLeaves : leaves = p.isFree ds)
    (hRow : R p (Row.ofValue s p.key p.head p.value (said ds p.key p.head)
      (shownScalar p.value tag (said ds p.key p.head)) false).1) :
    List.Forall₂ R (if p.isDescribed ds || p.isFree ds then [p] else [])
      (ofScalar ds s p.key p.head leaves p.value tag).1 := by
  have hRows : (ofScalar ds s p.key p.head leaves p.value tag).1 =
      if p.isDescribed ds || p.isFree ds then
        [(Row.ofValue s p.key p.head p.value (said ds p.key p.head)
          (shownScalar p.value tag (said ds p.key p.head)) false).1]
      else [] := by
    rw [ofScalar, isDescribed_said, hLeaves, Bool.or_comm, ← Position.isDescribed]
    cases p.isDescribed ds || p.isFree ds <;> rfl
  rw [hRows]
  exact forall₂_ite hRow _

theorem forall₂_ofEmpty (s : InForce) (json : Json) (hLeaves : leaves = p.isFree ds)
    (hRow : R p (Row.ofValue s p.key p.head p.value (said ds p.key p.head) (.data json) true).1) :
    List.Forall₂ R
      (if (p.isDescribed ds || p.isFree ds) && !p.key.isEmpty then [p] else [])
      (ofEmpty ds s p.key p.head leaves p.value json).1 := by
  have hRows : (ofEmpty ds s p.key p.head leaves p.value json).1 =
      if (p.isDescribed ds || p.isFree ds) && !p.key.isEmpty then
        [(Row.ofValue s p.key p.head p.value (said ds p.key p.head) (.data json) true).1]
      else [] := by
    rw [ofEmpty, isDescribed_said, hLeaves, Bool.or_comm (p.isFree ds), ← Position.isDescribed]
    cases p.isDescribed ds || p.isFree ds <;> cases p.key.isEmpty <;> rfl
  rw [hRows]
  exact forall₂_ite hRow _

theorem rows_ofContainer (s : InForce) :
    (ofContainer ds s p.key p.head p.value).1 =
      if p.isDescribed ds then
        [(Row.ofValue s p.key p.head p.value (said ds p.key p.head)
          (shownContainer p.value (said ds p.key p.head)) false).1]
      else [] := by
  rw [ofContainer, isDescribed_said, ← Position.isDescribed]
  cases p.isDescribed ds <;> rfl

theorem forall₂_ofContainer (s : InForce)
    (hRow : R p (Row.ofValue s p.key p.head p.value (said ds p.key p.head)
      (shownContainer p.value (said ds p.key p.head)) false).1) :
    List.Forall₂ R (if p.isDescribed ds then [p] else [])
      (ofContainer ds s p.key p.head p.value).1 := by
  rw [rows_ofContainer]
  exact forall₂_ite hRow _

theorem isEmpty_ofContainer (s : InForce) (hLeaves : leaves = p.isFree ds) :
    (leaves && (ofContainer ds s p.key p.head p.value).1.isEmpty) =
      (((p.key, p.head) :: p.around).all fun a => !describedAt ds a.1 a.2) := by
  rw [rows_ofContainer, hLeaves, List.all_cons, ← Position.isFree, ← Position.isDescribed,
    Bool.and_comm]
  cases p.isDescribed ds <;> rfl

end

theorem filter_all (ds : Descriptions) (p : Position) :
    p.all.filter (·.isListed ds) =
      (if p.isListed ds then [p] else []) ++
        (positionsBelow ((p.key, p.head) :: p.around) p.key p.value).filter (·.isListed ds) := by
  rw [Position.all, List.filter_cons]
  split <;> rfl

mutual

theorem forall₂_flatten (ds : Descriptions) (s : InForce) (leaves : Bool)
    (key : String) (head : Option Yaml.Place) (around : List (String × Option Yaml.Place))
    (value : Yaml.Node) (hLeaves : leaves = around.all fun a => !describedAt ds a.1 a.2) :
    List.Forall₂ (IsRowOf ds)
      ((Position.all ⟨key, head, value, around⟩).filter (·.isListed ds))
      (flatten ds s key head leaves value).1 := by
  match value with
  | .aliasTo p target =>
    have h := forall₂_flatten ds s leaves key head around target hLeaves
    have hListed : Position.isListed ds ⟨key, head, .aliasTo p target, around⟩ =
        Position.isListed ds ⟨key, head, target, around⟩ := rfl
    rw [filter_all] at h ⊢
    rw [flatten, hListed]
    split
    · rename_i hShown
      rw [if_pos hShown] at h
      obtain ⟨r, rows, hHere, hBelow, hRows⟩ := List.forall₂_cons_left_iff.mp h
      rw [hRows]
      exact .cons (hHere.aliasTo p) hBelow
    · rename_i hShown
      rw [if_neg hShown] at h
      exact h
  | .scalar p tag text =>
    rw [flatten, filter_all, Position.isListed_of_scalar ds rfl rfl, positionsBelow,
      List.filter_nil, List.append_nil]
    exact forall₂_ofScalar (p := ⟨key, head, .scalar p tag text, around⟩) s tag hLeaves
      ⟨s, rfl⟩
  | .sequence p [] =>
    rw [flatten, filter_all, Position.isListed_of_empty ds rfl, positionsBelow, itemPositions,
      List.filter_nil, List.append_nil]
    exact forall₂_ofEmpty (p := ⟨key, head, .sequence p [], around⟩) s (.array []) hLeaves
      ⟨s, rfl⟩
  | .sequence p (item :: rest) =>
    rw [flatten, filter_all, Position.isListed_of_parts ds rfl rfl, positionsBelow]
    exact List.rel_append
      (forall₂_ofContainer (p := ⟨key, head, .sequence p (item :: rest), around⟩) s ⟨s, rfl⟩)
      (forall₂_flattenItems ds _ _ key _ 0 (item :: rest)
        (isEmpty_ofContainer (p := ⟨key, head, .sequence p (item :: rest), around⟩) s hLeaves))
  | .mapping p [] =>
    rw [flatten, filter_all, Position.isListed_of_empty ds rfl, positionsBelow, entryPositions,
      List.filter_nil, List.append_nil]
    exact forall₂_ofEmpty (p := ⟨key, head, .mapping p [], around⟩) s (.object []) hLeaves
      ⟨s, rfl⟩
  | .mapping p (entry :: rest) =>
    rw [flatten, filter_all, Position.isListed_of_parts ds rfl rfl, positionsBelow]
    exact List.rel_append
      (forall₂_ofContainer (p := ⟨key, head, .mapping p (entry :: rest), around⟩) s ⟨s, rfl⟩)
      (forall₂_flattenEntries ds _ _ key _ (entry :: rest)
        (isEmpty_ofContainer (p := ⟨key, head, .mapping p (entry :: rest), around⟩) s hLeaves))

theorem forall₂_flattenItems (ds : Descriptions) (s : InForce) (leaves : Bool)
    (key : String) (around : List (String × Option Yaml.Place)) (index : Nat)
    (items : List Yaml.Node) (hLeaves : leaves = around.all fun a => !describedAt ds a.1 a.2) :
    List.Forall₂ (IsRowOf ds) ((itemPositions around key index items).filter (·.isListed ds))
      (flattenItems ds s key leaves index items).1 := by
  match items with
  | [] => exact .nil
  | item :: rest =>
    rw [flattenItems, itemPositions, List.filter_append]
    exact List.rel_append (forall₂_flatten ds s leaves _ _ around item hLeaves)
      (forall₂_flattenItems ds _ leaves key around (index + 1) rest hLeaves)

theorem forall₂_flattenEntries (ds : Descriptions) (s : InForce) (leaves : Bool)
    (key : String) (around : List (String × Option Yaml.Place))
    (entries : List (Yaml.Node × Yaml.Node))
    (hLeaves : leaves = around.all fun a => !describedAt ds a.1 a.2) :
    List.Forall₂ (IsRowOf ds) ((entryPositions around key entries).filter (·.isListed ds))
      (flattenEntries ds s key leaves entries).1 := by
  match entries with
  | [] => exact .nil
  | (k, value) :: rest =>
    rw [flattenEntries, entryPositions, List.filter_append]
    exact List.rel_append (forall₂_flatten ds s leaves _ _ around value hLeaves)
      (forall₂_flattenEntries ds _ leaves key around rest hLeaves)

end

theorem flatten_resolve (ds : Descriptions) (s : InForce) (key : String)
    (head : Option Yaml.Place) (leaves : Bool) (value : Yaml.Node) :
    flatten ds s key head leaves value.resolve = flatten ds s key head leaves value := by
  fun_induction Yaml.Node.resolve value with
  | case1 p target ih => rw [ih, flatten]
  | case2 n hNoAlias => rfl

theorem rows_eq_flatten {root : Yaml.Node} {ds : Descriptions} {rows : List Row}
    (h : Yaml.Node.rows (some root) ds = .ok rows) :
    rows = (flatten ds {} "" none true root).1 := by
  rw [Yaml.Node.rows] at h
  rw [← flatten_resolve]
  split at h
  · rename_i p entries hRoot
    rw [hRoot]
    exact (Except.ok.inj h).symm
  · cases h

theorem forall₂_isRowOf_rows {root : Yaml.Node} {ds : Descriptions} {rows : List Row}
    (h : Yaml.Node.rows (some root) ds = .ok rows) :
    List.Forall₂ (IsRowOf ds) ((positions root).filter (·.isListed ds)) rows := by
  rw [rows_eq_flatten h]
  exact forall₂_flatten ds {} true "" none [] root rfl

theorem forall₂_rows {root : Yaml.Node} {ds : Descriptions} {rows : List Row}
    (h : Yaml.Node.rows (some root) ds = .ok rows) :
    List.Forall₂ (Documents ds) ((positions root).filter (·.isListed ds)) rows :=
  (forall₂_isRowOf_rows h).imp fun _ _ => IsRowOf.documents

theorem exists_of_forall₂_left {α β : Type} {R : α → β → Prop} {as : List α} {bs : List β}
    (h : List.Forall₂ R as bs) {a : α} (ha : a ∈ as) : ∃ b ∈ bs, R a b := by
  induction h with
  | nil => cases ha
  | @cons a' b as bs hHere _ ih =>
    rcases List.mem_cons.mp ha with rfl | ha
    · exact ⟨b, List.mem_cons_self, hHere⟩
    · obtain ⟨c, hc, hRel⟩ := ih ha
      exact ⟨c, List.mem_cons_of_mem _ hc, hRel⟩

theorem pairwise_of_forall₂ {α β : Type} {R : α → β → Prop} {before : α → α → Prop}
    {after : β → β → Prop}
    (hStep : ∀ a a' b b', R a b → R a' b' → before a a' → after b b')
    {as : List α} {bs : List β} (h : List.Forall₂ R as bs) (hOrder : as.Pairwise before) :
    bs.Pairwise after := by
  induction h with
  | nil => exact .nil
  | @cons a b as bs hHere hRest ih =>
    obtain ⟨hFirst, hBehind⟩ := List.pairwise_cons.mp hOrder
    refine List.pairwise_cons.mpr ⟨fun b' hb' => ?_, ih hBehind⟩
    obtain ⟨a', ha', hRel⟩ := exists_of_forall₂_left hRest.flip hb'
    exact hStep a a' b b' hHere hRel (hFirst a' ha')

/-- The rows with a key are the positions with a key that are described, or that have no parts and
lie in nothing described: in document order, one row for each. So every description given for the
key of a position is the text of a row with that key. -/
theorem rows_cover_positions {root : Yaml.Node} {ds : Descriptions} {rows : List Row}
    (h : Yaml.Node.rows (some root) ds = .ok rows) :
    List.Forall₂ (Documents ds)
      ((positions root).filter fun p => !p.key.isEmpty && p.isShown ds)
      (rows.filter fun r => !r.key.isEmpty) ∧
    ∀ key d, ds.get? key = some d → key ≠ "" → (∃ p ∈ positions root, p.key = key) →
      ∃ r ∈ rows, r.key = key ∧ r.text = d.text := by
  have hKeyed : List.Forall₂ (Documents ds)
      ((positions root).filter fun p => !p.key.isEmpty && p.isShown ds)
      (rows.filter fun r => !r.key.isEmpty) := by
    have hKeys : ∀ p : Position, (!p.key.isEmpty && p.isShown ds) =
        (!p.key.isEmpty && p.isListed ds) := by
      intro p
      rw [Position.isListed]
      cases p.key.isEmpty <;> simp
    simp only [hKeys]
    rw [← List.filter_filter]
    refine List.rel_filter ?_ (forall₂_rows h)
    intro p r hDoc
    change (!p.key.isEmpty) = true ↔ (!r.key.isEmpty) = true
    rw [hDoc.key]
  refine ⟨hKeyed, ?_⟩
  rintro key d hGiven hKey ⟨p, hp, rfl⟩
  have hShown : p.isShown ds = true := by
    simp [Position.isShown, Position.isDescribed, describedAt, hGiven]
  obtain ⟨r, hr, hDoc⟩ := exists_of_forall₂_left hKeyed
    (List.mem_filter.mpr ⟨hp, by simp [hKey, hShown]⟩)
  refine ⟨r, (List.mem_filter.mp hr).1, hDoc.key, ?_⟩
  rw [hDoc.text, hGiven]
  rfl

/-- Under the described `a` the value of `b` has no row, and beside it that of `c` has one. -/
theorem rows_cover_described_mapping :
    let leaf (key : String) : Yaml.Node × Yaml.Node := (.scalar {} .str key, .scalar {} .null "")
    let root : Yaml.Node := .mapping {} [(.scalar {} .str "a", .mapping {} [leaf "b"]), leaf "c"]
    let ds : Descriptions := KeyedMap.empty.insert "a" { text := "all of it" }
    ∃ rows, Yaml.Node.rows (some root) ds = .ok rows ∧ rows.map (·.key) = ["a", "c"] ∧
      List.Forall₂ (Documents ds)
        ((positions root).filter fun p => !p.key.isEmpty && p.isShown ds)
        (rows.filter fun r => !r.key.isEmpty) ∧
      ∃ r ∈ rows, r.key = "a" ∧ r.text = "all of it" := by
  intro leaf root ds
  refine ⟨_, rfl, by decide +kernel, ?_⟩
  obtain ⟨hCover, hGiven⟩ := @rows_cover_positions root ds _ rfl
  exact ⟨hCover, hGiven "a" { text := "all of it" } (by decide +kernel) (by decide)
    ⟨⟨"a", _, _, _⟩, List.mem_cons_of_mem _ List.mem_cons_self, rfl⟩⟩

end ConfigReference.Row
