import ConfigReference.Proofs.Row.Coverage
import ConfigReference.Proofs.Yaml.Ownership

/-!
# Comment blocks and rows

A row has the text of the comment block that its key or item owns. So if no two owners of a tree
meet, a block gives its text to one row at most, the rows of what aliases stand for aside.
-/

set_option autoImplicit false

namespace ConfigReference.Row

open Yaml

mutual

def ownPositionsBelow (around : List (String × Option Place)) (key : String) :
    Node → List Position
  | .scalar .. => []
  | .aliasTo .. => []
  | .sequence _ items => ownItemPositions around key 0 items
  | .mapping _ entries => ownEntryPositions around key entries

def ownItemPositions (around : List (String × Option Place)) (key : String) (index : Nat) :
    List Node → List Position
  | [] => []
  | item :: rest =>
    ⟨KeyPath.item key index, some item.place, item, around⟩
      :: ownPositionsBelow ((KeyPath.item key index, some item.place) :: around)
        (KeyPath.item key index) item
      ++ ownItemPositions around key (index + 1) rest

def ownEntryPositions (around : List (String × Option Place)) (key : String) :
    List (Node × Node) → List Position
  | [] => []
  | (k, value) :: rest =>
    ⟨KeyPath.child key k.text, some k.place, value, around⟩
      :: ownPositionsBelow ((KeyPath.child key k.text, some k.place) :: around)
        (KeyPath.child key k.text) value
      ++ ownEntryPositions around key rest

end

/-- The positions of a tree that lie in no alias. -/
def ownPositions (root : Node) : List Position :=
  ⟨"", none, root, []⟩ :: ownPositionsBelow [("", none)] "" root

mutual

theorem ownPositionsBelow_sublist : ∀ (n : Node) (around : List (String × Option Place))
    (key : String), (ownPositionsBelow around key n).Sublist (positionsBelow around key n)
  | .scalar .., _, _ => .slnil
  | .aliasTo .., _, _ => List.nil_sublist _
  | .sequence _ items, around, key => ownItemPositions_sublist items around key 0
  | .mapping _ entries, around, key => ownEntryPositions_sublist entries around key

theorem ownItemPositions_sublist : ∀ (items : List Node) (around : List (String × Option Place))
    (key : String) (index : Nat),
      (ownItemPositions around key index items).Sublist (itemPositions around key index items)
  | [], _, _, _ => .slnil
  | item :: rest, around, key, index =>
    ((ownPositionsBelow_sublist item _ _).cons_cons _).append
      (ownItemPositions_sublist rest around key (index + 1))

theorem ownEntryPositions_sublist : ∀ (entries : List (Node × Node))
    (around : List (String × Option Place)) (key : String),
      (ownEntryPositions around key entries).Sublist (entryPositions around key entries)
  | [], _, _ => .slnil
  | (_, value) :: rest, around, key =>
    ((ownPositionsBelow_sublist value _ _).cons_cons _).append
      (ownEntryPositions_sublist rest around key)

end

mutual

/-- The heads of the positions are owners, in the same order. Those inside keys have no position. -/
theorem heads_sublist_owners : ∀ (n : Node) (around : List (String × Option Place))
    (key : String), ((ownPositionsBelow around key n).filterMap (·.head)).Sublist n.owners
  | .scalar .., _, _ => .slnil
  | .aliasTo .., _, _ => .slnil
  | .sequence _ items, around, key => heads_sublist_itemOwners items around key 0
  | .mapping _ entries, around, key => heads_sublist_entryOwners entries around key

theorem heads_sublist_itemOwners : ∀ (items : List Node)
    (around : List (String × Option Place)) (key : String) (index : Nat),
      ((ownItemPositions around key index items).filterMap (·.head)).Sublist
        (Node.itemOwners items)
  | [], _, _, _ => .slnil
  | item :: rest, around, key, index => by
    rw [ownItemPositions, List.cons_append, List.filterMap_cons, List.filterMap_append,
      Node.itemOwners]
    exact ((heads_sublist_owners item _ _).append
      (heads_sublist_itemOwners rest around key (index + 1))).cons_cons _

theorem heads_sublist_entryOwners : ∀ (entries : List (Node × Node))
    (around : List (String × Option Place)) (key : String),
      ((ownEntryPositions around key entries).filterMap (·.head)).Sublist
        (Node.entryOwners entries)
  | [], _, _ => .slnil
  | (k, value) :: rest, around, key => by
    rw [ownEntryPositions, List.cons_append, List.filterMap_cons, List.filterMap_append,
      Node.entryOwners]
    refine List.Sublist.cons_cons _ (List.Sublist.trans ?_ (List.sublist_append_right _ _))
    exact (heads_sublist_owners value _ _).append (heads_sublist_entryOwners rest around key)

end

/-- Two rows have the text of one block. -/
def SharesText (r s : Row) : Prop := r.line = s.line ∧ r.autoText ≠ "" ∧ s.autoText ≠ ""

theorem Documents.exists_head {ds : Descriptions} {p : Position} {r : Row}
    (h : Documents ds p r) (hText : r.autoText ≠ "") :
    ∃ a, p.head = some a ∧ a.line = r.line ∧ a.comment ≠ "" := by
  rw [h.autoText] at hText
  rw [h.line]
  cases hHead : p.head with
  | none =>
    rw [hHead] at hText
    exact absurd rfl hText
  | some a =>
    rw [hHead] at hText
    refine ⟨a, rfl, rfl, fun hEmpty => hText ?_⟩
    rw [commentAbove, Option.elim_some, hEmpty]
    rfl

theorem exists_sublist_of_forall₂ {α β : Type} {R : α → β → Prop} {as part : List α} {bs : List β}
    (h : List.Forall₂ R as bs) (hPart : part.Sublist as) :
    ∃ others : List β, others.Sublist bs ∧ List.Forall₂ R part others := by
  induction h generalizing part with
  | nil =>
    obtain rfl := List.sublist_nil.mp hPart
    exact ⟨[], .slnil, .nil⟩
  | @cons a b as bs hHere _ ih =>
    cases hPart with
    | cons _ hPart =>
      obtain ⟨others, hOthers, hRel⟩ := ih hPart
      exact ⟨others, hOthers.cons _, hRel⟩
    | cons_cons _ hPart =>
      obtain ⟨others, hOthers, hRel⟩ := ih hPart
      exact ⟨b :: others, hOthers.cons_cons _, .cons hHere hRel⟩

theorem exists_rows_pairwise {root : Node} {ds : Descriptions} {rows : List Row}
    (h : Node.rows (some root) ds = .ok rows)
    (hOwners : root.owners.Pairwise fun a b => ¬SharesBlock a b) :
    ∃ own : List Row, own.Sublist rows ∧
      List.Forall₂ (Documents ds) ((ownPositions root).filter (·.isListed ds)) own ∧
      own.Pairwise fun r s => ¬SharesText r s := by
  have hOwn : (ownPositions root).Sublist (positions root) :=
    (ownPositionsBelow_sublist root _ _).cons_cons _
  obtain ⟨own, hRows, hDocuments⟩ :=
    exists_sublist_of_forall₂ (forall₂_rows h) (hOwn.filter (·.isListed ds))
  have hHeads : ((ownPositions root).filterMap (·.head)).Pairwise fun a b => ¬SharesBlock a b :=
    hOwners.sublist (heads_sublist_owners root _ _)
  have hPositions := (List.pairwise_filterMap.mp hHeads).filter (·.isListed ds)
  refine ⟨own, hRows, hDocuments, pairwise_of_forall₂ ?_ hDocuments hPositions⟩
  rintro p q r s hr hs hApart ⟨hLine, hText, hOther⟩
  obtain ⟨a, ha, haLine, haComment⟩ := hr.exists_head hText
  obtain ⟨b, hb, hbLine, hbComment⟩ := hs.exists_head hOther
  exact hApart a ha b hb ⟨by rw [haLine, hbLine, hLine], haComment, hbComment⟩

/-- The keys and items of a tree share a comment block exactly if a mark of each is the first on the
same line below a comment. So if each stands apart from the others on its line, a block gives its
text to one row at most. The line of a mark is the line of the text with its number, counted by line
feeds alone. A carriage return that stands alone is counted by marks and not there. -/
theorem comment_blocks_shared_where_owners_meet {source : String} {root : Node}
    (h : Node.load source = .ok (some root)) :
    ∃ t : Outline, t.Spells source ∧ (∀ u : Outline, u.Spells source → u = t) ∧
      root.owners = (t.owners false).map (Owner.place (sourceLines source)) ∧
      (∀ o p : Owner, SharesBlock (o.place (sourceLines source)) (p.place (sourceLines source)) ↔
        o.Meets (sourceLines source) p) ∧
      ((t.owners false).Pairwise (Owner.StandsApart (sourceLines source)) →
        root.owners.Pairwise fun a b => ¬SharesBlock a b) ∧
      ((root.owners.Pairwise fun a b => ¬SharesBlock a b) →
        ∀ (ds : Descriptions) (rows : List Row), Node.rows (some root.prune) ds = .ok rows →
          ∃ own : List Row, own.Sublist rows ∧
            List.Forall₂ (Documents ds) ((ownPositions root.prune).filter (·.isListed ds)) own ∧
            own.Pairwise fun r s => ¬SharesText r s) := by
  obtain ⟨t, hSpells, hBuilt⟩ := Outline.exists_of_load h
  have hOwners : root.owners = (t.owners false).map (Owner.place (sourceLines source)) :=
    Outline.owners_of_built hBuilt
  refine ⟨t, hSpells, fun u hOther => Outline.steps_inj (hOther.symm.trans hSpells), hOwners,
    fun o p => Owner.sharesBlock_iff_meets, fun hApart => ?_, fun hOnce ds rows hRows => ?_⟩
  · rw [hOwners, List.pairwise_map]
    exact hApart.imp fun hApart hShared => hApart.not_meets (Owner.sharesBlock_iff_meets.mp hShared)
  · exact exists_rows_pairwise hRows (hOnce.sublist (Node.owners_prune_sublist root))

def bracedOutline : Outline :=
  let at_ (index line column : Nat) : Mark := ⟨index, line, column⟩
  let word (start mark : Mark) (inBlock : Bool) (text : String) : Outline :=
    .scalar ⟨start, mark, inBlock⟩ text .plain none none
  let item : Outline := .mapping ⟨⟨at_ 22 3 4, at_ 22 3 4, false⟩, none, none⟩
    [(word (at_ 23 3 5) (at_ 23 3 5) false "a", word (at_ 24 3 6) (at_ 26 3 8) false "1"),
      (word (at_ 27 3 9) (at_ 29 3 11) false "b", word (at_ 30 3 12) (at_ 32 3 14) false "2")]
    ⟨at_ 33 3 15, at_ 33 3 15, true⟩
  let items : Outline := .sequence ⟨⟨at_ 4 1 4, at_ 20 3 2, true⟩, none, none⟩ [item]
    ⟨at_ 35 4 0, at_ 35 4 0, true⟩
  .mapping ⟨⟨at_ 4 1 4, at_ 4 1 4, true⟩, none, none⟩
    [(word (at_ 0 1 0) (at_ 0 1 0) true "list", items)] ⟨at_ 35 4 0, at_ 35 4 0, false⟩

/-- The item takes the comment over from its first key, and the other key stands behind it. -/
theorem comment_blocks_shared_where_owners_meet_braced :
    let source := "list:\n  # -- text\n  - \x7ba: 1, b: 2\x7d\n"
    ∃ root, Node.load source = .ok (some root) ∧
      root.owners = [⟨1, 1, ""⟩, ⟨3, 6, "# -- text"⟩, ⟨3, 6, ""⟩, ⟨3, 12, ""⟩] ∧
      root.owners.Pairwise (fun a b => ¬SharesBlock a b) := by
  intro source
  obtain ⟨root, hLoad, hOwners⟩ := Node.exists_load source (fun root => decide (root.owners =
    [⟨1, 1, ""⟩, ⟨3, 6, "# -- text"⟩, ⟨3, 6, ""⟩, ⟨3, 12, ""⟩])) (by decide +kernel)
  obtain ⟨t, -, hOnly, -, -, hApart, -⟩ := comment_blocks_shared_where_owners_meet hLoad
  have hSpells : bracedOutline.Spells source := by
    rw [Outline.Spells]
    decide +kernel
  obtain rfl := hOnly bracedOutline hSpells
  exact ⟨root, hLoad, of_decide_eq_true hOwners, hApart (by decide +kernel)⟩

/-- An item that is a list on its line, and the first item of that list, are both the first on the
line. -/
theorem nested_items_share_comment :
    let source := "list:\n  # -- text\n  - - a\n"
    ∃ root, Node.load source = .ok (some root) ∧
      ¬(root.owners.Pairwise fun a b => ¬SharesBlock a b) ∧
      ∃ rows, Node.rows (some root.prune) .empty = .ok rows ∧
        rows.map (fun r => (r.key, r.line, r.autoText)) =
          [("list[0]", 3, "text"), ("list[0][0]", 3, "text")] := by
  intro source
  obtain ⟨root, hLoad, hTest⟩ := Node.exists_load source (fun root =>
    decide (¬(root.owners.Pairwise fun a b => ¬SharesBlock a b)) &&
      ((Node.rows (some root.prune) .empty).toOption.any fun rows =>
        rows.map (fun r => (r.key, r.line, r.autoText)) =
          [("list[0]", 3, "text"), ("list[0][0]", 3, "text")])) (by decide +kernel)
  obtain ⟨hShared, hRows⟩ := Bool.and_eq_true_iff.mp hTest
  refine ⟨root, hLoad, of_decide_eq_true hShared, ?_⟩
  cases hFound : Node.rows (some root.prune) .empty with
  | error e =>
    rw [hFound] at hRows
    cases hRows
  | ok rows =>
    rw [hFound] at hRows
    exact ⟨rows, rfl, of_decide_eq_true hRows⟩

end ConfigReference.Row
