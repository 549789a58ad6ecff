import ConfigReference.Proofs.Yaml.LineChange

/-!
# Owners of comment blocks

Keys and items own the comment block above the line that they start. The comment is looked up at
the mark of an event, or at two marks for a mapping that is an item, and a key that hands its
comment over has none to look at. Two owners have one block exactly if they meet: a mark of each is
on the same line, with nothing but blanks and dashes in front of it.
-/

set_option autoImplicit false

namespace ConfigReference.Yaml

namespace Node

mutual

/-- The places of the keys and items of a tree, in document order. What an alias stands for is left
out. -/
def owners : Node → List Place
  | scalar .. => []
  | aliasTo .. => []
  | sequence _ items => itemOwners items
  | mapping _ entries => entryOwners entries

def itemOwners : List Node → List Place
  | [] => []
  | item :: rest => item.place :: (item.owners ++ itemOwners rest)

def entryOwners : List (Node × Node) → List Place
  | [] => []
  | (key, value) :: rest => key.place :: (key.owners ++ (value.owners ++ entryOwners rest))

end

theorem owners_withPlace (n : Node) (p : Place) : (n.withPlace p).owners = n.owners := by
  cases n <;> rfl

mutual

theorem owners_prune_sublist : ∀ n : Node, n.prune.owners.Sublist n.owners
  | scalar .. => by simp [prune]
  | aliasTo .. => by simp [prune, owners]
  | sequence p items => by
    rw [prune, owners, owners]
    exact itemOwners_prune_sublist items
  | mapping p entries => by
    rw [prune, owners, owners]
    exact entryOwners_prune_sublist entries

theorem itemOwners_prune_sublist : ∀ items : List Node,
    (itemOwners (pruneItems items)).Sublist (itemOwners items)
  | [] => List.Sublist.refl _
  | item :: rest => by
    have hRest := itemOwners_prune_sublist rest
    rw [pruneItems, itemOwners]
    split
    · exact .cons _ (hRest.trans (List.sublist_append_right _ _))
    · rw [itemOwners, place_prune]
      exact .cons_cons _ ((owners_prune_sublist item).append hRest)

theorem entryOwners_prune_sublist : ∀ entries : List (Node × Node),
    (entryOwners (pruneEntries entries)).Sublist (entryOwners entries)
  | [] => List.Sublist.refl _
  | (key, value) :: rest => by
    have hRest := entryOwners_prune_sublist rest
    rw [pruneEntries, entryOwners]
    split
    · rw [← List.append_assoc]
      exact .cons _ (hRest.trans (List.sublist_append_right _ _))
    · rw [entryOwners]
      exact .cons_cons _ ((List.Sublist.refl _).append ((owners_prune_sublist value).append hRest))

end

end Node

/-- Two places have the comment of one block. A block ends directly above one line, so that places
on two lines have their comments of two blocks. -/
def SharesBlock (p q : Place) : Prop := p.line = q.line ∧ p.comment ≠ "" ∧ q.comment ≠ ""

instance (p q : Place) : Decidable (SharesBlock p q) := inferInstanceAs (Decidable (_ ∧ _))

/-! ## Comment blocks of lines -/

theorem blockText_eq_empty_iff {lines : List (List Char)} {line : Nat} :
    blockText lines line = "" ↔ commentBlock (lines.take (line - 1)) = [] := by
  rw [blockText]
  cases hBlock : commentBlock (lines.take (line - 1)) with
  | nil => simp
  | cons part rest =>
    obtain ⟨line, -, hPart⟩ := mem_commentBlock (hBlock ▸ List.mem_cons_self)
    have hHead : part.head? = some '#' := (commentPart?_eq_some.mp hPart).2
    cases part with
    | nil => cases hHead
    | cons c part => cases rest <;> simp [List.intercalate, List.intersperse]

/-! ## Owners in an outline -/

namespace Owner

/-- A mark of each of two owners is the first on the same line below a comment. -/
def Meets (lines : List (List Char)) (o p : Owner) : Prop :=
  ∃ a ∈ o.marks, ∃ b ∈ p.marks, a.line = b.line ∧ isFirstOnLine lines a = true ∧
    isFirstOnLine lines b = true ∧ commentBlock (lines.take (a.line - 1)) ≠ []

variable {lines : List (List Char)} {o p : Owner}

theorem comment_place_ne_empty :
    (o.place lines).comment ≠ "" ↔
      (∃ a ∈ o.marks, isFirstOnLine lines a = true) ∧
        commentBlock (lines.take (o.mark.line - 1)) ≠ [] := by
  rw [place, ← List.any_eq_true]
  cases o.marks.any (isFirstOnLine lines) <;> simp [blockText_eq_empty_iff]

theorem sharesBlock_iff_meets : SharesBlock (o.place lines) (p.place lines) ↔ o.Meets lines p := by
  rw [SharesBlock, comment_place_ne_empty, comment_place_ne_empty]
  constructor
  · rintro ⟨hLine, ⟨⟨a, ha, hFirst⟩, hBlock⟩, ⟨b, hb, hOther⟩, -⟩
    have hMark : a.line = o.mark.line := o.onLine a ha
    have hSame : o.mark.line = p.mark.line := hLine
    exact ⟨a, ha, b, hb, by rw [hMark, hSame, p.onLine b hb], hFirst, hOther, by rwa [hMark]⟩
  · rintro ⟨a, ha, b, hb, hLine, hFirst, hOther, hBlock⟩
    have hMark : a.line = o.mark.line := o.onLine a ha
    have hSame : o.mark.line = p.mark.line := by rw [← hMark, hLine, p.onLine b hb]
    rw [hMark] at hBlock
    exact ⟨hSame, ⟨⟨a, ha, hFirst⟩, hBlock⟩, ⟨b, hb, hOther⟩, hSame ▸ hBlock⟩

/-- Whether a blank or a dash stands at a mark, or nothing at all. -/
def isInMargin (lines : List (List Char)) (mark : Mark) : Bool :=
  ((lines[mark.line - 1]?).bind (·[mark.column]?)).all fun c => Text.isBlank c || c == '-'

/-- On one line the mark of one of two owners comes before that of the other, and stands at a
character that is neither a blank nor a dash. -/
def StandsApart (lines : List (List Char)) (o p : Owner) : Prop :=
  ∀ a ∈ o.marks, ∀ b ∈ p.marks, a.line = b.line →
    (a.column < b.column ∧ isInMargin lines a = false) ∨
      (b.column < a.column ∧ isInMargin lines b = false)

instance (lines : List (List Char)) (o p : Owner) : Decidable (o.StandsApart lines p) :=
  inferInstanceAs (Decidable (∀ a ∈ o.marks, ∀ b ∈ p.marks, a.line = b.line →
    (a.column < b.column ∧ isInMargin lines a = false) ∨
      (b.column < a.column ∧ isInMargin lines b = false)))

theorem isInMargin_of_lt {a b : Mark} (hLine : a.line = b.line) (hColumn : a.column < b.column)
    (h : isFirstOnLine lines b = true) : isInMargin lines a = true := by
  rw [isFirstOnLine, ← hLine] at h
  rw [isInMargin]
  cases hCurrent : lines[a.line - 1]? with
  | none => rfl
  | some current =>
    rw [hCurrent, Option.any_some, startsLine, List.all_eq_true] at h
    rw [Option.bind_some]
    cases hHere : current[a.column]? with
    | none => rfl
    | some c =>
      apply h
      rw [List.mem_take_iff_getElem]
      obtain ⟨hInside, hChar⟩ := List.getElem?_eq_some_iff.mp hHere
      exact ⟨a.column, by omega, hChar⟩

theorem StandsApart.not_meets (h : o.StandsApart lines p) : ¬o.Meets lines p := by
  rintro ⟨a, ha, b, hb, hLine, hFirst, hOther, -⟩
  rcases h a ha b hb hLine with ⟨hColumn, hVisible⟩ | ⟨hColumn, hVisible⟩
  · rw [isInMargin_of_lt hLine hColumn hOther] at hVisible
    cases hVisible
  · rw [isInMargin_of_lt hLine.symm hColumn hFirst] at hVisible
    cases hVisible

end Owner

namespace Outline

mutual

def owners (isItem : Bool) : Outline → List Owner
  | scalar .. => []
  | aliasTo .. => []
  | sequence _ items _ => itemOwners items
  | mapping opening entries _ => entryOwners (isItem && handsOver opening entries) entries

def itemOwners : List Outline → List Owner
  | [] => []
  | item :: rest => itemOwner item :: (item.owners true ++ itemOwners rest)

def entryOwners (handed : Bool) : List (Outline × Outline) → List Owner
  | [] => []
  | (key, value) :: rest =>
    keyOwner handed key :: (key.owners false ++ (value.owners false ++ entryOwners false rest))

end

variable {lines : List (List Char)}

mutual

theorem owners_of_built {slot : Slot} : ∀ {t : Outline} {n : Node}, t.Built lines slot n →
    n.owners = (t.owners slot.isItem).map (Owner.place lines)
  | scalar .., _, h => by
    obtain rfl := h
    rfl
  | aliasTo .., _, h => by
    obtain ⟨target, rfl⟩ := h
    rfl
  | sequence opening items close, _, h => by
    obtain ⟨nodes, rfl, hItems⟩ := h
    rw [Node.owners, owners, itemOwners_of_built hItems]
  | mapping opening entries close, _, h => by
    obtain ⟨nodes, rfl, hEntries⟩ := h
    obtain ⟨p, hNode⟩ := exists_mappingNode opening hEntries slot
    rw [hNode, Node.owners, owners, entryOwners_of_built hEntries]

theorem itemOwners_of_built : ∀ {items : List Outline} {nodes : List Node},
    BuiltItems lines items nodes →
      Node.itemOwners nodes = (itemOwners items).map (Owner.place lines)
  | [], _, h => by
    obtain rfl := h
    rfl
  | item :: rest, _, h => by
    obtain ⟨n, more, rfl, hItem, hRest⟩ := h
    rw [Node.itemOwners, itemOwners, List.map_cons, List.map_append, place_of_built_item hItem,
      owners_of_built hItem, itemOwners_of_built hRest]
    rfl

theorem entryOwners_of_built : ∀ {entries : List (Outline × Outline)}
    {nodes : List (Node × Node)}, BuiltEntries lines entries nodes → ∀ handed : Bool,
      Node.entryOwners (handOver handed nodes) =
        (entryOwners handed entries).map (Owner.place lines)
  | [], _, h, _ => by
    obtain rfl := h
    rfl
  | (key, value) :: rest, _, h, handed => by
    obtain ⟨k, v, more, rfl, hKey, hValue, hRest⟩ := h
    have hRestOwners := entryOwners_of_built hRest false
    rw [handOver_false] at hRestOwners
    have hSplit : handOver handed ((k, v) :: more) =
        (if handed then k.withPlace { k.place with comment := "" } else k, v) :: more := by
      cases handed <;> rfl
    have hInKey : (if handed then k.withPlace { k.place with comment := "" } else k).owners =
        k.owners := by
      cases handed with
      | false => rfl
      | true => exact k.owners_withPlace _
    rw [hSplit, Node.entryOwners, entryOwners, List.map_cons, List.map_append, List.map_append,
      place_of_built_key hKey, hInKey, owners_of_built hKey, owners_of_built hValue, hRestOwners]
    rfl

end

end Outline

end ConfigReference.Yaml
