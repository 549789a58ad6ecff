import ConfigReference.Audit
import ConfigReference.Proofs.Row.Coverage
import ConfigReference.Proofs.Yaml.Reach
import ConfigReference.Proofs.Yaml.Spelling

/-!
# Aliases and copies

A copy of its target can stand for every alias that is a value or an item, if it takes the place of
the alias. Rows, audit and data do not tell the difference.
-/

set_option autoImplicit false

namespace ConfigReference

namespace Yaml.Node

mutual

/-- The tree with copies of their targets instead of the aliases, each copy in the place of the
alias. -/
def inlined : Node → Node
  | scalar p tag text => scalar p tag text
  | sequence p items => sequence p (inlinedItems items)
  | mapping p entries => mapping p (inlinedEntries entries)
  | aliasTo p target => target.inlined.withPlace p

def inlinedKey : Node → Node
  | scalar p tag text => scalar p tag text
  | sequence p items => sequence p (inlinedItems items)
  | mapping p entries => mapping p (inlinedEntries entries)
  | aliasTo p target => aliasTo p target.inlined

def inlinedItems : List Node → List Node
  | [] => []
  | item :: rest => item.inlined :: inlinedItems rest

def inlinedEntries : List (Node × Node) → List (Node × Node)
  | [] => []
  | (key, value) :: rest => (key.inlinedKey, value.inlined) :: inlinedEntries rest

end

/-! ## Places, texts and kinds -/

theorem kindName_withPlace (p : Place) (n : Node) : (n.withPlace p).kindName = n.kindName := by
  cases n <;> rfl

theorem place_inlined (n : Node) : n.inlined.place = n.place := by
  cases n with
  | aliasTo p target =>
    rw [inlined, place_withPlace]
    rfl
  | scalar | sequence | mapping => simp only [inlined, place]

theorem place_inlinedKey (n : Node) : n.inlinedKey.place = n.place := by
  cases n <;> simp only [inlinedKey, place]

theorem text_inlinedKey (n : Node) : n.inlinedKey.text = n.text := by
  cases n <;> simp only [inlinedKey, text]

theorem isEmpty_inlinedItems (items : List Node) :
    (inlinedItems items).isEmpty = items.isEmpty := by
  cases items <;> simp only [inlinedItems, List.isEmpty_cons]

theorem isEmpty_inlinedEntries (entries : List (Node × Node)) :
    (inlinedEntries entries).isEmpty = entries.isEmpty := by
  cases entries <;> simp only [inlinedEntries, List.isEmpty_cons]

theorem kindName_inlined (n : Node) : n.inlined.kindName = n.resolve.kindName := by
  fun_induction resolve n with
  | case1 p target ih => rw [inlined, kindName_withPlace, ih]
  | case2 n hNoAlias =>
    cases n with
    | aliasTo p target => exact absurd rfl (hNoAlias p target)
    | scalar | sequence | mapping => simp only [inlined, kindName]

/-! ## What is reached -/

theorem not_isAlias_of_reaches_withPlace (p : Place) {n : Node}
    (h : ∀ m, n.Reaches m → m.isAlias = false) :
    ∀ m, (n.withPlace p).Reaches m → m.isAlias = false := by
  intro m hReaches
  cases n with
  | scalar q tag text =>
    obtain rfl := reaches_scalar_iff.mp hReaches
    rfl
  | sequence q items =>
    rcases reaches_sequence_iff.mp hReaches with rfl | hInside
    · rfl
    · exact h m (reaches_sequence_iff.mpr (.inr hInside))
  | mapping q entries =>
    rcases reaches_mapping_iff.mp hReaches with rfl | hInside
    · rfl
    · exact h m (reaches_mapping_iff.mpr (.inr hInside))
  | aliasTo q target => cases h _ (.self _)

mutual

theorem not_isAlias_of_reaches_inlined (n : Node) :
    ∀ m, n.inlined.Reaches m → m.isAlias = false := by
  match n with
  | scalar p tag text =>
    intro m hReaches
    rw [inlined] at hReaches
    obtain rfl := reaches_scalar_iff.mp hReaches
    rfl
  | sequence p items =>
    intro m hReaches
    rw [inlined] at hReaches
    rcases reaches_sequence_iff.mp hReaches with rfl | ⟨item, hItem, hInside⟩
    · rfl
    · exact not_isAlias_of_reaches_inlinedItems items item hItem m hInside
  | mapping p entries =>
    intro m hReaches
    rw [inlined] at hReaches
    rcases reaches_mapping_iff.mp hReaches with rfl | ⟨e, hEntry, hInside⟩
    · rfl
    · exact not_isAlias_of_reaches_inlinedEntries entries e hEntry m hInside
  | aliasTo p target =>
    rw [inlined]
    exact not_isAlias_of_reaches_withPlace p (not_isAlias_of_reaches_inlined target)

theorem not_isAlias_of_reaches_inlinedItems (items : List Node) :
    ∀ item ∈ inlinedItems items, ∀ m, item.Reaches m → m.isAlias = false := by
  match items with
  | [] =>
    rw [inlinedItems]
    exact List.forall_mem_nil _
  | item :: rest =>
    rw [inlinedItems]
    exact List.forall_mem_cons.mpr
      ⟨not_isAlias_of_reaches_inlined item, not_isAlias_of_reaches_inlinedItems rest⟩

theorem not_isAlias_of_reaches_inlinedEntries (entries : List (Node × Node)) :
    ∀ e ∈ inlinedEntries entries, ∀ m, e.2.Reaches m → m.isAlias = false := by
  match entries with
  | [] =>
    rw [inlinedEntries]
    exact List.forall_mem_nil _
  | (key, value) :: rest =>
    rw [inlinedEntries]
    exact List.forall_mem_cons.mpr
      ⟨not_isAlias_of_reaches_inlined value, not_isAlias_of_reaches_inlinedEntries rest⟩

end

theorem resolve_inlined (n : Node) : n.inlined.resolve = n.inlined := by
  have hPlain := not_isAlias_of_reaches_inlined n n.inlined (.self _)
  cases hNode : n.inlined with
  | aliasTo p target =>
    rw [hNode] at hPlain
    cases hPlain
  | scalar | sequence | mapping => rfl

/-! ## Data -/

theorem toJson_withPlace (p : Place) (n : Node) : (n.withPlace p).toJson = n.toJson := by
  cases n <;> rw [withPlace, toJson, toJson]

theorem toData_withPlace (p : Place) (n : Node) : (n.withPlace p).toData = n.toData := by
  cases n <;> rw [withPlace, toData, toData]

mutual

theorem toJson_inlined (n : Node) : n.inlined.toJson = n.toJson := by
  match n with
  | scalar p tag text => rw [inlined]
  | sequence p items => rw [inlined, toJson, toJson, jsonItems_inlinedItems items]
  | mapping p entries => rw [inlined, toJson, toJson, jsonMembers_inlinedEntries entries]
  | aliasTo p target =>
    rw [inlined, toJson_withPlace, toJson]
    exact toJson_inlined target

theorem jsonItems_inlinedItems (items : List Node) :
    jsonItems (inlinedItems items) = jsonItems items := by
  match items with
  | [] => rw [inlinedItems]
  | item :: rest =>
    rw [inlinedItems, jsonItems, jsonItems, toJson_inlined item, jsonItems_inlinedItems rest]

theorem jsonMembers_inlinedEntries (entries : List (Node × Node)) :
    jsonMembers (inlinedEntries entries) = jsonMembers entries := by
  match entries with
  | [] => rw [inlinedEntries]
  | (key, value) :: rest =>
    rw [inlinedEntries, jsonMembers, jsonMembers, text_inlinedKey, toJson_inlined value,
      jsonMembers_inlinedEntries rest]

end

mutual

theorem toData_inlined (n : Node) : n.inlined.toData = n.toData := by
  match n with
  | scalar p tag text => rw [inlined]
  | sequence p items => rw [inlined, toData, toData, dataItems_inlinedItems items]
  | mapping p entries => rw [inlined, toData, toData, dataEntries_inlinedEntries entries]
  | aliasTo p target =>
    rw [inlined, toData_withPlace, toData]
    exact toData_inlined target

theorem toData_inlinedKey (n : Node) : n.inlinedKey.toData = n.toData := by
  match n with
  | scalar p tag text => rw [inlinedKey]
  | sequence p items => rw [inlinedKey, toData, toData, dataItems_inlinedItems items]
  | mapping p entries => rw [inlinedKey, toData, toData, dataEntries_inlinedEntries entries]
  | aliasTo p target =>
    rw [inlinedKey, toData, toData]
    exact toData_inlined target

theorem dataItems_inlinedItems (items : List Node) :
    dataItems (inlinedItems items) = dataItems items := by
  match items with
  | [] => rw [inlinedItems]
  | item :: rest =>
    rw [inlinedItems, dataItems, dataItems, toData_inlined item, dataItems_inlinedItems rest]

theorem dataEntries_inlinedEntries (entries : List (Node × Node)) :
    dataEntries (inlinedEntries entries) = dataEntries entries := by
  match entries with
  | [] => rw [inlinedEntries]
  | (key, value) :: rest =>
    rw [inlinedEntries, dataEntries, dataEntries, toData_inlinedKey key, toData_inlined value,
      dataEntries_inlinedEntries rest]

end

end Yaml.Node

/-! ## The audit -/

namespace Audit

open Yaml

theorem undocumentedBelow_withPlace (ds : Descriptions) (parts : List String) (p : Place)
    (n : Node) : undocumentedBelow ds parts (n.withPlace p) = undocumentedBelow ds parts n := by
  cases n <;> rw [Node.withPlace, undocumentedBelow, undocumentedBelow]

mutual

theorem undocumentedBelow_inlined (ds : Descriptions) (parts : List String) (n : Node) :
    undocumentedBelow ds parts n.inlined = undocumentedBelow ds parts n := by
  match n with
  | .scalar p tag text => rw [Node.inlined]
  | .sequence p items =>
    rw [Node.inlined, undocumentedBelow, undocumentedBelow]
    exact undocumentedItems_inlinedItems ds parts 0 items
  | .mapping p entries =>
    rw [Node.inlined, undocumentedBelow, undocumentedBelow]
    exact undocumentedEntries_inlinedEntries ds parts entries
  | .aliasTo p target =>
    rw [Node.inlined, undocumentedBelow_withPlace, undocumentedBelow]
    exact undocumentedBelow_inlined ds parts target

theorem undocumentedItems_inlinedItems (ds : Descriptions) (parts : List String) (index : Nat)
    (items : List Node) :
    undocumentedItems ds parts index (Node.inlinedItems items) =
      undocumentedItems ds parts index items := by
  match items with
  | [] => rw [Node.inlinedItems]
  | item :: rest =>
    rw [Node.inlinedItems, undocumentedItems, undocumentedItems]
    rw [undocumentedBelow_inlined ds _ item, undocumentedItems_inlinedItems ds parts _ rest]

theorem undocumentedEntries_inlinedEntries (ds : Descriptions) (parts : List String)
    (entries : List (Node × Node)) :
    undocumentedEntries ds parts (Node.inlinedEntries entries) =
      undocumentedEntries ds parts entries := by
  match entries with
  | [] => rw [Node.inlinedEntries]
  | (key, value) :: rest =>
    rw [Node.inlinedEntries, undocumentedEntries, undocumentedEntries, Node.text_inlinedKey]
    rw [undocumentedBelow_inlined ds _ value, undocumentedEntries_inlinedEntries ds parts rest]

end

end Audit

/-! ## Rows -/

namespace Row

open Yaml

/-- Two values show the same in a row. -/
structure ShowAlike (v w : Node) : Prop where
  typeName : inferredType v = inferredType w
  text : v.resolve.text = w.resolve.text
  json : v.toJson = w.toJson
  data : v.resolve.toData = w.resolve.toData

section

variable {v w : Node} (h : ShowAlike v w) (ds : Descriptions) (s : InForce) (key : String)
  (head : Option Place)
include h

theorem ShowAlike.ofValue (given : Said) (shown : Shown) (isEmpty : Bool) :
    Row.ofValue s key head v given shown isEmpty =
      Row.ofValue s key head w given shown isEmpty := by
  have hDefault (notationType : String) :
      shownDefault v notationType isEmpty shown = shownDefault w notationType isEmpty shown := by
    cases shown <;> simp only [shownDefault, h.text]
  simp only [Row.ofValue, hDefault, h.typeName]

theorem ShowAlike.notationText (notationType : String) :
    Row.notationText v notationType = Row.notationText w notationType := by
  rw [Row.notationText, Row.notationText, h.data, h.text]

theorem ShowAlike.ofScalar (leaves : Bool) (tag : ScalarTag) :
    Row.ofScalar ds s key head leaves v tag = Row.ofScalar ds s key head leaves w tag := by
  have hShown (given : Said) : shownScalar v tag given = shownScalar w tag given := by
    rw [shownScalar, shownScalar, h.notationText, h.json]
  simp only [Row.ofScalar, hShown, h.ofValue]

theorem ShowAlike.ofEmpty (leaves : Bool) (json : Json) :
    Row.ofEmpty ds s key head leaves v json = Row.ofEmpty ds s key head leaves w json := by
  simp only [Row.ofEmpty, h.ofValue]

theorem ShowAlike.ofContainer :
    Row.ofContainer ds s key head v = Row.ofContainer ds s key head w := by
  have hShown (given : Said) : shownContainer v given = shownContainer w given := by
    rw [shownContainer, shownContainer, h.notationText, h.json]
  simp only [Row.ofContainer, hShown, h.ofValue]

end

theorem showAlike_scalar (p q : Place) (tag : ScalarTag) (text : String) :
    ShowAlike (.scalar p tag text) (.scalar q tag text) := ⟨rfl, rfl, rfl, rfl⟩

theorem showAlike_sequence (p q : Place) {items others : List Node}
    (hJson : Node.jsonItems items = Node.jsonItems others)
    (hData : Node.dataItems items = Node.dataItems others) :
    ShowAlike (.sequence p items) (.sequence q others) where
  typeName := rfl
  text := rfl
  json := by rw [Node.toJson, Node.toJson, hJson]
  data := by
    show (Node.sequence p items).toData = (Node.sequence q others).toData
    rw [Node.toData, Node.toData, hData]

theorem showAlike_mapping (p q : Place) {entries others : List (Node × Node)}
    (hJson : Node.jsonMembers entries = Node.jsonMembers others)
    (hData : Node.dataEntries entries = Node.dataEntries others) :
    ShowAlike (.mapping p entries) (.mapping q others) where
  typeName := rfl
  text := rfl
  json := by rw [Node.toJson, Node.toJson, hJson]
  data := by
    show (Node.mapping p entries).toData = (Node.mapping q others).toData
    rw [Node.toData, Node.toData, hData]

section

variable (ds : Descriptions) (s : InForce) (key : String) (head : Option Place) (leaves : Bool)

theorem flatten_sequence_congr {p q : Place} {items others : List Node}
    (h : ShowAlike (.sequence p items) (.sequence q others))
    (hEmpty : items.isEmpty = others.isEmpty)
    (hItems : ∀ (s : InForce) (leaves : Bool),
      flattenItems ds s key leaves 0 items = flattenItems ds s key leaves 0 others) :
    flatten ds s key head leaves (.sequence p items) =
      flatten ds s key head leaves (.sequence q others) := by
  rw [flatten, flatten, hEmpty, h.ofEmpty, h.ofContainer]
  simp only [hItems]

theorem flatten_mapping_congr {p q : Place} {entries others : List (Node × Node)}
    (h : ShowAlike (.mapping p entries) (.mapping q others))
    (hEmpty : entries.isEmpty = others.isEmpty)
    (hEntries : ∀ (s : InForce) (leaves : Bool),
      flattenEntries ds s key leaves entries = flattenEntries ds s key leaves others) :
    flatten ds s key head leaves (.mapping p entries) =
      flatten ds s key head leaves (.mapping q others) := by
  rw [flatten, flatten, hEmpty, h.ofEmpty, h.ofContainer]
  simp only [hEntries]

/-- The rows of a value show the place of its head, not its own. -/
theorem flatten_withPlace (p : Place) (n : Node) :
    flatten ds s key head leaves (n.withPlace p) = flatten ds s key head leaves n := by
  cases n with
  | scalar q tag text =>
    rw [Node.withPlace, flatten, flatten]
    exact (showAlike_scalar p q tag text).ofScalar ds s key head leaves tag
  | sequence q items =>
    exact flatten_sequence_congr ds s key head leaves (showAlike_sequence p q rfl rfl) rfl
      fun _ _ => rfl
  | mapping q entries =>
    exact flatten_mapping_congr ds s key head leaves (showAlike_mapping p q rfl rfl) rfl
      fun _ _ => rfl
  | aliasTo q target => rw [Node.withPlace, flatten, flatten]

end

mutual

theorem flatten_inlined (ds : Descriptions) (s : InForce) (key : String) (head : Option Place)
    (leaves : Bool) (n : Node) :
    flatten ds s key head leaves n.inlined = flatten ds s key head leaves n := by
  -- the section in force differs from part to part, so the parts agree for every one
  match n with
  | .scalar p tag text => rw [Node.inlined]
  | .sequence p items =>
    rw [Node.inlined]
    apply flatten_sequence_congr
    · exact showAlike_sequence p p (Node.jsonItems_inlinedItems items)
        (Node.dataItems_inlinedItems items)
    · exact Node.isEmpty_inlinedItems items
    · exact fun s leaves => flattenItems_inlinedItems ds s key leaves 0 items
  | .mapping p entries =>
    rw [Node.inlined]
    apply flatten_mapping_congr
    · exact showAlike_mapping p p (Node.jsonMembers_inlinedEntries entries)
        (Node.dataEntries_inlinedEntries entries)
    · exact Node.isEmpty_inlinedEntries entries
    · exact fun s leaves => flattenEntries_inlinedEntries ds s key leaves entries
  | .aliasTo p target =>
    rw [Node.inlined, flatten_withPlace, flatten]
    exact flatten_inlined ds s key head leaves target

theorem flattenItems_inlinedItems (ds : Descriptions) (s : InForce) (key : String) (leaves : Bool)
    (index : Nat) (items : List Node) :
    flattenItems ds s key leaves index (Node.inlinedItems items) =
      flattenItems ds s key leaves index items := by
  match items with
  | [] => rw [Node.inlinedItems]
  | item :: rest =>
    -- the head of an item is its own place, which the copy has from the alias
    rw [Node.inlinedItems, flattenItems, flattenItems, Node.place_inlined]
    rw [flatten_inlined ds s _ _ leaves item, flattenItems_inlinedItems ds _ key leaves _ rest]

theorem flattenEntries_inlinedEntries (ds : Descriptions) (s : InForce) (key : String)
    (leaves : Bool) (entries : List (Node × Node)) :
    flattenEntries ds s key leaves (Node.inlinedEntries entries) =
      flattenEntries ds s key leaves entries := by
  match entries with
  | [] => rw [Node.inlinedEntries]
  | (k, value) :: rest =>
    rw [Node.inlinedEntries, flattenEntries, flattenEntries, Node.text_inlinedKey,
      Node.place_inlinedKey]
    rw [flatten_inlined ds s _ _ leaves value, flattenEntries_inlinedEntries ds _ key leaves rest]

end

end Row

namespace Yaml.Node

theorem rows_eq_ite (root : Node) (ds : Descriptions) :
    rows (some root) ds =
      if root.resolve.kindName = "mapping" then .ok (Row.flatten ds {} "" none true root).1
      else .error ⟨root.resolve.kindName⟩ := by
  rw [rows, ← Row.flatten_resolve]
  cases root.resolve <;> rfl

theorem rows_inlined (root : Node) (ds : Descriptions) :
    rows (some root.inlined) ds = rows (some root) ds := by
  rw [rows_eq_ite, rows_eq_ite, Row.flatten_inlined, resolve_inlined, kindName_inlined]

/-- With copies in their place, no alias is left among the values and items of a tree, and the tree
has the same rows, the same places included, or the same refusal, the same paths without a
description, and the same data. -/
theorem aliases_stand_for_copies (root : Node) (ds : Descriptions) :
    (∀ m, root.inlined.Reaches m → m.isAlias = false) ∧
    rows (some root.inlined) ds = rows (some root) ds ∧
    Audit.undocumented root.inlined ds = Audit.undocumented root ds ∧
    root.inlined.toJson = root.toJson ∧
    root.inlined.toData = root.toData := by
  refine ⟨not_isAlias_of_reaches_inlined root, rows_inlined root ds, ?_, toJson_inlined root,
    toData_inlined root⟩
  exact Audit.undocumentedBelow_inlined ds [] root

end Yaml.Node

end ConfigReference
