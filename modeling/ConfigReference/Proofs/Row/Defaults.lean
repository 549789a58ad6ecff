import ConfigReference.Proofs.Json.RoundTrip
import ConfigReference.Proofs.Reference.DefaultColumn
import ConfigReference.Proofs.Row.Coverage
import ConfigReference.Proofs.Yaml.Integer

/-!
# Defaults of containers

The default of a container is its data as JSON between code marks, and the column of defaults sets
the same data out on lines. Both texts read back as the data, which has its keys in order and its
integers in a range that is read exactly; only floats are left aside.
-/

set_option autoImplicit false

namespace ConfigReference

/-! ## Data of nodes -/

namespace Json

mutual

def holdsFloat : Json → Bool
  | .number (.float _) => true
  | .array items => itemsHoldFloat items
  | .object members => membersHoldFloat members
  | _ => false

def itemsHoldFloat : List Json → Bool
  | [] => false
  | item :: rest => item.holdsFloat || itemsHoldFloat rest

def membersHoldFloat : List (String × Json) → Bool
  | [] => false
  | (_, value) :: rest => value.holdsFloat || membersHoldFloat rest

end

theorem holdsFloat_of_mem_items {items : List Json} (h : itemsHoldFloat items = false)
    {item : Json} (hItem : item ∈ items) : item.holdsFloat = false := by
  induction items with
  | nil => cases hItem
  | cons first rest ih =>
    obtain ⟨hFirst, hRest⟩ := Bool.or_eq_false_iff.mp h
    rcases List.mem_cons.mp hItem with rfl | hItem
    · exact hFirst
    · exact ih hRest hItem

theorem holdsFloat_of_mem_members {members : List (String × Json)}
    (h : membersHoldFloat members = false) {m : String × Json} (hMember : m ∈ members) :
    m.2.holdsFloat = false := by
  induction members with
  | nil => cases hMember
  | cons first rest ih =>
    obtain ⟨hFirst, hRest⟩ := Bool.or_eq_false_iff.mp h
    rcases List.mem_cons.mp hMember with rfl | hMember
    · exact hFirst
    · exact ih hRest hMember

theorem mem_of_mem_sortMembers {members : List (String × Json)} {m : String × Json}
    (h : m ∈ sortMembers members) : m ∈ members := by
  suffices ∀ sorted : List (String × Json),
      m ∈ members.foldl (fun sorted e => insertKeyed e.1 e.2 sorted) sorted →
        m ∈ sorted ∨ m ∈ members from (this [] h).resolve_left List.not_mem_nil
  clear h
  induction members with
  | nil => exact fun sorted h => .inl h
  | cons e rest ih =>
    intro sorted h
    rcases ih _ h with hSorted | hRest
    · rcases mem_insertKeyed hSorted with rfl | hSorted
      · exact .inr List.mem_cons_self
      · exact .inl hSorted
    · exact .inr (List.mem_cons_of_mem _ hRest)

end Json

namespace Yaml

theorem fitsInteger_of_fitsWord {n : Int} (h : Decimal.fitsWord n = true) : Json.FitsInteger n := by
  have hHigh : Decimal.twoPow 64 = 2 * Decimal.twoPow 63 := by decide
  simp only [Decimal.fitsWord, Bool.and_eq_true, decide_eq_true_eq] at h
  constructor <;> omega

theorem fitsInteger_negateWord {n : Int} (h : Decimal.fitsWord n = true) :
    Json.FitsInteger (Decimal.negateWord n) := by
  have hHigh : Decimal.twoPow 64 = 2 * Decimal.twoPow 63 := by decide
  simp only [Decimal.fitsWord, Bool.and_eq_true, decide_eq_true_eq] at h
  rw [Decimal.negateWord]
  split <;> constructor <;> omega

theorem Scalar.fitsInteger_readInt {s : List Char} {n : Int} (h : readInt s = some n) :
    Json.FitsInteger n := by
  rw [readInt] at h
  generalize Decimal.splitSign (dropUnderscores s) = signed at h
  obtain ⟨negative, body⟩ := signed
  obtain ⟨word, hWord, rfl⟩ := Option.map_eq_some_iff.mp h
  obtain ⟨-, -, -, hFits⟩ := readWord?_eq_some.mp hWord
  cases negative with
  | true => exact fitsInteger_negateWord hFits
  | false => exact fitsInteger_of_fitsWord hFits

namespace Node

theorem isExact_floatJson {text : String} (h : (floatJson text).holdsFloat = false) :
    (floatJson text).IsExact := by
  cases hRead : Scalar.readFloat text.toList with
  | none =>
    simp only [floatJson, hRead]
    exact .string text
  | some x =>
    cases hFinite : x.isFinite with
    | true => simp [floatJson, hRead, hFinite, Json.holdsFloat] at h
    | false =>
      simp only [floatJson, hRead, hFinite]
      exact .string text

theorem isExact_scalarJson {tag : ScalarTag} {text : String}
    (h : (scalarJson tag text).holdsFloat = false) : (scalarJson tag text).IsExact := by
  cases tag with
  | null => exact .null
  | bool => exact .bool _
  | int =>
    rw [scalarJson] at h ⊢
    split
    · rename_i n hRead
      exact .int (Scalar.fitsInteger_readInt hRead)
    · rename_i hRead
      rw [hRead] at h
      exact isExact_floatJson h
  | float => exact isExact_floatJson h
  | str => exact .string text
  | timestamp => exact .string text

mutual

theorem isExact_toJson (n : Node) (h : n.toJson.holdsFloat = false) : n.toJson.IsExact := by
  match n with
  | .scalar p tag text => exact isExact_scalarJson h
  | .aliasTo p target =>
    rw [toJson] at h ⊢
    exact isExact_toJson target h
  | .sequence p items =>
    rw [toJson] at h ⊢
    exact .array fun item hItem =>
      isExact_jsonItems items item hItem (Json.holdsFloat_of_mem_items h hItem)
  | .mapping p entries =>
    rw [toJson] at h ⊢
    refine .object (Json.ascending_sortMembers _) ?_
    intro m hMember
    exact isExact_jsonMembers entries m (Json.mem_of_mem_sortMembers hMember)
      (Json.holdsFloat_of_mem_members h hMember)

theorem isExact_jsonItems (items : List Node) :
    ∀ item ∈ jsonItems items, item.holdsFloat = false → item.IsExact := by
  match items with
  | [] => exact List.forall_mem_nil _
  | item :: rest =>
    rw [jsonItems]
    exact List.forall_mem_cons.mpr ⟨isExact_toJson item, isExact_jsonItems rest⟩

theorem isExact_jsonMembers (entries : List (Node × Node)) :
    ∀ m ∈ jsonMembers entries, m.2.holdsFloat = false → m.2.IsExact := by
  match entries with
  | [] => exact List.forall_mem_nil _
  | (key, value) :: rest =>
    rw [jsonMembers]
    exact List.forall_mem_cons.mpr ⟨isExact_toJson value, isExact_jsonMembers rest⟩

end

end Node

end Yaml

/-! ## Texts of containers -/

namespace Json

def isContainer : Json → Bool
  | .array _ | .object _ => true
  | _ => false

theorem plainJson_of_isContainer {j : Json} (h : j.isContainer = true) :
    Row.plainJson j = j.render := by
  cases j with
  | string s => cases h
  | null | bool _ | number _ | array _ | object _ => rfl

theorem exists_renderChars_eq {j : Json} (h : j.isContainer = true) :
    ∃ first inside last, j.renderChars = first :: inside ++ [last] ∧
      (first = '[' ∨ first = '{') ∧ (last = ']' ∨ last = '}') := by
  cases j with
  | array items => exact ⟨'[', _, ']', rfl, .inl rfl, .inl rfl⟩
  | object members => exact ⟨'{', _, '}', rfl, .inr rfl, .inr rfl⟩
  | null | bool _ | number _ | string _ => cases h

theorem unwrapped_codeText_render {j : Json} (h : j.isContainer = true) :
    Template.unwrapped (Row.codeText j.render) = Template.prettyJson j.render := by
  obtain ⟨first, inside, last, hText, hFirst, hLast⟩ := exists_renderChars_eq h
  apply Template.unwrapped_codeText
  · intro c hc
    rw [render, String.toList_ofList, hText] at hc
    cases hc
    rcases hFirst with rfl | rfl <;> decide
  · intro c hc
    rw [render, String.toList_ofList, hText, List.getLast?_concat] at hc
    cases hc
    rcases hLast with rfl | rfl <;> decide

end Json

namespace Yaml.Node

def isContainer (n : Node) : Bool :=
  match n.resolve with
  | .mapping .. | .sequence .. => true
  | _ => false

theorem isContainer_toJson {n : Node} (h : n.isContainer = true) : n.toJson.isContainer = true := by
  rw [isContainer] at h
  rw [← toJson_resolve]
  cases hNode : n.resolve with
  | sequence p items => rfl
  | mapping p entries => rfl
  | scalar p tag text => simp [hNode] at h
  | aliasTo p target => simp [hNode] at h

end Yaml.Node

namespace Row

/-- Neither the description given for a position nor the comment above it tells a default or a
notation. -/
structure Position.IsPlain (ds : Descriptions) (p : Position) : Prop where
  given : ((ds.get? p.key).getD {}).defaultText = ""
  above : (commentAbove p.head).defaultText = ""
  notationType : (said ds p.key p.head).notationType = ""

section

variable {ds : Descriptions} {p : Position}

theorem shown_of_isPlain (hPlain : p.IsPlain ds) (hContainer : p.value.isContainer = true) :
    p.shown ds = .data p.value.toJson := by
  have hParts (value : Yaml.Node) :
      shownContainer value (said ds p.key p.head) = .data value.toJson := by
    simp [shownContainer, hPlain.notationType]
  rw [Yaml.Node.isContainer] at hContainer
  rw [Position.shown, ← Yaml.Node.toJson_resolve p.value]
  cases hValue : p.value.resolve with
  | sequence place items => simp [hParts]
  | mapping place entries => simp [hParts]
  | scalar place tag text => simp [hValue] at hContainer
  | aliasTo place target => simp [hValue] at hContainer

theorem defaultText_of_isPlain (hPlain : p.IsPlain ds) (hContainer : p.value.isContainer = true)
    (s : InForce) : (p.row ds s).defaultText = codeText p.value.toJson.render := by
  have hGiven : ((said ds p.key p.head).given.getD {}).defaultText = "" := hPlain.given
  have hAbove : (said ds p.key p.head).auto.defaultText = "" := hPlain.above
  rw [Position.row, shown_of_isPlain hPlain hContainer,
    ← Json.plainJson_of_isContainer (Yaml.Node.isContainer_toJson hContainer)]
  simp [ofValue, hGiven, hAbove, shownDefault, hPlain.notationType]

/-- The default of a row reads back as the data, and so does what the column of defaults sets out on
lines. -/
structure ReadsAs (r : Row) (data : Json) : Prop where
  reads : ∃ t, r.defaultText = codeText t ∧ Json.parse? t = some data
  unwrapped : Json.parse? (Template.unwrapped r.defaultText) = some data
  column : ∀ (s : Template.Setting) (depth : Nat) (place : Template.Place),
    Template.renderBody s (depth + 1) place [{ assigned := [("row", r.toJson)] }]
        Template.BuiltIn.defaultColumn.body =
      .ok (.join ["<pre lang=\"json\">\n", Template.unwrapped r.defaultText, "\n</pre>"])

theorem readsAs {r : Row} {data : Json} (h : r.defaultText = codeText data.render)
    (hContainer : data.isContainer = true) (hExact : data.IsExact)
    (hDepth : data.nesting < Json.maxDepth) : ReadsAs r data := by
  have hReads := hExact.parse?_render hDepth
  have hUnwrapped : Template.unwrapped r.defaultText = data.pretty := by
    rw [h, Json.unwrapped_codeText_render hContainer, Template.prettyJson, hReads]
  constructor
  · exact ⟨data.render, h, hReads⟩
  · rw [hUnwrapped]
    exact hExact.parse?_pretty hDepth
  · intro s depth place
    rw [← columnText_of_codeText h]
    exact (renders_defaultColumn r).renderBody

/-- The rows of mappings and sequences show the data of these wherever nothing else is told. The
default reads back as the data, in the row and in the column of defaults, unless the data hold a
float or nest too deeply to be read. -/
theorem container_defaults_read_back {root : Yaml.Node} {ds : Descriptions} {rows : List Row}
    (h : Yaml.Node.rows (some root) ds = .ok rows) :
    List.Forall₂ (fun p r => Documents ds p r ∧
        (p.value.isContainer = true → p.IsPlain ds →
          r.defaultText = codeText p.value.toJson.render ∧
          (p.value.toJson.holdsFloat = false → p.value.toJson.nesting < Json.maxDepth →
            ReadsAs r p.value.toJson)))
      ((positions root).filter (·.isListed ds)) rows := by
  refine (forall₂_isRowOf_rows h).imp ?_
  rintro p r ⟨s, rfl⟩
  constructor
  · exact IsRowOf.documents ⟨s, rfl⟩
  · intro hContainer hPlain
    have hDefault := defaultText_of_isPlain hPlain hContainer s
    constructor
    · exact hDefault
    · intro hFloat hDepth
      apply readsAs hDefault
      · exact Yaml.Node.isContainer_toJson hContainer
      · exact Yaml.Node.isExact_toJson p.value hFloat
      · exact hDepth

/-- Code marks, quotes and line feeds in keys and values come back. -/
theorem container_defaults_read_back_marks :
    let value : Yaml.Node := .mapping {} [(.scalar {} .str "k`",
      .sequence {} [.scalar {} .str "x\"\n`", .scalar {} .int "-9223372036854775807"])]
    let root : Yaml.Node := .mapping {} [(.scalar {} .str "a", value)]
    let ds : Descriptions := KeyedMap.empty.insert "a" { text := "About a." }
    let data : Json :=
      .object [("k`", .array [.string "x\"\n`", .int (-9223372036854775807)])]
    ∃ rows, Yaml.Node.rows (some root) ds = .ok rows ∧
      ∃ r ∈ rows, r.key = "a" ∧ r.defaultText = codeText data.render ∧ ReadsAs r data := by
  intro value root ds data
  have hRows : Yaml.Node.rows (some root) ds = .ok (flatten ds {} "" none true root).1 := rfl
  have hString (t : String) : Yaml.Node.scalarJson .str t = .string t := rfl
  have hInt : Yaml.Node.scalarJson .int "-9223372036854775807" =
      .int (-9223372036854775807) := by
    have hRead : Yaml.Scalar.readInt "-9223372036854775807".toList =
        some (-9223372036854775807) := by decide +kernel
    rw [Yaml.Node.scalarJson, hRead]
  have hData : value.toJson = data := by
    simp [value, data, Yaml.Node.toJson, Yaml.Node.jsonMembers, Yaml.Node.jsonItems, hString, hInt,
      Json.ofMembers, Json.sortMembers, insertKeyed, Yaml.Node.text]
  have hPosition : (⟨"a", some {}, value, [("", none)]⟩ : Position) ∈
      (positions root).filter (·.isListed ds) := by
    have hPlace : positions root = ⟨"", none, root, []⟩ :: ⟨"a", some {}, value, [("", none)]⟩ ::
        (positions root).drop 2 := rfl
    rw [hPlace]
    refine List.mem_filter.mpr ⟨by simp, by decide +kernel⟩
  obtain ⟨r, hr, hDoc, hShown⟩ :=
    exists_of_forall₂_left (container_defaults_read_back hRows) hPosition
  obtain ⟨hDefault, hReads⟩ := hShown rfl ⟨by decide, by decide, by decide⟩
  rw [hData] at hDefault hReads
  exact ⟨_, hRows, r, hr, hDoc.key, hDefault, hReads rfl (by decide)⟩

end

end Row

end ConfigReference
