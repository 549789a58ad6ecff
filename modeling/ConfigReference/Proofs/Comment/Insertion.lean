import ConfigReference.Proofs.Comment.Collection

/-!
# Lines behind a header

A line put behind the last header of a block leaves the block's key alone unless it has the form of
a header itself. Dashes that open the text of a header need a blank in front of them and nothing
behind them, so a rule of dashes is a header with an empty key.
-/

set_option autoImplicit false

namespace ConfigReference.Comment

open Text

/-- `after` is `block` with `line` put in at some place behind its last header. -/
structure IsInsertion (line : List Char) (block after : List (List Char)) : Prop where
  parts : ∃ above header below₁ below₂, (headerKey? header).isSome = true ∧
    (∀ other ∈ below₁ ++ below₂, headerKey? other = none) ∧
    block = above ++ header :: (below₁ ++ below₂) ∧
    after = above ++ header :: (below₁ ++ line :: below₂)

/-- Put in behind a header, the line leaves the key of every block as it is, and every source where
such a block stands is described under that key, unless it is empty. -/
structure KeepsKey (line : List Char) : Prop where
  parsed : ∀ {block after : List (List Char)}, IsInsertion line block after →
    (parse after).map (·.1) = (parse block).map (·.1)
  recorded : ∀ {source : String} {block front after back : List (List Char)} {key : String},
    IsInsertion line block after → IsRun (Text.lines source.toList) front after back →
    (parse block).map (·.1) = some key → key ≠ "" →
    (Descriptions.collect source).contains key = true

/-- Two dashes with a blank in front of them stand somewhere in the line. -/
def hasOpenDashes : List Char → Bool
  | [] => false
  | c :: rest => (isBlank c && ['-', '-'].isPrefixOf rest) || hasOpenDashes rest

/-- Two dashes stand somewhere in the line as a word: with a blank in front of them, and a blank or
the end of the line behind them. -/
def hasDashWord : List Char → Bool
  | [] => false
  | c :: rest =>
    (isBlank c && ['-', '-'].isPrefixOf rest && (rest.drop 2).head?.all isBlank) ||
      hasDashWord rest

theorem hasOpenDashes_append (before after : List Char) {b : Char} (hb : isBlank b = true) :
    hasOpenDashes (before ++ b :: '-' :: '-' :: after) = true := by
  induction before with
  | nil => simp [hasOpenDashes, hb]
  | cons c before ih => rw [List.cons_append, hasOpenDashes, ih, Bool.or_true]

theorem not_isHeaderLine_of_hasOpenDashes {line : List Char} (h : hasOpenDashes line = false) :
    ¬IsHeaderLine line := by
  intro hHeader
  obtain ⟨before, b, after, rfl, hb⟩ := hHeader.exists_blank
  rw [hasOpenDashes_append before after hb] at h
  cases h

theorem IsInsertion.map_fst_parse {line : List Char} {block after : List (List Char)}
    (h : IsInsertion line block after) :
    (parse after).map (·.1) =
      ((headerKey? line).map String.ofList).or ((parse block).map (·.1)) := by
  obtain ⟨above, header, below₁, below₂, hHeader, hBelow, rfl, rfl⟩ := h
  rw [Comment.map_fst_parse, Comment.map_fst_parse, lastHeader?_append hHeader hBelow]
  cases hLine : headerKey? line with
  | some key =>
    have hBelow₂ : ∀ other ∈ below₂, headerKey? other = none := fun other hOther =>
      hBelow other (List.mem_append_right _ hOther)
    rw [show above ++ header :: (below₁ ++ line :: below₂) =
      (above ++ header :: below₁) ++ line :: below₂ by simp,
      lastHeader?_append (by rw [hLine]; rfl) hBelow₂, Option.bind_some, hLine]
    rfl
  | none =>
    have hBelow' : ∀ other ∈ below₁ ++ line :: below₂, headerKey? other = none := by
      intro other hOther
      rcases List.mem_append.mp hOther with hOther | hOther
      · exact hBelow other (List.mem_append_left _ hOther)
      · rcases List.mem_cons.mp hOther with rfl | hOther
        · exact hLine
        · exact hBelow other (List.mem_append_right _ hOther)
    rw [lastHeader?_append hHeader hBelow']
    rfl

theorem keepsKey_of_not_isHeaderLine {line : List Char} (h : ¬IsHeaderLine line) :
    KeepsKey line := by
  have hSame : ∀ {block after : List (List Char)}, IsInsertion line block after →
      (parse after).map (·.1) = (parse block).map (·.1) := by
    intro block after hInsertion
    rw [hInsertion.map_fst_parse, headerKey?_eq_none.mpr h]
    rfl
  refine ⟨hSame, ?_⟩
  intro source block front after back key hInsertion hRun hKey hSome
  refine Descriptions.contains_collect_of_run hRun ?_ hSome
  rw [hSame hInsertion, hKey]

theorem not_isHeaderLine_of_keepsKey {line : List Char} (h : KeepsKey line) :
    ¬IsHeaderLine line := by
  intro hHeader
  obtain ⟨key, hKey⟩ := Option.isSome_iff_exists.mp (isSome_headerKey?.mpr hHeader)
  -- the line cannot have the key of both of these blocks
  have hBlock (header : String) (hIsHeader : (headerKey? header.toList).isSome = true) :
      some (String.ofList key) = (parse [header.toList]).map (·.1) := by
    have hInsertion : IsInsertion line [header.toList] [header.toList, line] :=
      ⟨⟨[], header.toList, [], [], hIsHeader, by simp, rfl, rfl⟩⟩
    rw [← h.parsed hInsertion, hInsertion.map_fst_parse, hKey]
    rfl
  have hFirst := hBlock "# a -- " (by decide)
  have hSecond := hBlock "# b -- " (by decide)
  rw [hFirst] at hSecond
  exact absurd hSecond (by decide)

/-- The lines that leave keys alone are those that do not have the form of a header; a line without
two dashes behind a blank is one of them. -/
theorem keepsKey_iff_not_isHeaderLine (line : List Char) :
    (KeepsKey line ↔ ¬IsHeaderLine line) ∧ (hasOpenDashes line = false → KeepsKey line) :=
  ⟨⟨not_isHeaderLine_of_keepsKey, keepsKey_of_not_isHeaderLine⟩,
    fun h => keepsKey_of_not_isHeaderLine (not_isHeaderLine_of_hasOpenDashes h)⟩

/-- A rule of dashes is no directive and holds no two dashes as a word, and takes a block's key. -/
theorem dash_rule_takes_key :
    ¬∀ line, isComment line = true → readDirective? line = none → hasDashWord line = false →
      KeepsKey line := by
  intro h
  have hKeeps := h "# -----".toList (by decide) (by decide) (by decide)
  have hHeader : IsHeaderLine "# -----".toList := isSome_headerKey?.mp (by decide)
  exact not_isHeaderLine_of_keepsKey hKeeps hHeader

end ConfigReference.Comment
