import Mathlib.Data.List.Induction
import ConfigReference.Proofs.Comment.Collection
import ConfigReference.Proofs.Yaml.Pruning
import ConfigReference.Proofs.Yaml.Skeleton

/-!
# A line that changes

Comments are read off the lines of a source, whatever these lines belong to. When one line gives way
to another and the events of the document stay the same up to the texts of scalars, as when a line
of a scalar changes, this decides what becomes of the comments above nodes, of pruning and of the
descriptions that are collected.
-/

set_option autoImplicit false

namespace ConfigReference.Yaml

/-! ## Comment blocks -/

/-- What a line adds to a comment block, if it is read as a comment. -/
def commentPart? (line : List Char) : Option (List Char) :=
  (some (Text.trimStart line)).filter (·.head? == some '#')

theorem commentPart?_eq_some {line part : List Char} :
    commentPart? line = some part ↔ Text.trimStart line = part ∧ part.head? = some '#' := by
  rw [commentPart?, Option.filter_eq_some_iff, Option.some_inj, beq_iff_eq]

theorem commentPart?_eq_map (line : List Char) :
    commentPart? line = (Comment.afterMark? line).map ('#' :: ·) := by
  rw [commentPart?, Comment.afterMark?, Option.filter_some]
  split
  · rename_i hHash
    split
    · rename_i body hTrim
      rw [hTrim]
      rfl
    · rename_i hNone
      obtain ⟨body, hTrim⟩ := List.head?_eq_some_iff.mp (beq_iff_eq.mp hHash)
      exact absurd hTrim (hNone body)
  · rename_i hHash
    split
    · rename_i body hTrim
      simp [hTrim] at hHash
    · rfl

theorem commentBlock_concat (above : List (List Char)) (line : List Char) :
    commentBlock (above ++ [line]) =
      match commentPart? line with
      | some part => commentBlock above ++ [part]
      | none => [] := by
  rw [commentBlock, List.reverse_append, List.reverse_singleton, List.singleton_append,
    List.map_cons, List.takeWhile_cons, commentPart?, Option.filter_some]
  cases (Text.trimStart line).head? == some '#' with
  | true => exact List.reverse_cons
  | false => rfl

theorem mem_commentBlock {above : List (List Char)} {part : List Char}
    (h : part ∈ commentBlock above) : ∃ line ∈ above, commentPart? line = some part := by
  induction above using List.reverseRecOn with
  | nil => cases h
  | append_singleton above last ih =>
    rw [commentBlock_concat] at h
    cases hLast : commentPart? last with
    | none =>
      rw [hLast] at h
      cases h
    | some own =>
      rw [hLast] at h
      rcases List.mem_append.mp h with hAbove | hOwn
      · obtain ⟨line, hLine, hPart⟩ := ih hAbove
        exact ⟨line, List.mem_append_left _ hLine, hPart⟩
      · obtain rfl := List.mem_singleton.mp hOwn
        exact ⟨last, by simp, hLast⟩

def allComments (lines : List (List Char)) : Bool := lines.all fun line => (commentPart? line).isSome

theorem allComments_concat (lines : List (List Char)) (line : List Char) :
    allComments (lines ++ [line]) = (allComments lines && (commentPart? line).isSome) := by
  simp [allComments]

theorem commentBlock_append (above below : List (List Char)) :
    commentBlock (above ++ below) =
      if allComments below then commentBlock above ++ below.filterMap commentPart?
      else commentBlock below := by
  -- from the last line on, as a block is read upwards
  induction below using List.reverseRecOn with
  | nil => simp [allComments]
  | append_singleton below last ih =>
    rw [← List.append_assoc, commentBlock_concat, commentBlock_concat, ih, allComments_concat,
      List.filterMap_append]
    cases hLast : commentPart? last with
    | none => simp
    | some own =>
      cases allComments below <;> simp [hLast]

theorem commentBlock_change_iff (above : List (List Char)) (old new : List Char)
    (below : List (List Char)) :
    commentBlock (above ++ old :: below) = commentBlock (above ++ new :: below) ↔
      ¬(allComments below = true ∧ commentPart? old ≠ commentPart? new) := by
  have hSplit (line : List Char) : above ++ line :: below = (above ++ [line]) ++ below := by simp
  rw [hSplit old, hSplit new, commentBlock_append (above ++ [old]),
    commentBlock_append (above ++ [new])]
  cases allComments below with
  | false => simp
  | true =>
    rw [if_pos rfl, if_pos rfl, List.append_left_inj, commentBlock_concat, commentBlock_concat]
    cases commentPart? old <;> cases commentPart? new <;> simp

theorem whole_of_mem_commentBlock {above : List (List Char)}
    (hOneLine : ∀ line ∈ above, '\n' ∉ line) :
    ∀ part ∈ commentBlock above, part ≠ [] ∧ '\n' ∉ part := by
  intro part hPart
  obtain ⟨line, hLine, hSome⟩ := mem_commentBlock hPart
  obtain ⟨rfl, hHash⟩ := commentPart?_eq_some.mp hSome
  constructor
  · intro hEmpty
    rw [hEmpty] at hHash
    cases hHash
  · intro hBreak
    exact hOneLine line hLine ((List.dropWhile_suffix _).mem hBreak)

theorem splitOn_joined {block : List (List Char)}
    (hWhole : ∀ part ∈ block, part ≠ [] ∧ '\n' ∉ part) :
    ((List.intercalate ['\n'] block).splitOn '\n').filter (· ≠ []) = block := by
  by_cases hEmpty : block = []
  · rw [hEmpty]
    rfl
  · rw [List.splitOn_intercalate '\n' (fun part hPart => (hWhole part hPart).2) hEmpty,
      List.filter_eq_self]
    intro part hPart
    simpa using (hWhole part hPart).1

theorem joined_inj {block other : List (List Char)}
    (hBlock : ∀ part ∈ block, part ≠ [] ∧ '\n' ∉ part)
    (hOther : ∀ part ∈ other, part ≠ [] ∧ '\n' ∉ part) :
    String.ofList (List.intercalate ['\n'] block) =
      String.ofList (List.intercalate ['\n'] other) ↔ block = other := by
  constructor
  · intro hText
    have hJoined := String.ofList_injective hText
    rw [← splitOn_joined hBlock, hJoined, splitOn_joined hOther]
  · rintro rfl
    rfl

/-! ## Comments above marks -/

/-- Below the line that changes: the mark is the first on its line, no line between the two ends the
comment block, and the block does not go on in the same way. -/
def ShowsBelow (above : List (List Char)) (old new : List Char) (below : List (List Char))
    (mark : Mark) : Prop :=
  above.length < mark.line - 1 ∧ isFirstOnLine (above ++ old :: below) mark = true ∧
    allComments (below.take (mark.line - 1 - above.length - 1)) = true ∧
    commentPart? old ≠ commentPart? new

/-- On the line that changes: a mark below a comment block becomes the first on its line, or is so
no longer. -/
def ShowsOnLine (above : List (List Char)) (old new : List Char) (mark mark' : Mark) : Prop :=
  mark.line - 1 = above.length ∧ commentBlock above ≠ [] ∧
    startsLine (old.take mark.column) ≠ startsLine (new.take mark'.column)

def Shows (above : List (List Char)) (old new : List Char) (below : List (List Char))
    (mark mark' : Mark) : Prop :=
  ShowsBelow above old new below mark ∨ ShowsOnLine above old new mark mark'

section

variable {above below : List (List Char)} {old new : List Char} {mark mark' : Mark}

theorem comment_change_above (hRow : mark.line - 1 < above.length) :
    (placeAt (above ++ old :: below) mark).comment =
      (placeAt (above ++ new :: below) mark).comment := by
  rw [comment_placeAt, comment_placeAt, isFirstOnLine, isFirstOnLine,
    List.getElem?_append_left hRow, List.getElem?_append_left hRow,
    List.take_append_of_le_length (Nat.le_of_lt hRow),
    List.take_append_of_le_length (Nat.le_of_lt hRow)]

theorem comment_placeAt_changed (line : List Char) (hRow : mark.line - 1 = above.length) :
    (placeAt (above ++ line :: below) mark).comment =
      if startsLine (line.take mark.column) then
        String.ofList (List.intercalate ['\n'] (commentBlock above))
      else "" := by
  rw [comment_placeAt, isFirstOnLine, hRow, List.getElem?_append_right (Nat.le_refl _), Nat.sub_self,
    List.getElem?_cons_zero, Option.any_some, List.take_left]

theorem comment_change_on_line (hOneLine : ∀ line ∈ above, '\n' ∉ line)
    (hRow : mark.line - 1 = above.length) (hLine : mark'.line = mark.line) :
    (placeAt (above ++ old :: below) mark).comment =
        (placeAt (above ++ new :: below) mark').comment ↔
      ¬ShowsOnLine above old new mark mark' := by
  have hNone : ∀ part ∈ ([] : List (List Char)), part ≠ [] ∧ '\n' ∉ part := nofun
  have hEmpty : String.ofList (List.intercalate ['\n'] (commentBlock above)) = "" ↔
      commentBlock above = [] := joined_inj (whole_of_mem_commentBlock hOneLine) hNone
  rw [comment_placeAt_changed old hRow, comment_placeAt_changed new (hLine ▸ hRow)]
  by_cases hVerdict : startsLine (old.take mark.column) = startsLine (new.take mark'.column)
  · rw [hVerdict]
    exact iff_of_true rfl fun hShows => hShows.2.2 hVerdict
  · have hShows : ¬ShowsOnLine above old new mark mark' ↔ commentBlock above = [] := by
      simp [ShowsOnLine, hRow, hVerdict]
    rw [hShows, ← hEmpty]
    cases hFirst : startsLine (old.take mark.column) with
    | true =>
      have hFirst' : startsLine (new.take mark'.column) = false := by simpa [hFirst] using hVerdict
      rw [hFirst', if_pos rfl, if_neg Bool.false_ne_true]
    | false =>
      have hFirst' : startsLine (new.take mark'.column) = true := by simpa [hFirst] using hVerdict
      rw [hFirst', if_neg Bool.false_ne_true, if_pos rfl]
      exact eq_comm

theorem comment_change_below (hOld : ∀ line ∈ above ++ old :: below, '\n' ∉ line)
    (hNew : ∀ line ∈ above ++ new :: below, '\n' ∉ line) (hRow : above.length < mark.line - 1) :
    (placeAt (above ++ old :: below) mark).comment =
        (placeAt (above ++ new :: below) mark).comment ↔
      ¬ShowsBelow above old new below mark := by
  obtain ⟨gap, hGap⟩ := Nat.exists_eq_add_of_lt hRow
  have hBetween : mark.line - 1 - above.length - 1 = gap := by omega
  have hTake (line : List Char) : (above ++ line :: below).take (mark.line - 1) =
      above ++ line :: below.take gap := by
    rw [hGap, Nat.add_assoc, List.take_length_add_append, List.take_succ_cons]
  have hGet (line : List Char) : (above ++ line :: below)[mark.line - 1]? = below[gap]? := by
    rw [hGap, Nat.add_assoc, List.getElem?_append_right (Nat.le_add_right _ _),
      Nat.add_sub_cancel_left, List.getElem?_cons_succ]
  have hWhole {line : List Char} (h : ∀ other ∈ above ++ line :: below, '\n' ∉ other) :
      ∀ part ∈ commentBlock (above ++ line :: below.take gap), part ≠ [] ∧ '\n' ∉ part := by
    rw [← hTake]
    exact whole_of_mem_commentBlock fun other hOther => h other (List.mem_of_mem_take hOther)
  have hFirst : isFirstOnLine (above ++ new :: below) mark =
      isFirstOnLine (above ++ old :: below) mark := by
    rw [isFirstOnLine, isFirstOnLine, hGet, hGet]
  rw [comment_placeAt, comment_placeAt, hFirst, hTake, hTake]
  cases hHere : isFirstOnLine (above ++ old :: below) mark with
  | false =>
    have hNot : ¬ShowsBelow above old new below mark := by simp [ShowsBelow, hHere]
    exact iff_of_true rfl hNot
  | true =>
    rw [if_pos rfl, if_pos rfl, joined_inj (hWhole hOld) (hWhole hNew), commentBlock_change_iff]
    simp [ShowsBelow, hRow, hHere, hBetween]

theorem placeAt_congr (lines : List (List Char)) (hLine : mark'.line = mark.line)
    (hColumn : mark'.column = mark.column) : placeAt lines mark' = placeAt lines mark := by
  rw [placeAt, placeAt, hLine, hColumn]

theorem comment_change_iff (hOld : ∀ line ∈ above ++ old :: below, '\n' ∉ line)
    (hNew : ∀ line ∈ above ++ new :: below, '\n' ∉ line) (hLine : mark'.line = mark.line)
    (hColumn : mark.line - 1 ≠ above.length → mark'.column = mark.column) :
    (placeAt (above ++ old :: below) mark).comment =
        (placeAt (above ++ new :: below) mark').comment ↔
      ¬Shows above old new below mark mark' := by
  rw [Shows]
  rcases Nat.lt_trichotomy (mark.line - 1) above.length with hRow | hRow | hRow
  · rw [placeAt_congr _ hLine (hColumn (Nat.ne_of_lt hRow))]
    refine iff_of_true (comment_change_above hRow) ?_
    rintro (⟨hBelow, -⟩ | ⟨hHere, -⟩)
    · exact Nat.lt_asymm hRow hBelow
    · exact Nat.ne_of_lt hRow hHere
  · rw [comment_change_on_line (fun line hMem => hOld line (List.mem_append_left _ hMem)) hRow hLine,
      or_iff_right fun hShows => Nat.ne_of_gt hShows.1 hRow]
  · rw [placeAt_congr _ hLine (hColumn (Nat.ne_of_gt hRow)), comment_change_below hOld hNew hRow,
      or_iff_left fun hShows => Nat.ne_of_gt hRow hShows.1]

theorem not_shows_of_no_comment (hOld : commentPart? old = none) (hNew : commentPart? new = none)
    (hVerdict : mark.line - 1 = above.length →
      startsLine (old.take mark.column) = startsLine (new.take mark'.column)) :
    ¬Shows above old new below mark mark' := by
  rintro (⟨-, -, -, hParts⟩ | ⟨hRow, -, hVerdicts⟩)
  · exact hParts (hOld.trans hNew.symm)
  · exact hVerdicts (hVerdict hRow)

end

/-! ## Documents -/

def sourceEvents (source : String) : EventStream :=
  EventStream.ofText (Text.unifyLineEnds source.toList)

/-- An event that keeps its kind and its line, and its column unless it stands on the line that
changes. -/
structure PlacedEvent.Keeps (row : Nat) (e e' : PlacedEvent) : Prop where
  event : e.event.withoutText = e'.event.withoutText
  line : e'.mark.line = e.mark.line
  column : e.mark.line - 1 ≠ row → e'.mark.column = e.mark.column

instance (row : Nat) (e e' : PlacedEvent) : Decidable (e.Keeps row e') :=
  decidable_of_iff (e.event.withoutText = e'.event.withoutText ∧ e'.mark.line = e.mark.line ∧
      (e.mark.line - 1 ≠ row → e'.mark.column = e.mark.column))
    ⟨fun ⟨hEvent, hLine, hColumn⟩ => ⟨hEvent, hLine, hColumn⟩,
      fun ⟨hEvent, hLine, hColumn⟩ => ⟨hEvent, hLine, hColumn⟩⟩

/-- Two sources that differ in one line and have the same structure: the same events, but for the
texts of scalars, at the same places. -/
structure LineChange (source other : String) (above : List (List Char)) (old new : List Char)
    (below : List (List Char)) : Prop where
  lines : sourceLines source = above ++ old :: below
  linesOther : sourceLines other = above ++ new :: below
  wellFormed : (sourceEvents source).error = none
  wellFormedOther : (sourceEvents other).error = none
  events : List.Forall₂ (PlacedEvent.Keeps above.length) (sourceEvents source).events
    (sourceEvents other).events

def eventPairs (source other : String) : List (PlacedEvent × PlacedEvent) :=
  (sourceEvents source).events.zip (sourceEvents other).events

/-- Two sources have trees of the same nodes with the same comments, and pruning leaves the same of
them. -/
structure SameTrees (source other : String) : Prop where
  loaded : (Node.load source).map (Option.map Node.skeleton) =
    (Node.load other).map (Option.map Node.skeleton)
  pruned : (Node.load source).map (Option.map fun root => root.prune.skeleton) =
    (Node.load other).map (Option.map fun root => root.prune.skeleton)

theorem Node.load_eq_ofEvents {source : String} (h : (sourceEvents source).error = none) :
    Node.load source = (Node.ofEvents (sourceLines source) (sourceEvents source).events).mapError
      LoadError.unresolvedAlias := by
  unfold Node.load
  dsimp only
  rw [← sourceEvents, h]
  rfl

namespace LineChange

variable {source other : String} {above below : List (List Char)} {old new : List Char}

theorem comment_iff (h : LineChange source other above old new below) {e e' : PlacedEvent}
    (hPair : (e, e') ∈ eventPairs source other) :
    (placeAt (sourceLines source) e.mark).comment = (placeAt (sourceLines other) e'.mark).comment ↔
      ¬Shows above old new below e.mark e'.mark := by
  have hKeeps := List.forall₂_zip h.events hPair
  have hOneLine (text : String) : ∀ line ∈ sourceLines text, '\n' ∉ line :=
    fun line => Text.not_mem_of_mem_lines
  have hOld := hOneLine source
  have hNew := hOneLine other
  rw [h.lines] at hOld ⊢
  rw [h.linesOther] at hNew ⊢
  exact comment_change_iff hOld hNew hKeeps.line hKeeps.column

theorem skeleton_load (h : LineChange source other above old new below)
    (hQuiet : ∀ e e', (e, e') ∈ eventPairs source other → e.event.isEnd = false →
      ¬Shows above old new below e.mark e'.mark) :
    (Node.load source).map (Option.map Node.skeleton) =
      (Node.load other).map (Option.map Node.skeleton) := by
  have hMatches : List.Forall₂ (PlacedEvent.Matches (sourceLines source) (sourceLines other))
      (sourceEvents source).events (sourceEvents other).events := by
    refine List.forall₂_iff_zip.mpr ⟨h.events.length_eq, fun {e e'} hPair => ?_⟩
    have hKeeps := List.forall₂_zip h.events hPair
    refine ⟨hKeeps.event, fun hNode => ?_⟩
    have hComment := (h.comment_iff hPair).mpr (hQuiet e e' hPair hNode)
    rw [Place.skeleton, Place.skeleton, hComment]
    exact congrArg (fun line => Place.mk line 0 _) hKeeps.line.symm
  have hMap (built : Except UnresolvedAlias (Option Node)) :
      (built.mapError LoadError.unresolvedAlias).map (Option.map Node.skeleton) =
        (built.map (Option.map Node.skeleton)).mapError LoadError.unresolvedAlias := by
    cases built <;> rfl
  rw [Node.load_eq_ofEvents h.wellFormed, Node.load_eq_ofEvents h.wellFormedOther, hMap, hMap,
    Node.skeleton_ofEvents_congr hMatches]

theorem skeleton_prune_load
    (hTrees : (Node.load source).map (Option.map Node.skeleton) =
      (Node.load other).map (Option.map Node.skeleton)) :
    (Node.load source).map (Option.map fun root => root.prune.skeleton) =
      (Node.load other).map (Option.map fun root => root.prune.skeleton) := by
  have hPrune (loaded : Except LoadError (Option Node)) :
      loaded.map (Option.map fun root => root.prune.skeleton) =
        (loaded.map (Option.map Node.skeleton)).map (Option.map Node.prune) := by
    rcases loaded with e | _ | root
    · rfl
    · rfl
    · exact congrArg (fun n => Except.ok (some n)) root.prune_skeleton.symm
  rw [hPrune, hPrune, hTrees]

theorem sameTrees (h : LineChange source other above old new below)
    (hQuiet : ∀ e e', (e, e') ∈ eventPairs source other → e.event.isEnd = false →
      ¬Shows above old new below e.mark e'.mark) : SameTrees source other :=
  ⟨h.skeleton_load hQuiet, skeleton_prune_load (h.skeleton_load hQuiet)⟩

theorem isComment_of_commentPart?_eq_none {line : List Char} (h : commentPart? line = none) :
    Comment.isComment line = false := by
  rw [commentPart?_eq_map, Option.map_eq_none_iff] at h
  rw [Comment.isComment, Comment.bareText?, h]
  rfl

theorem collect_eq (hOld : commentPart? old = none) (hNew : commentPart? new = none)
    {text text' : String} (hText : Text.lines text.toList = above ++ old :: below)
    (hText' : Text.lines text'.toList = above ++ new :: below) :
    Descriptions.collect text = Descriptions.collect text' := by
  rw [Descriptions.collect_eq_foldl, Descriptions.collect_eq_foldl, hText, hText',
    Descriptions.keyedRuns, Descriptions.keyedRuns, Comment.runs, Comment.runs,
    Comment.pieces_append (isComment_of_commentPart?_eq_none hOld),
    Comment.pieces_append (isComment_of_commentPart?_eq_none hNew)]

/-- A line counts for the comment above a node as far as it begins with a hash, whatever it belongs
to. The comment above a mark changes with the line exactly where that shows. Where it shows above no
node, every node keeps its comment and pruning leaves the same. When neither the line nor its
successor begins with a hash, only what begins on the line itself can be affected, and the
descriptions that are collected stay the same. -/
theorem shows_exactly (h : LineChange source other above old new below) :
    (∀ e e', (e, e') ∈ eventPairs source other →
      ((placeAt (sourceLines source) e.mark).comment =
          (placeAt (sourceLines other) e'.mark).comment ↔
        ¬Shows above old new below e.mark e'.mark)) ∧
    ((∀ e e', (e, e') ∈ eventPairs source other → e.event.isEnd = false →
      ¬Shows above old new below e.mark e'.mark) → SameTrees source other) ∧
    (commentPart? old = none → commentPart? new = none →
      ((∀ e e', (e, e') ∈ eventPairs source other → e.event.isEnd = false →
        e.mark.line - 1 = above.length →
          startsLine (old.take e.mark.column) = startsLine (new.take e'.mark.column)) →
        SameTrees source other) ∧
      ∀ text text' : String, Text.lines text.toList = above ++ old :: below →
        Text.lines text'.toList = above ++ new :: below →
          Descriptions.collect text = Descriptions.collect text') := by
  refine ⟨fun e e' hPair => h.comment_iff hPair, h.sameTrees, fun hOld hNew => ⟨?_, ?_⟩⟩
  · intro hVerdict
    exact h.sameTrees fun e e' hPair hNode =>
      not_shows_of_no_comment hOld hNew (hVerdict e e' hPair hNode)
  · intro text text' hText hText'
    exact collect_eq hOld hNew hText hText'

theorem shows_exactly_for_plain_words :
    SameTrees "a: |\n  text\nb: 1\n" "a: |\n  word\nb: 1\n" ∧
      Descriptions.collect "a: |\n  text\nb: 1\n" =
        Descriptions.collect "a: |\n  word\nb: 1\n" := by
  have hChange : LineChange "a: |\n  text\nb: 1\n" "a: |\n  word\nb: 1\n" ["a: |".toList]
      "  text".toList "  word".toList ["b: 1".toList] :=
    ⟨by decide +kernel, by decide +kernel, by decide +kernel, by decide +kernel,
      by decide +kernel⟩
  have hVerdicts : ∀ pair ∈ eventPairs "a: |\n  text\nb: 1\n" "a: |\n  word\nb: 1\n",
      startsLine ("  text".toList.take pair.1.mark.column) =
        startsLine ("  word".toList.take pair.2.mark.column) := by
    decide +kernel
  obtain ⟨-, -, hPlain⟩ := hChange.shows_exactly
  obtain ⟨hTrees, hCollected⟩ := hPlain (by decide) (by decide)
  exact ⟨hTrees fun e e' hPair _ _ => hVerdicts (e, e') hPair,
    hCollected _ _ (by decide +kernel) (by decide +kernel)⟩

/-- A line of a literal is taken for the comment above the key that follows it. -/
theorem literal_line_taken_for_comment :
    LineChange "a: |\n  text\nb: 1\n" "a: |\n  # b -- @ignore\nb: 1\n" ["a: |".toList]
        "  text".toList "  # b -- @ignore".toList ["b: 1".toList] ∧
      (∃ root root', Node.load "a: |\n  text\nb: 1\n" = .ok (some root) ∧
        Node.load "a: |\n  # b -- @ignore\nb: 1\n" = .ok (some root') ∧
        (root.get? "a").map Node.text = some "text\n" ∧
        (root'.get? "a").map Node.text = some "# b -- @ignore\n" ∧
        root.entries?.map (List.map (·.1.place.comment)) = some ["", ""] ∧
        root'.entries?.map (List.map (·.1.place.comment)) = some ["", "# b -- @ignore"] ∧
        root.prune.entries?.map (List.map (·.1.text)) = some ["a", "b"] ∧
        root'.prune.entries?.map (List.map (·.1.text)) = some ["a"]) ∧
      (Descriptions.collect "a: |\n  text\nb: 1\n").contains "b" = false ∧
      (Descriptions.collect "a: |\n  # b -- @ignore\nb: 1\n").contains "b" = true := by
  refine ⟨⟨by decide +kernel, by decide +kernel, by decide +kernel, by decide +kernel,
    by decide +kernel⟩, ?_, by decide +kernel, by decide +kernel⟩
  obtain ⟨root, hLoad, hTest⟩ := Node.exists_load "a: |\n  text\nb: 1\n"
    (fun root => decide ((root.get? "a").map Node.text = some "text\n" ∧
      root.entries?.map (List.map (·.1.place.comment)) = some ["", ""] ∧
      root.prune.entries?.map (List.map (·.1.text)) = some ["a", "b"])) (by decide +kernel)
  obtain ⟨root', hLoad', hTest'⟩ := Node.exists_load "a: |\n  # b -- @ignore\nb: 1\n"
    (fun root => decide ((root.get? "a").map Node.text = some "# b -- @ignore\n" ∧
      root.entries?.map (List.map (·.1.place.comment)) = some ["", "# b -- @ignore"] ∧
      root.prune.entries?.map (List.map (·.1.text)) = some ["a"])) (by decide +kernel)
  obtain ⟨hText, hComments, hKeys⟩ := of_decide_eq_true hTest
  obtain ⟨hText', hComments', hKeys'⟩ := of_decide_eq_true hTest'
  exact ⟨root, root', hLoad, hLoad', hText, hText', hComments, hComments', hKeys, hKeys'⟩

end LineChange

end ConfigReference.Yaml
