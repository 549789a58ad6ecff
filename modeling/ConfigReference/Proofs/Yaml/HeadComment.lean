import ConfigReference.Proofs.Comment.Margins
import ConfigReference.Proofs.Yaml.LineChange
import ConfigReference.Proofs.Yaml.Places

/-!
# The two readers of a comment run

A run of comment lines is read twice: with the other runs of its source, under the key of its last
header, and as the comment of the node below it. The node has the lines as one text, without blanks
in front, and that text is cut into lines again. Both readers find the same key, so that a run is
used by one of them at most; they find the same description unless carriage returns are left at the
ends of lines, which the second cut takes off.
-/

set_option autoImplicit false

namespace ConfigReference

/-! ## Comments without a key -/

/-- The description that a block gives for what it stands above. -/
def Description.ofBlock : Option (String × Description) → Description
  | some (key, d) => if key.isEmpty then d else {}
  | none => {}

theorem Comment.contains_dashes_of_headerKey? {s line : List Char} (hLine : line ∈ Text.lines s)
    (h : (headerKey? line).isSome = true) : Text.contains ['-', '-'] s = true := by
  obtain ⟨before, b, after, hParts, -⟩ := (isSome_headerKey?.mp h).exists_blank
  have hDashes : ['-', '-'] <:+: line := by
    rw [hParts]
    exact ⟨before ++ [b], after, by simp⟩
  exact Text.contains_eq_true_iff.mpr (hDashes.trans (Text.infix_of_mem_lines hLine))

/-- A comment without two dashes has no header, so that it need not be read. -/
theorem Description.ofComment_eq_ofBlock (comment : String) :
    ofComment comment = ofBlock (Comment.parse (Text.lines comment.toList)) := by
  cases hDashes : Text.contains ['-', '-'] comment.toList with
  | true =>
    simp only [ofComment, hDashes]
    rfl
  | false =>
    have hNone : Comment.lastHeader? (Text.lines comment.toList) = none := by
      rw [Comment.lastHeader?_eq_none]
      intro line hLine
      rw [← Option.not_isSome_iff_eq_none]
      intro hHeader
      rw [Comment.contains_dashes_of_headerKey? hLine hHeader] at hDashes
      cases hDashes
    simp only [ofComment, hDashes, Comment.parse, hNone]
    rfl

namespace Yaml

open Comment Text

/-! ## The comment below a run -/

theorem isComment_eq_isSome_commentPart? {line : List Char} (hOneLine : '\n' ∉ line) :
    isComment line = (commentPart? line).isSome := by
  rw [isComment_eq_isSome_afterMark? hOneLine, commentPart?_eq_map, Option.isSome_map]

theorem isComment_dropCarriageReturn {line : List Char} (hOneLine : '\n' ∉ line) :
    isComment (dropCarriageReturn line) = isComment line := by
  have hDropped : '\n' ∉ dropCarriageReturn line :=
    fun hBreak => hOneLine (mem_of_mem_dropCarriageReturn hBreak)
  rw [isComment_eq_isSome_afterMark? hOneLine, isComment_eq_isSome_afterMark? hDropped,
    afterMark?_dropCarriageReturn, Option.isSome_map]

theorem commentBlock_of_run {front run : List (List Char)}
    (hFront : ∀ line ∈ front.getLast?, commentPart? line = none)
    (hRun : ∀ line ∈ run, (commentPart? line).isSome = true) :
    commentBlock (front ++ run) = run.map trimStart := by
  have hNone : commentBlock front = [] := by
    rcases List.eq_nil_or_concat front with rfl | ⟨init, last, rfl⟩
    · rfl
    · rw [List.concat_eq_append, commentBlock_concat, hFront last (by simp)]
  have hParts : run.filterMap commentPart? = run.map trimStart := by
    rw [List.filterMap_congr (g := fun line => some (trimStart line)), List.filterMap_eq_map']
    intro line hLine
    obtain ⟨part, hPart⟩ := Option.isSome_iff_exists.mp (hRun line hLine)
    rw [hPart, (commentPart?_eq_some.mp hPart).1]
  rw [commentBlock_append, if_pos (by simpa [allComments] using hRun), hNone, hParts,
    List.nil_append]

theorem headComment_of_ne_empty {above : List (List Char)} {line column : Nat}
    (h : headComment above line column ≠ "") :
    line - 1 < above.length ∧ headComment above line column =
      .ofList (List.intercalate ['\n'] (commentBlock (above.take (line - 1)))) := by
  rw [headComment] at h ⊢
  cases hCurrent : above[line - 1]? with
  | none => simp [hCurrent] at h
  | some current =>
    simp only [hCurrent] at h ⊢
    split at h
    · rename_i hFirst
      exact ⟨(List.getElem?_eq_some_iff.mp hCurrent).1, if_pos hFirst⟩
    · exact absurd rfl h

section

variable {source : String} {front run back : List (List Char)}

theorem not_mem_of_isRun (hRun : IsRun (lines source.toList) front run back) {line : List Char}
    (hLine : line ∈ front ++ run) : '\n' ∉ line := by
  apply not_mem_of_mem_lines (s := source.toList)
  rw [hRun.split, ← List.append_assoc]
  exact List.mem_append_left _ hLine

theorem take_sourceLines_of_isRun (hRun : IsRun (lines source.toList) front run back)
    (hBelow : (front ++ run).length < (sourceLines source).length) :
    (sourceLines source).take (front ++ run).length =
      front.map dropCarriageReturn ++ run.map dropCarriageReturn := by
  rw [sourceLines, length_lines_unifyLineEnds] at hBelow
  rw [sourceLines, take_lines_unifyLineEnds hBelow, hRun.split, ← List.append_assoc,
    List.take_left, List.map_append]

theorem commentBlock_of_isRun (hRun : IsRun (lines source.toList) front run back) :
    commentBlock (front.map dropCarriageReturn ++ run.map dropCarriageReturn) =
      (run.map dropCarriageReturn).map trimStart := by
  have hSome {line : List Char} (hLine : line ∈ front ++ run) :
      (commentPart? (dropCarriageReturn line)).isSome = isComment line := by
    have hOneLine := not_mem_of_isRun hRun hLine
    rw [← isComment_dropCarriageReturn hOneLine, isComment_eq_isSome_commentPart?]
    exact fun hBreak => hOneLine (mem_of_mem_dropCarriageReturn hBreak)
  apply commentBlock_of_run
  · intro other hOther
    rw [List.getLast?_map] at hOther
    obtain ⟨line, hLine, rfl⟩ := Option.map_eq_some_iff.mp hOther
    have hFront := List.mem_append_left run (List.mem_of_getLast? hLine)
    rw [← Option.not_isSome_iff_eq_none, hSome hFront, hRun.front line hLine]
    exact Bool.false_ne_true
  · intro other hOther
    obtain ⟨line, hLine, rfl⟩ := List.mem_map.mp hOther
    rw [hSome (List.mem_append_right _ hLine)]
    exact hRun.comments line hLine

theorem comment_of_isRun {root : Node} (hLoad : Node.load source = .ok (some root)) {p : Place}
    (hp : p ∈ root.places) (hComment : p.comment ≠ "")
    (hRun : IsRun (lines source.toList) front run back)
    (hLine : p.line = (front ++ run).length + 1) :
    (front ++ run).length < (sourceLines source).length ∧
      p.comment = .ofList (List.intercalate ['\n']
        ((run.map dropCarriageReturn).map trimStart)) := by
  obtain ⟨column, hColumn⟩ := (Node.hasLineComment_of_load hLoad hp).resolve_left hComment
  rw [hColumn] at hComment ⊢
  obtain ⟨hBelow, hText⟩ := headComment_of_ne_empty hComment
  rw [hLine, Nat.add_sub_cancel] at hBelow
  rw [hText, hLine, Nat.add_sub_cancel, take_sourceLines_of_isRun hRun hBelow,
    commentBlock_of_isRun hRun]
  exact ⟨hBelow, rfl⟩

theorem lines_of_isRun (hRun : IsRun (lines source.toList) front run back) :
    lines (List.intercalate ['\n'] ((run.map dropCarriageReturn).map trimStart)) =
      withoutReturns ((run.map dropCarriageReturn).map trimStart) := by
  have hOneLine : ∀ other ∈ front.map dropCarriageReturn ++ run.map dropCarriageReturn,
      '\n' ∉ other := by
    intro other hOther
    rw [← List.map_append] at hOther
    obtain ⟨line, hLine, rfl⟩ := List.mem_map.mp hOther
    exact fun hBreak => not_mem_of_isRun hRun hLine (mem_of_mem_dropCarriageReturn hBreak)
  have hWhole := whole_of_mem_commentBlock hOneLine
  rw [commentBlock_of_isRun hRun] at hWhole
  exact lines_intercalate (fun part hPart => (hWhole part hPart).2)
    fun part hLast => (hWhole part (List.mem_of_getLast? hLast)).1

theorem parse_withoutReturns_trimStart (block : List (List Char)) :
    parse (withoutReturns (block.map trimStart)) = parse (withoutReturns block) := by
  apply parse_eq_of_map_afterMark?
  rcases List.eq_nil_or_concat block with rfl | ⟨init, last, rfl⟩
  · rfl
  · simp [withoutReturns, afterMark?_trimStart, afterMark?_dropCarriageReturn]

theorem map_fst_parse_withoutReturns (block : List (List Char)) :
    (parse (withoutReturns block)).map (·.1) = (parse block).map (·.1) := by
  apply map_fst_parse_congr
  rcases List.eq_nil_or_concat block with rfl | ⟨init, last, rfl⟩
  · rfl
  · simp [withoutReturns, headerKey?_dropCarriageReturn]

theorem map_fst_parse_dropCarriageReturn (block : List (List Char)) :
    (parse (block.map dropCarriageReturn)).map (·.1) = (parse block).map (·.1) := by
  apply map_fst_parse_congr
  simp [headerKey?_dropCarriageReturn]

theorem isRun_sourceLines (hRun : IsRun (lines source.toList) front run back)
    (hBelow : (front ++ run).length < (sourceLines source).length) :
    ∃ below, IsRun (sourceLines source) (front.map dropCarriageReturn)
      (run.map dropCarriageReturn) below := by
  have hKept {line : List Char} (hLine : line ∈ front ++ run) :
      isComment (dropCarriageReturn line) = isComment line :=
    isComment_dropCarriageReturn (not_mem_of_isRun hRun hLine)
  have hSame : (sourceLines source).map isComment = (lines source.toList).map isComment := by
    apply map_lines_unifyLineEnds
    intro piece hPiece
    apply isComment_dropCarriageReturn
    exact fun hBreak => not_mem_of_mem_splitOn hPiece (mem_of_mem_dropCarriageReturn hBreak)
  refine ⟨(sourceLines source).drop (front ++ run).length, ?_, ?_, ?_, ?_⟩
  · rw [← List.append_assoc, ← take_sourceLines_of_isRun hRun hBelow, List.take_append_drop]
  · intro other hOther
    obtain ⟨line, hLine, rfl⟩ := List.mem_map.mp hOther
    rw [hKept (List.mem_append_right _ hLine)]
    exact hRun.comments line hLine
  · intro other hOther
    rw [List.getLast?_map] at hOther
    obtain ⟨line, hLine, rfl⟩ := Option.map_eq_some_iff.mp hOther
    rw [hKept (List.mem_append_left _ (List.mem_of_getLast? hLine))]
    exact hRun.front line hLine
  · intro other hOther
    rw [List.head?_drop, Option.mem_def] at hOther
    have hNext := congrArg (·[(front ++ run).length]?) hSame
    simp only [List.getElem?_map, hOther, Option.map_some] at hNext
    rw [hRun.split, ← List.append_assoc, List.getElem?_append_right (Nat.le_refl _), Nat.sub_self,
      ← List.head?_eq_getElem?] at hNext
    obtain ⟨line, hLine, hComment⟩ := Option.map_eq_some_iff.mp hNext.symm
    rw [← hComment]
    exact hRun.back line hLine

end

/-! ## One use -/

/-- What becomes of a run of comment lines of a source when `p` is below it and has its comment. -/
structure RunUse (source : String) (p : Place) (front run back : List (List Char)) : Prop where
  /-- The place goes by lines of which the run is one run, too. -/
  seen : ∃ below, IsRun (sourceLines source) (front.map dropCarriageReturn)
    (run.map dropCarriageReturn) below
  comment : p.comment = .ofList (List.intercalate ['\n']
    ((run.map dropCarriageReturn).map trimStart))
  /-- Only carriage returns at the ends of lines are lost on the way. -/
  read : parse (lines p.comment.toList) = parse (withoutReturns (run.map dropCarriageReturn))
  readSame : (∀ line ∈ run, line.getLast? ≠ some '\r') → parse (lines p.comment.toList) = parse run
  key : (parse (lines p.comment.toList)).map (·.1) = (parse run).map (·.1)
  collected : Descriptions.collect source = .ofList (Descriptions.keyedRuns front ++
    (Descriptions.keyed? run).toList ++ Descriptions.keyedRuns back)
  /-- The run is recorded exactly when it has a key that is not empty. -/
  recorded : (Descriptions.keyed? run).isSome = true ↔
    ∃ key, (parse run).map (·.1) = some key ∧ key ≠ ""
  once : (Descriptions.keyed? run).isSome = true → Description.ofComment p.comment = {}

theorem isSome_keyed?_iff (block : List (List Char)) :
    (Descriptions.keyed? block).isSome = true ↔
      ∃ key, (parse block).map (·.1) = some key ∧ key ≠ "" := by
  rw [Descriptions.keyed?]
  cases parse block with
  | none => simp
  | some e => by_cases hKey : e.1 = "" <;> simp [Option.filter, hKey]

/-- A comment run is read with its key by one reader and without a key by the other, never by both.
A comment that has no two dashes is skipped, which makes no difference. -/
theorem comment_run_used_once {source : String} {root : Node}
    (hLoad : Node.load source = .ok (some root)) {p : Place} (hp : p ∈ root.places)
    (hComment : p.comment ≠ "") {front run back : List (List Char)}
    (hRun : IsRun (lines source.toList) front run back)
    (hLine : p.line = (front ++ run).length + 1) :
    RunUse source p front run back ∧
      ∀ comment : String,
        Description.ofComment comment = .ofBlock (parse (lines comment.toList)) := by
  obtain ⟨hBelow, hText⟩ := comment_of_isRun hLoad hp hComment hRun hLine
  have hRead : parse (lines p.comment.toList) =
      parse (withoutReturns (run.map dropCarriageReturn)) := by
    rw [hText, String.toList_ofList, lines_of_isRun hRun, parse_withoutReturns_trimStart]
  -- the text may change with a carriage return, the key does not
  have hKey : (parse (lines p.comment.toList)).map (·.1) = (parse run).map (·.1) := by
    rw [hRead, map_fst_parse_withoutReturns, map_fst_parse_dropCarriageReturn]
  have hSome : run ≠ [] := by
    rintro rfl
    exact hComment hText
  refine ⟨⟨isRun_sourceLines hRun hBelow, hText, hRead, ?_, hKey, ?_, isSome_keyed?_iff run, ?_⟩,
    Description.ofComment_eq_ofBlock⟩
  · intro hNoReturn
    rw [hRead, map_dropCarriageReturn_eq_self hNoReturn, withoutReturns_eq_self hNoReturn]
  · rw [← Descriptions.keyedRuns_of_isRun hRun hSome]
    exact Descriptions.collect_eq_foldl source
  · intro hKeyed
    obtain ⟨key, hFirst, hNotEmpty⟩ := (isSome_keyed?_iff run).mp hKeyed
    rw [← hKey] at hFirst
    obtain ⟨e, hParse, rfl⟩ := Option.map_eq_some_iff.mp hFirst
    rw [Description.ofComment_eq_ofBlock, hParse]
    exact if_neg (by simpa using hNotEmpty)

theorem comment_run_used_once_above_key :
    ∃ p : Place, RunUse "# -- about\n  # it\na: 1\n" p []
        ["# -- about".toList, "  # it".toList] ["a: 1".toList] ∧
      Description.ofComment p.comment = { text := "about it" } := by
  obtain ⟨root, hLoad, hPlace⟩ := Node.exists_load "# -- about\n  # it\na: 1\n"
    (fun root => decide (⟨3, 1, "# -- about\n# it"⟩ ∈ root.places)) (by decide +kernel)
  have hRun : IsRun (lines "# -- about\n  # it\na: 1\n".toList) []
      ["# -- about".toList, "  # it".toList] ["a: 1".toList] :=
    ⟨by decide +kernel, by decide +kernel, by decide +kernel, by decide +kernel⟩
  exact ⟨_, (comment_run_used_once hLoad (of_decide_eq_true hPlace) (by decide) hRun rfl).1,
    by decide +kernel⟩

/-- The name of a flag needs a blank behind it, and loses the carriage return that was one. -/
theorem flag_lost_with_return :
    let source := "\r\r\rfoo: 1\n# -- @hidden\r\r\r\n# x\nbar: 2\n"
    let run := ["# -- @hidden\r\r".toList, "# x".toList]
    let p : Place := ⟨4, 1, "# -- @hidden\r\n# x"⟩
    (∃ root, Node.load source = .ok (some root) ∧ p ∈ root.places) ∧
      IsRun (lines source.toList) ["\r\r\rfoo: 1".toList] run ["bar: 2".toList] ∧
      parse run = some ("", { text := "x", hidden := true }) ∧
      parse (run.map dropCarriageReturn) = some ("", { text := "x", hidden := true }) ∧
      parse (lines p.comment.toList) = some ("", { text := "@hidden x" }) ∧
      Description.ofComment p.comment = { text := "@hidden x" } := by
  intro source run p
  refine ⟨?_, ⟨by decide +kernel, by decide +kernel, by decide +kernel, by decide +kernel⟩,
    by decide +kernel, by decide +kernel, by decide +kernel, by decide +kernel⟩
  obtain ⟨root, hLoad, hPlace⟩ := Node.exists_load source (fun root => decide (p ∈ root.places))
    (by decide +kernel)
  exact ⟨root, hLoad, of_decide_eq_true hPlace⟩

end Yaml

end ConfigReference
