import ConfigReference.Comment.Collect
import ConfigReference.Proofs.Comment.Runs
import ConfigReference.Proofs.KeyedMap

/-!
# Collecting the blocks of a source

A run of comment lines that is as long as it can be is one block. Collecting begins a block only at
the first line of a run that gives a key, and that makes no difference: what is recorded depends on
the last header alone.
-/

set_option autoImplicit false

namespace ConfigReference

namespace Descriptions

open Comment

def keyed? (block : List (List Char)) : Option (String × Description) :=
  (parse block).filter (·.1 ≠ "")

theorem record_eq (found : Descriptions) (block : List (List Char)) :
    found.record block = ((keyed? block).map fun e => found.insert e.1 e.2).getD found := by
  rw [record, keyed?]
  cases parse block with
  | none => rfl
  | some e =>
    obtain ⟨key, d⟩ := e
    by_cases hKey : key = ""
    · simp [Option.filter, hKey]
    · have hSome : key.isEmpty = false := by simpa using hKey
      simp [Option.filter, hKey, hSome]

theorem opensBlock_of_keyed? {block : List (List Char)} (h : (keyed? block).isSome = true) :
    ∃ above header below, block = above ++ header :: below ∧ opensBlock header = true := by
  obtain ⟨e, hKeyed⟩ := Option.isSome_iff_exists.mp h
  obtain ⟨hParse, hSome⟩ := Option.filter_eq_some_iff.mp hKeyed
  have hKey := map_fst_parse block
  rw [hParse] at hKey
  obtain ⟨⟨header, below⟩, hLast, hHeader⟩ := Option.bind_eq_some_iff.mp hKey.symm
  obtain ⟨key, hHeaderKey, hEq⟩ := Option.map_eq_some_iff.mp hHeader
  obtain ⟨above, rfl, -, -⟩ := exists_of_lastHeader? hLast
  refine ⟨above, header, below, rfl, ?_⟩
  have hNotEmpty : key ≠ [] := by
    rintro rfl
    simp [← hEq] at hSome
  simp [opensBlock, hHeaderKey, hNotEmpty]

/-- The part of a run that is kept while the run is read: from the first line on that opens a
block. -/
def kept (run : List (List Char)) : List (List Char) := run.dropWhile (!opensBlock ·)

theorem keyed?_kept (run : List (List Char)) : keyed? (kept run) = keyed? run := by
  have hSplit : run = run.takeWhile (!opensBlock ·) ++ kept run :=
    List.takeWhile_append_dropWhile.symm
  cases hKept : kept run with
  | nil =>
    -- no line opens a block, so that no header of the run has a key
    have hNone : ∀ line ∈ run, opensBlock line = false := by
      intro line hLine
      rw [hKept, List.append_nil] at hSplit
      rw [hSplit] at hLine
      simpa using List.all_eq_true.mp List.all_takeWhile line hLine
    cases hKeyed : keyed? run with
    | none => rfl
    | some e =>
      obtain ⟨above, header, below, rfl, hOpens⟩ := opensBlock_of_keyed? (by rw [hKeyed]; rfl)
      rw [hNone header (by simp)] at hOpens
      cases hOpens
  | cons opener below =>
    have hOpens : opensBlock opener = true := by
      have hHead := List.head?_dropWhile_not (!opensBlock ·) run
      rw [← kept, hKept] at hHead
      simpa using hHead
    have hHeader : (lastHeader? (opener :: below)).isSome = true := by
      rw [Option.isSome_iff_ne_none]
      intro hNone
      have hKey := lastHeader?_eq_none.mp hNone opener List.mem_cons_self
      simp [opensBlock, hKey] at hOpens
    rw [hKept] at hSplit
    rw [hSplit, keyed?, keyed?, parse_append hHeader]

theorem record_kept (found : Descriptions) (run : List (List Char)) :
    found.record (kept run) = found.record run := by
  rw [record_eq, record_eq, keyed?_kept]

theorem opensBlock_of_not_isComment {line : List Char} (h : isComment line = false)
    (hOneLine : '\n' ∉ line) : opensBlock line = false := by
  cases hKey : headerKey? line with
  | none => simp [opensBlock, hKey]
  | some key =>
    rw [isComment_of_headerKey? hKey hOneLine] at h
    cases h

theorem kept_concat (run : List (List Char)) (line : List Char) :
    kept (run ++ [line]) =
      if (kept run).isEmpty then if opensBlock line then [line] else [] else kept run ++ [line] := by
  rw [kept, List.dropWhile_append, ← kept]
  cases hOpens : opensBlock line <;> simp [hOpens]

/-- Reading on with a block under way is recording the pieces, the lines of the run so far going to
the first one. -/
theorem collectLines_eq_foldl {lines : List (List Char)} (hOneLine : ∀ line ∈ lines, '\n' ∉ line)
    (found : Descriptions) (run : List (List Char)) :
    collectLines found (kept run).reverse lines =
      ((pieces lines).modifyHead (run ++ ·)).foldl record found := by
  induction lines generalizing found run with
  | nil =>
    rw [collectLines, List.reverse_reverse, record_kept]
    simp [pieces]
  | cons line rest ih =>
    obtain ⟨hLine, hRest⟩ := List.forall_mem_cons.mp hOneLine
    have hEmpty : (kept run).reverse.isEmpty = (kept run).isEmpty := List.isEmpty_reverse
    rw [collectLines, hEmpty]
    cases hComment : isComment line with
    | true =>
      have hNext := ih hRest found (run ++ [line])
      rw [kept_concat] at hNext
      rw [pieces_cons_of_comment hComment, List.modifyHead_modifyHead]
      have hHead : (run ++ ·) ∘ (line :: ·) = (run ++ [line] ++ · : List (List Char) → _) := by
        funext below
        simp
      rw [hHead, ← hNext]
      cases hNone : (kept run).isEmpty with
      | true => cases hOpens : opensBlock line <;> rfl
      | false => simp
    | false =>
      have hNext := ih hRest (found.record run) []
      have hPieces : pieces (line :: rest) = [] :: pieces rest := by
        simpa [pieces_of_comments] using pieces_append hComment [] rest
      have hHead : (pieces rest).modifyHead ([] ++ ·) = pieces rest := by
        cases pieces rest <;> simp
      rw [hHead] at hNext
      rw [hPieces, List.modifyHead_cons, List.append_nil, List.foldl_cons, ← hNext]
      cases hKept : (kept run).isEmpty with
      | true =>
        have hNone : kept run = [] := by simpa using hKept
        have hSame : found.record run = found := by rw [← record_kept, hNone]; rfl
        rw [if_pos rfl, opensBlock_of_not_isComment hComment hLine, hSame]
        rfl
      | false =>
        rw [if_neg (by decide), if_neg (by decide), List.reverse_reverse, record_kept]
        rfl

def keyedRuns (lines : List (List Char)) : List (String × Description) :=
  ((runs lines).filterMap parse).filter (·.1 ≠ "")

theorem keyedRuns_eq_filterMap (lines : List (List Char)) :
    keyedRuns lines = (runs lines).filterMap keyed? := by
  rw [keyedRuns, List.filter_filterMap]
  rfl

theorem keyedRuns_of_isRun {lines front run back : List (List Char)}
    (h : IsRun lines front run back) (hSome : run ≠ []) :
    keyedRuns lines = keyedRuns front ++ (keyed? run).toList ++ keyedRuns back := by
  rw [keyedRuns_eq_filterMap, h.runs_eq hSome, List.filterMap_append, List.filterMap_cons,
    ← keyedRuns_eq_filterMap, ← keyedRuns_eq_filterMap, List.append_assoc]
  cases keyed? run <;> rfl

theorem foldl_record_pieces (lines : List (List Char)) (found : Descriptions) :
    (pieces lines).foldl record found =
      (keyedRuns lines).foldl (fun m e => m.insert e.1 e.2) found := by
  have hKeyed : keyedRuns lines = (pieces lines).filterMap keyed? := by
    rw [keyedRuns_eq_filterMap, runs, List.filterMap_filter]
    congr 1
    funext piece
    by_cases hPiece : piece = []
    · rw [hPiece]
      rfl
    · simp [hPiece, keyed?]
  rw [hKeyed, List.foldl_filterMap]
  congr 1
  funext found block
  rw [record_eq]
  cases keyed? block <;> rfl

theorem collect_eq_foldl (source : String) :
    collect source = (keyedRuns (Text.lines source.toList)).foldl (fun m e => m.insert e.1 e.2)
      .empty := by
  have hAll := collectLines_eq_foldl (fun _ => Text.not_mem_of_mem_lines (s := source.toList))
    .empty []
  have hHead : (pieces (Text.lines source.toList)).modifyHead ([] ++ ·) =
      pieces (Text.lines source.toList) := by
    cases pieces (Text.lines source.toList) <;> simp
  rw [hHead, foldl_record_pieces] at hAll
  exact hAll

/-- Collecting reads every run of comment lines as one block and records nothing else: under a key
stands what the last run that has it gives. -/
theorem collect_reads_whole_runs (source : String) :
    collect source = .ofList (keyedRuns (Text.lines source.toList)) ∧
    (∀ key, (collect source).get? key =
      ((keyedRuns (Text.lines source.toList)).filter (·.1 == key)).getLast?.map (·.2)) ∧
    ∀ run, run ∈ runs (Text.lines source.toList) ↔
      run ≠ [] ∧ ∃ front back, IsRun (Text.lines source.toList) front run back := by
  refine ⟨collect_eq_foldl source, ?_, ?_⟩
  · intro key
    rw [collect_eq_foldl]
    exact KeyedMap.get?_ofList _ key
  · intro run
    exact mem_runs

theorem contains_collect_of_run {source : String} {front run back : List (List Char)}
    (hRun : IsRun (Text.lines source.toList) front run back) {key : String}
    (hKey : (parse run).map (·.1) = some key) (hSome : key ≠ "") :
    (collect source).contains key = true := by
  obtain ⟨e, hParse, rfl⟩ := Option.map_eq_some_iff.mp hKey
  have hNotEmpty : run ≠ [] := by
    rintro rfl
    rw [parse_nil] at hParse
    cases hParse
  have hMem : e ∈ (keyedRuns (Text.lines source.toList)).filter (·.1 == e.1) := by
    have hRuns := mem_runs.mpr ⟨hNotEmpty, front, back, hRun⟩
    have hBlocks := List.mem_filterMap.mpr ⟨run, hRuns, hParse⟩
    simpa [keyedRuns, hSome] using hBlocks
  rw [KeyedMap.contains, collect_eq_foldl, KeyedMap.get?_foldl_insert, Option.isSome_or,
    Option.isSome_map, List.getLast?_isSome.mpr (List.ne_nil_of_mem hMem)]
  rfl

end Descriptions

end ConfigReference
