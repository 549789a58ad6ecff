import ConfigReference.Proofs.Listing.Answers
import ConfigReference.Proofs.Listing.Files

/-!
# Listings are snapshots

All listings of a session share what was read through any of them. For each key there is therefore
one content, which is what the file held when some listing that has it was first asked for it.
Nothing that is written or removed later is seen. A listing is also asked for keys that it does not
have, and shows what others have read under them.
-/

set_option autoImplicit false

namespace ConfigReference.Listing

/-! ## The listings of a session -/

/-- A listing is for the same directory as another and has only files of that one. -/
structure IsPartOf (l root : Listing) : Prop where
  base : l.base = root.base
  found : ∀ key path, l.found.get? key = some path → root.found.get? key = some path

theorem IsPartOf.refl (l : Listing) : l.IsPartOf l := ⟨rfl, fun _ _ h => h⟩

theorem IsPartOf.glob {l root : Listing} (h : l.IsPartOf root) (pattern : String) :
    (l.glob pattern).IsPartOf root := by
  have hBase : (l.glob pattern).base = l.base := by rw [Listing.glob]
  refine ⟨hBase.trans h.base, fun key path hFound => h.found key path ?_⟩
  rw [Listing.glob] at hFound
  split at hFound
  · exact KeyedMap.get?_of_get?_filter hFound
  · cases hFound

theorem read_of_get?_ofDirectory {w : Workspace} {base key path : String} (hRoot : w.root.IsProper)
    (h : (ofDirectory w base).found.get? key = some path) :
    slashed path = key ∧ ∃ content, w.read path = .ok content := by
  rw [ofDirectory, KeyedMap.get?_ofList] at h
  obtain ⟨e, hLast, rfl⟩ := Option.map_eq_some_iff.mp h
  obtain ⟨hMem, hKey⟩ := List.mem_filter.mp (List.mem_of_getLast? hLast)
  obtain ⟨found, hFound, rfl⟩ := List.mem_map.mp hMem
  obtain ⟨content, hLocate⟩ := Workspace.locate_of_mem_filesBelow hRoot hFound
  refine ⟨by simpa using hKey, content, ?_⟩
  rw [Workspace.read, hLocate true]
  rfl

namespace Session

variable (s : Session)

def after (steps : List Step) : Session := steps.foldl (fun s step => (s.step step).2) s

theorem step_ask {s : Session} {i : Nat} {l : Listing} (h : s.listings[i]? = some l) (q : Query) :
    s.step (.ask i q) = s.ask l q := by
  simp only [step, h]

theorem run_append (steps more : List Step) :
    s.run (steps ++ more) = s.run steps ++ (s.after steps).run more := by
  induction steps generalizing s with
  | nil => rfl
  | cons first rest ih => exact congrArg _ (ih _)

theorem length_run (steps : List Step) : (s.run steps).length = steps.length := by
  induction steps generalizing s with
  | nil => rfl
  | cons first rest ih => exact congrArg Nat.succ (ih _)

theorem getElem?_run (before : List Step) (step : Step) (later : List Step) :
    (s.run (before ++ step :: later))[before.length]? =
      some ((s.after before).step step).1 := by
  rw [run_append, List.getElem?_append_right (s.length_run before).le, length_run, Nat.sub_self]
  rfl

theorem isPartOf_step {s : Session} {root : Listing} (h : ∀ l ∈ s.listings, l.IsPartOf root)
    (step : Step) : ∀ l ∈ (s.step step).2.listings, l.IsPartOf root := by
  cases step with
  | ask i q =>
    rw [Session.step]
    split
    · rename_i l hListing
      obtain ⟨made, hMade, hGlob⟩ := s.listings_ask l q
      rw [hMade]
      intro other hOther
      rcases List.mem_append.mp hOther with hOld | hNew
      · exact h other hOld
      · obtain ⟨pattern, rfl⟩ := hGlob other hNew
        exact (h l (List.mem_of_getElem? hListing)).glob pattern
    · exact h
  | write path content =>
    rw [Session.step]
    split <;> exact h
  | remove path => exact h

theorem isPartOf_after (w : Workspace) (base : String) (steps : List Step) :
    ∀ l ∈ ((start w base).after steps).listings, l.IsPartOf (ofDirectory w base) := by
  refine List.foldlRecOn (motive := fun s : Session => ∀ l ∈ s.listings,
    l.IsPartOf (ofDirectory w base)) steps _ ?_ fun s h step _ => isPartOf_step h step
  intro l hListing
  rw [List.mem_singleton.mp hListing]
  exact .refl _

/-! ## What is read first -/

/-- What a step reads under a key: when it asks a listing for the key, and the listing has it, what
the file holds then. -/
def reading? (key : String) : Step → Option (List UInt8)
  | .ask i q => s.listings[i]?.bind fun l =>
    if key ∈ q.keys l then (l.found.get? key).map (onDisk s.workspace) else none
  | .write _ _ | .remove _ => none

/-- What is read under a key by the first of some steps that reads it. -/
def firstRead? (s : Session) (key : String) : List Step → Option (List UInt8)
  | [] => none
  | step :: rest => (s.reading? key step).or ((s.step step).2.firstRead? key rest)

theorem firstRead?_append (key : String) (steps more : List Step) :
    s.firstRead? key (steps ++ more) =
      (s.firstRead? key steps).or ((s.after steps).firstRead? key more) := by
  induction steps generalizing s with
  | nil => rfl
  | cons first rest ih =>
    rw [List.cons_append, firstRead?, firstRead?, ih, Option.or_assoc]
    rfl

theorem firstRead?_of_prefix {s : Session} {key : String} {bytes : List UInt8}
    {steps : List Step} (h : s.firstRead? key steps = some bytes) (more : List Step) :
    s.firstRead? key (steps ++ more) = some bytes := by
  rw [firstRead?_append, h, Option.some_or]

theorem get?_kept_step (key : String) (step : Step) :
    (s.step step).2.kept.get? key = (s.kept.get? key).or (s.reading? key step) := by
  cases step with
  | ask i q =>
    rw [reading?]
    cases hListing : s.listings[i]? with
    | none => simp [Session.step, hListing]
    | some l => rw [step_ask hListing, (s.reads_ask l q).get?_after, Option.bind_some]
  | write path content =>
    rw [reading?, Option.or_none, Session.step]
    split <;> rfl
  | remove path => exact (Option.or_none).symm

theorem get?_kept_after (key : String) (steps : List Step) :
    (s.after steps).kept.get? key = (s.kept.get? key).or (s.firstRead? key steps) := by
  induction steps generalizing s with
  | nil => exact (Option.or_none).symm
  | cons first rest ih =>
    rw [firstRead?, ← Option.or_assoc, ← get?_kept_step]
    exact ih _

theorem exists_of_firstRead? {s : Session} {key : String} {bytes : List UInt8} {steps : List Step}
    (h : s.firstRead? key steps = some bytes) :
    ∃ sofar step, sofar ++ [step] <+: steps ∧ s.firstRead? key sofar = none ∧
      (s.after sofar).reading? key step = some bytes := by
  induction steps generalizing s with
  | nil => cases h
  | cons first rest ih =>
    rw [firstRead?] at h
    cases hFirst : s.reading? key first with
    | some now =>
      rw [hFirst, Option.some_or] at h
      exact ⟨[], first, List.prefix_append [first] rest, rfl, hFirst.trans h⟩
    | none =>
      rw [hFirst, Option.none_or] at h
      obtain ⟨sofar, step, hPrefix, hNone, hRead⟩ := ih h
      refine ⟨first :: sofar, step, (List.prefix_cons_inj first).mpr hPrefix, ?_, hRead⟩
      rw [firstRead?, hFirst, Option.none_or, hNone]

/-! ## One content for each key -/

section

variable {w : Workspace} {base : String} {before : List Step} {i : Nat} {l : Listing}

theorem exists_onDisk_of_firstRead? {key : String} {bytes : List UInt8} {steps : List Step}
    (h : (start w base).firstRead? key steps = some bytes) :
    ∃ sofar step path, sofar ++ [step] <+: steps ∧ (start w base).firstRead? key sofar = none ∧
      (ofDirectory w base).found.get? key = some path ∧
      bytes = onDisk ((start w base).after sofar).workspace path := by
  obtain ⟨sofar, step, hPrefix, hNone, hRead⟩ := exists_of_firstRead? h
  cases step with
  | ask i q =>
    obtain ⟨l, hListing, hRead⟩ := Option.bind_eq_some_iff.mp hRead
    split at hRead
    · obtain ⟨path, hFound, hBytes⟩ := Option.map_eq_some_iff.mp hRead
      have hPart := isPartOf_after w base sofar l (List.mem_of_getElem? hListing)
      exact ⟨sofar, _, path, hPrefix, hNone, hPart.found key path hFound, hBytes.symm⟩
    · cases hRead
  | write path content => cases hRead
  | remove path => cases hRead

theorem firstRead?_concat_ask {key : String} {q : Query}
    (hListing : ((start w base).after before).listings[i]? = some l) (hKey : key ∈ q.keys l) :
    (start w base).firstRead? key (before ++ [.ask i q]) =
      ((start w base).firstRead? key before).or
        ((l.found.get? key).map (onDisk ((start w base).after before).workspace)) := by
  rw [firstRead?_append, firstRead?, firstRead?, Option.or_none, reading?, hListing,
    Option.bind_some, if_pos hKey]

/-- An answer shows what was read first, be it by the question itself. -/
theorem getElem?_run_ask (hListing : ((start w base).after before).listings[i]? = some l)
    (q : Query) (later : List Step) :
    ((start w base).run (before ++ .ask i q :: later))[before.length]? =
      some (q.answer l fun key =>
        ((start w base).firstRead? key (before ++ [.ask i q])).getD []) := by
  rw [getElem?_run, step_ask hListing, fst_ask]
  refine congrArg some (Query.answer_congr fun key hKey => ?_)
  have hKept := (start w base).get?_kept_after key before
  rw [start, KeyedMap.get?_empty, Option.none_or] at hKept
  rw [firstRead?_concat_ask hListing hKey, shown, start, hKept]
  cases firstRead? _ key before with
  | some bytes => rfl
  | none => cases l.found.get? key <;> rfl

/-- What a listing says about its files is what they held when they were read first through any
listing that has them, or nothing if they could not be read then. Later changes are not seen, and
what was not there when the first listing was made is in none of them. -/
theorem listed_files_are_snapshots (hRoot : w.root.IsProper)
    (hListing : ((start w base).after before).listings[i]? = some l) (q : Query) :
    let s := start w base
    let steps := before ++ [.ask i q]
    (∀ later, (s.run (before ++ .ask i q :: later))[before.length]? =
      some (q.answer l fun key => (s.firstRead? key steps).getD [])) ∧
    (∀ key ∈ q.keys l, l.found.contains key = true →
      ∃ bytes, ∀ later, s.firstRead? key (steps ++ later) = some bytes) ∧
    (∀ key bytes, s.firstRead? key steps = some bytes → ∃ sofar step path,
      sofar ++ [step] <+: steps ∧ s.firstRead? key sofar = none ∧
      (ofDirectory w base).found.get? key = some path ∧
      bytes = onDisk (s.after sofar).workspace path) ∧
    l.IsPartOf (ofDirectory w base) ∧
    ∀ key path, (ofDirectory w base).found.get? key = some path →
      slashed path = key ∧ ∃ content, w.read path = .ok content := by
  intro s steps
  refine ⟨getElem?_run_ask hListing q, fun key hKey hListed => ?_,
    fun key bytes => exists_onDisk_of_firstRead?,
    isPartOf_after w base before l (List.mem_of_getElem? hListing),
    fun key path => read_of_get?_ofDirectory hRoot⟩
  obtain ⟨path, hPath⟩ := Option.isSome_iff_exists.mp hListed
  obtain ⟨bytes, hRead⟩ : ∃ bytes, s.firstRead? key steps = some bytes := by
    rw [firstRead?_concat_ask hListing hKey, hPath]
    cases (start w base).firstRead? key before with
    | some bytes => exact ⟨bytes, rfl⟩
    | none => exact ⟨_, rfl⟩
  exact ⟨bytes, firstRead?_of_prefix hRead⟩

end

/-- A file that was read is shown by a listing that is made later, as it was before the change. -/
theorem listed_files_are_snapshots_of_change :
    let root := FileTree.put (.file [120]) ["d", "a"] (.directory [])
    let w : Workspace := { root, cwd := [] }
    let before : List Step := [.ask 0 (.bytes "a"), .write "d/a" "y", .ask 0 (.glob "*")]
    root.IsProper ∧ ((start w "d").after before).listings[1]?.isSome = true ∧
      ∀ later, ((start w "d").run (before ++ .ask 1 (.bytes "a") :: later))[3]? =
        some (.bytes [120]) := by
  intro root w before
  have hRoot : root.IsProper :=
    .put (.directory (by simp) .nil (by simp)) (.file _) (by decide)
  have hSome : ((start w "d").after before).listings[1]?.isSome = true := by decide +kernel
  obtain ⟨l, hListing⟩ := Option.isSome_iff_exists.mp hSome
  obtain ⟨hAnswer, -⟩ := listed_files_are_snapshots hRoot hListing (.bytes "a")
  have hRun : ((start w "d").run (before ++ [.ask 1 (.bytes "a")]))[3]? = some (.bytes [120]) := by
    decide +kernel
  exact ⟨hRoot, hSome, fun later => (hAnswer later).trans ((hAnswer []).symm.trans hRun)⟩

/-! ## Files that a listing does not have -/

/-- The lines of a text, one or more, are parted by its line feeds and by nothing else. -/
theorem linesOf_spec (text : String) :
    linesOf text ≠ [] ∧
      ['\n'].intercalate ((linesOf text).map String.toList) = text.toList ∧
      ∀ line ∈ linesOf text, '\n' ∉ line.toList := by
  refine ⟨by simp [linesOf], ?_, fun line hLine => ?_⟩
  · have hSame : String.toList ∘ String.ofList = id := funext fun _ => String.toList_ofList
    rw [linesOf, List.map_map, hSame, List.map_id, List.intercalate_splitOn]
  · obtain ⟨piece, hPiece, rfl⟩ := List.mem_map.mp hLine
    rw [String.toList_ofList]
    exact Text.not_mem_of_mem_splitOn hPiece

/-- A listing that does not have a file shows what was read of it through others, which is nothing
until then, but never its lines. The lines of a file that it has are those of its text. -/
theorem unlisted_file_shows_earlier_read {w : Workspace} {base : String} {before : List Step}
    {i : Nat} {l : Listing} (hListing : ((start w base).after before).listings[i]? = some l)
    (name : String) :
    let s := start w base
    let key := l.keyOf name
    let answers (q : Query) (answer : Answer) :=
      ∀ later, (s.run (before ++ .ask i q :: later))[before.length]? = some answer
    (l.found.contains key = false →
      answers (.bytes name) (.bytes ((s.firstRead? key before).getD [])) ∧
      answers (.text name) (.text (Text.decode ((s.firstRead? key before).getD []))) ∧
      answers (.lines name) (.texts [])) ∧
    (l.found.contains key = true → ∃ text lines,
      answers (.text name) (.text text) ∧ answers (.lines name) (.texts lines) ∧
      lines ≠ [] ∧ ['\n'].intercalate (lines.map String.toList) = text.toList ∧
      ∀ line ∈ lines, '\n' ∉ line.toList) := by
  intro s key answers
  have hAnswers (q : Query) := getElem?_run_ask hListing q
  refine ⟨fun hUnlisted => ?_, fun hListed => ?_⟩
  · have hNone : l.found.get? key = none := by simpa [KeyedMap.contains] using hUnlisted
    have hView (q : Query) (hKey : key ∈ q.keys l) :
        s.firstRead? key (before ++ [.ask i q]) = s.firstRead? key before := by
      rw [firstRead?_concat_ask hListing hKey, hNone, Option.map_none, Option.or_none]
    refine ⟨fun later => ?_, fun later => ?_, fun later => ?_⟩
    · rw [hAnswers, Query.answer, hView (.bytes name) (List.mem_singleton_self key)]
    · rw [hAnswers, Query.answer, hView (.text name) (List.mem_singleton_self key)]
    · rw [hAnswers, Query.answer, hUnlisted, if_neg Bool.false_ne_true]
  · -- both questions ask for the same key, so that they show the same content
    let text := Text.decode ((s.firstRead? key (before ++ [.ask i (.text name)])).getD [])
    refine ⟨text, linesOf text, hAnswers (.text name), fun later => ?_, linesOf_spec text⟩
    rw [hAnswers, Query.answer, if_pos hListed]
    have hSame : s.firstRead? key (before ++ [.ask i (.lines name)]) =
        s.firstRead? key (before ++ [.ask i (.text name)]) := by
      rw [firstRead?_concat_ask hListing (List.mem_singleton_self key),
        firstRead?_concat_ask hListing (List.mem_singleton_self key)]
    rw [hSame]

/-- The listing has no files and shows what the first one has read. -/
theorem unlisted_file_shows_earlier_read_of_glob :
    let root := FileTree.put (.file [120]) ["d", "a"] (.directory [])
    let w : Workspace := { root, cwd := [] }
    let before : List Step := [.ask 0 (.bytes "a"), .ask 0 (.glob "b*")]
    ∃ l ∈ ((start w "d").after before).listings[1]?, l.found.contains (l.keyOf "a") = false ∧
      ∀ later, ((start w "d").run (before ++ .ask 1 (.bytes "a") :: later))[2]? =
        some (.bytes [120]) := by
  intro root w before
  obtain ⟨l, hListing, hUnlisted, hRead⟩ : ∃ l ∈ ((start w "d").after before).listings[1]?,
      l.found.contains (l.keyOf "a") = false ∧
        (start w "d").firstRead? (l.keyOf "a") before = some [120] := by
    decide +kernel
  obtain ⟨hBytes, -, -⟩ := (unlisted_file_shows_earlier_read hListing "a").1 hUnlisted
  rw [hRead] at hBytes
  exact ⟨l, hListing, hUnlisted, hBytes⟩

/-- A listing that does not have a file does not always show it as empty. -/
theorem glob_shows_file_outside :
    let root := FileTree.put (.file [120]) ["d", "a"] (.directory [])
    let w : Workspace := { root, cwd := [] }
    let before : List Step := [.ask 0 (.text "a"), .ask 0 (.glob "b*")]
    let asked : List Step := [.ask 1 (.text "a"), .ask 1 (.bytes "a"), .ask 1 (.lines "a")]
    (∃ l ∈ ((start w "d").after before).listings[1]?, l.found.contains (l.keyOf "a") = false) ∧
      (start w "d").run (before ++ asked) =
        [.text "x", .texts [], .text "x", .bytes [120], .texts []] := by
  intro root w before asked
  constructor
  · decide +kernel
  · decide +kernel

end Session

end ConfigReference.Listing
