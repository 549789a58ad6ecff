import ConfigReference.Proofs.FileTree.Following

/-!
# Writing and reading

A written file is there when its path is followed again, and nothing else changes: every path leads
to the same place as before, and what other files hold stays. A file that is written piece by piece
comes out as one that is written at once.
-/

set_option autoImplicit false

namespace ConfigReference

namespace FileTree

/-! ## Putting a file -/

/-- A file can be put under these names: there is one, or there is nothing in a directory that is
there. -/
inductive Takes (t : FileTree) (names : List String) : Prop where
  | file (content : List UInt8) (h : t.at? names = some (.file content))
  | vacant (entries : List (String × FileTree)) (h : t.at? names = none)
    (hAbove : t.at? names.dropLast = some (directory entries))

/-- Nothing has changed, or a directory is still a directory. -/
inductive Alike (before after : Option FileTree) : Prop where
  | same (h : after = before)
  | directories (entries entries' : List (String × FileTree))
    (hBefore : before = some (directory entries)) (hAfter : after = some (directory entries'))

theorem at?_put_self (node : FileTree) (names : List String) (t : FileTree) :
    (put node names t).at? names = some node := by
  induction names generalizing t with
  | nil => rfl
  | cons name names ih =>
    cases t <;> simp [put, at?_directory_cons, KeyedMap.lookup_insertKeyed, ih]

theorem put_put (node other : FileTree) (names : List String) (t : FileTree) :
    put other names (put node names t) = put other names t := by
  induction names generalizing t with
  | nil => rfl
  | cons name names ih =>
    cases t <;> simp [put, KeyedMap.lookup_insertKeyed, insertKeyed_insertKeyed, ih]

theorem Takes.exists_directory {t : FileTree} {name : String} {names : List String}
    (h : t.Takes (name :: names)) : ∃ entries, t = directory entries := by
  cases t with
  | directory entries => exact ⟨entries, rfl⟩
  | file old =>
    cases h with
    | file content h => cases h
    | vacant entries _ hAbove => cases names <;> cases hAbove
  | link target =>
    cases h with
    | file content h => cases h
    | vacant entries _ hAbove => cases names <;> cases hAbove

theorem Takes.below {entries : List (String × FileTree)} {name : String} {names : List String}
    (h : (directory entries).Takes (name :: names)) :
    (∃ child, entries.lookup name = some child ∧ child.Takes names) ∨
      (entries.lookup name = none ∧ names = []) := by
  cases hChild : entries.lookup name with
  | some child =>
    refine Or.inl ⟨child, rfl, ?_⟩
    cases h with
    | file content h =>
      rw [at?_directory_cons, hChild] at h
      exact .file content h
    | vacant above h hAbove =>
      rw [at?_directory_cons, hChild] at h
      cases names with
      | nil => cases h
      | cons next names =>
        rw [List.dropLast_cons_cons, at?_directory_cons, hChild] at hAbove
        exact .vacant above h hAbove
  | none =>
    refine Or.inr ⟨rfl, ?_⟩
    cases h with
    | file content h =>
      rw [at?_directory_cons, hChild] at h
      cases h
    | vacant above h hAbove =>
      cases names with
      | nil => rfl
      | cons next names =>
        rw [List.dropLast_cons_cons, at?_directory_cons, hChild] at hAbove
        cases hAbove

theorem at?_file_cons (content : List UInt8) {names : List String} (h : names ≠ []) :
    (file content).at? names = none := by
  cases names with
  | nil => exact absurd rfl h
  | cons name names => rfl

theorem alike_put {t : FileTree} {names : List String} (h : t.Takes names)
    (content : List UInt8) {other : List String} (hOther : other ≠ names) :
    Alike (t.at? other) ((put (.file content) names t).at? other) := by
  induction names generalizing t other with
  | nil =>
    cases h with
    | file old hOld =>
      cases hOld
      exact .same (by rw [put, at?_file_cons content hOther, at?_file_cons old hOther])
    | vacant entries hNone _ => cases hNone
  | cons name names ih =>
    obtain ⟨entries, rfl⟩ := h.exists_directory
    cases other with
    | nil => exact .directories entries _ rfl rfl
    | cons first rest =>
      rw [put, at?_directory_cons, at?_directory_cons, KeyedMap.lookup_insertKeyed]
      by_cases hFirst : first = name
      · subst hFirst
        have hRest : rest ≠ names := fun hEq => hOther (congrArg _ hEq)
        rw [if_pos rfl, Option.bind_some]
        rcases h.below with ⟨child, hChild, hTakes⟩ | ⟨hFree, rfl⟩
        · rw [hChild]
          exact ih hTakes hRest
        · rw [hFree, put, at?_file_cons content hRest]
          exact .same rfl
      · rw [if_neg hFirst]
        exact .same rfl

/-- What becomes of the node under some names when a file is put: nothing, a directory with other
entries, or the file where there was one or none. -/
inductive Change (before after : Option FileTree) : Prop where
  | same (h : after = before)
  | directories (entries entries' : List (String × FileTree))
    (hBefore : before = some (directory entries)) (hAfter : after = some (directory entries'))
  | replaced (old new : List UInt8) (hBefore : before = some (.file old))
    (hAfter : after = some (.file new))
  | made (new : List UInt8) (hBefore : before = none) (hAfter : after = some (.file new))

theorem Takes.change_put {root : FileTree} {names : List String} (h : root.Takes names)
    (content : List UInt8) (here : List String) :
    Change (root.at? here) ((put (.file content) names root).at? here) := by
  by_cases hHere : here = names
  · subst hHere
    rw [at?_put_self]
    cases h with
    | file old h => exact .replaced old content h rfl
    | vacant above h _ => exact .made content h rfl
  · cases alike_put h content hHere with
    | same h => exact .same h
    | directories entries entries' hBefore hAfter =>
      exact .directories entries entries' hBefore hAfter

theorem Takes.put {root : FileTree} {names other : List String} (h : root.Takes names)
    (hOther : root.Takes other) (content : List UInt8) :
    (FileTree.put (.file content) other root).Takes names := by
  have hChange := hOther.change_put content
  cases h with
  | file old h =>
    cases hChange names with
    | same hSame => exact .file old (hSame.trans h)
    | directories _ _ hBefore _ => simp [h] at hBefore
    | replaced _ new _ hAfter => exact .file new hAfter
    | made new hBefore _ => simp [h] at hBefore
  | vacant above h hAbove =>
    cases hChange names with
    | directories _ _ hBefore _ => simp [h] at hBefore
    | replaced _ _ hBefore _ => simp [h] at hBefore
    | made new _ hAfter => exact .file new hAfter
    | same hSame =>
      have hNone := hSame.trans h
      cases hChange names.dropLast with
      | same hSame => exact .vacant above hNone (hSame.trans hAbove)
      | directories _ above' _ hAfter => exact .vacant above' hNone hAfter
      | replaced _ _ hBefore _ => simp [hAbove] at hBefore
      | made _ hBefore _ => simp [hAbove] at hBefore

/-! ## Following paths after a file is put -/

/-- After a file is put, a path leads to the place to which it led before. -/
theorem place?_walk_put {root : FileTree} {names : List String} (hTakes : root.Takes names)
    (content : List UInt8)
    {follow follow' : List String → List String → Except FileFault Spot}
    (hFollow : ∀ here pieces, pieces ≠ [] →
      place? (follow' here pieces) = place? (follow here pieces))
    {here pieces : List String} (hHere : pieces = [] → (root.at? here).isSome = true) :
    place? (walk (put (.file content) names root) true follow' here pieces) =
      place? (walk root true follow here pieces) := by
  have hChange := hTakes.change_put content
  generalize put (.file content) names root = root' at hChange ⊢
  induction pieces generalizing here with
  | nil =>
    have hSome := hHere rfl
    have hSome' : (root'.at? here).isSome = true := by cases hChange here <;> simp_all
    obtain ⟨t, hNode⟩ := Option.isSome_iff_exists.mp hSome
    obtain ⟨t', hNode'⟩ := Option.isSome_iff_exists.mp hSome'
    simp [walk, hNode, hNode', place?, Except.toOption, Spot.names]
  | cons piece rest ih =>
    by_cases hNode : ∃ entries, root.at? here = some (directory entries)
    · have hNode' : ∃ entries, root'.at? here = some (directory entries) := by
        cases hChange here <;> simp_all
      obtain ⟨entries, hNode⟩ := hNode
      obtain ⟨entries', hNode'⟩ := hNode'
      obtain ⟨above, hAbove⟩ := exists_directory_above hNode
      rw [walk_cons_of_directory piece rest hNode', walk_cons_of_directory piece rest hNode]
      split
      · exact ih fun _ => by simp [hNode]
      · split
        · exact ih fun _ => by simp [hAbove]
        · cases hChange (here ++ [piece]) with
          | directories below below' hBefore hAfter =>
            rw [hBefore, hAfter]
            exact ih fun _ => by simp [hBefore]
          | replaced old new hBefore hAfter =>
            rw [hBefore, hAfter]
            exact ih fun _ => by simp [hBefore]
          | made new hBefore hAfter =>
            -- the new file is found at the end of a path, and not in the middle
            rw [hBefore, hAfter]
            cases rest with
            | nil => simp [walk, hAfter, place?, Except.toOption, Spot.names]
            | cons next rest =>
              exact (place?_walk_cons next rest fun below h => by simp [hAfter] at h).trans rfl
          | same hSame =>
            rw [hSame]
            cases hOld : root.at? (here ++ [piece]) with
            | none => rfl
            | some t =>
              cases t with
              | file old => exact ih fun _ => by simp [hOld]
              | directory below => exact ih fun _ => by simp [hOld]
              | link target =>
                simp only [Bool.not_true, Bool.and_false, Bool.false_eq_true, if_false]
                exact hFollow _ _ (by simp [Path.pieces])
    · have hNode' : ∀ entries, root'.at? here ≠ some (directory entries) := by
        intro entries hEntries
        cases hChange here <;> simp_all
      rw [place?_walk_cons piece rest hNode',
        place?_walk_cons piece rest fun entries h => hNode ⟨entries, h⟩]

theorem place?_walkLinks_put {root : FileTree} {names : List String} (hTakes : root.Takes names)
    (content : List UInt8) (links : Nat) {here pieces : List String} (hPieces : pieces ≠ []) :
    place? (walkLinks (put (.file content) names root) true links here pieces) =
      place? (walkLinks root true links here pieces) := by
  induction links generalizing here pieces with
  | zero => rfl
  | succ links ih =>
    exact place?_walk_put hTakes content (fun here pieces hPieces => ih hPieces)
      fun hNil => absurd hNil hPieces

end FileTree

namespace Workspace

theorem read_eq_ok_iff {w : Workspace} {path : String} {content : List UInt8} :
    w.read path = .ok content ↔
      ∃ names, w.place? path = some names ∧ w.root.at? names = some (.file content) := by
  rw [read, place?]
  cases hSpot : w.locate true path with
  | error e => simp [FileTree.place?, Except.toOption, bind, Except.bind]
  | ok spot =>
    cases isIn_of_locate hSpot with
    | vacant names entries h _ =>
      simp [FileTree.place?, Except.toOption, FileTree.Spot.names, h, bind, Except.bind, throw,
        throwThe, MonadExceptOf.throw]
    | node names t h hLink =>
      cases t <;>
        simp_all [FileTree.place?, Except.toOption, FileTree.Spot.names, bind, Except.bind, throw,
          throwThe, MonadExceptOf.throw, pure, Except.pure]

theorem write_eq_ok {w after : Workspace} {path : String} {content : List UInt8}
    (h : w.write path content = .ok after) :
    ∃ names, w.place? path = some names ∧ w.root.Takes names ∧
      after = { w with root := FileTree.put (.file content) names w.root } := by
  rw [write] at h
  cases hSpot : w.locate true path with
  | error e => simp [hSpot, bind, Except.bind] at h
  | ok spot =>
    rw [hSpot] at h
    have hPlace : w.place? path = some spot.names := by rw [place?, hSpot]; rfl
    cases isIn_of_locate hSpot with
    | vacant names entries hFree hAbove =>
      cases h
      exact ⟨names, hPlace, .vacant entries hFree hAbove, rfl⟩
    | node names t hNode hLink =>
      cases t with
      | file old =>
        cases h
        exact ⟨names, hPlace, .file old hNode, rfl⟩
      | directory entries => cases h
      | link target => exact absurd rfl (hLink target)

/-- A file can be written through a path. -/
def Accepts (w : Workspace) (path : String) : Prop :=
  ∃ names, w.place? path = some names ∧ w.root.Takes names

theorem Accepts.exists_write {w : Workspace} {path : String} (h : w.Accepts path)
    (content : List UInt8) : ∃ after, w.write path content = .ok after := by
  obtain ⟨names, hPlace, hTakes⟩ := h
  rw [place?] at hPlace
  cases hSpot : w.locate true path with
  | error e => simp [hSpot, FileTree.place?, Except.toOption] at hPlace
  | ok spot =>
    rw [hSpot] at hPlace
    cases Option.some.inj hPlace
    cases isIn_of_locate hSpot with
    | vacant names entries hFree hAbove => exact ⟨_, by rw [write, hSpot]; rfl⟩
    | node names t hNode hLink =>
      cases t with
      | file old => exact ⟨_, by rw [write, hSpot]; rfl⟩
      | link target => exact absurd rfl (hLink target)
      | directory entries =>
        -- no file can be put where a directory is
        cases hTakes with
        | file old h => simp [FileTree.Spot.names, hNode] at h
        | vacant above h _ => simp [FileTree.Spot.names, hNode] at h

theorem place?_write {w after : Workspace} {path : String} {content : List UInt8}
    (h : w.write path content = .ok after) (other : String) :
    after.place? other = w.place? other := by
  obtain ⟨names, -, hTakes, rfl⟩ := write_eq_ok h
  rw [place?, place?, locate, locate]
  split
  · rfl
  · exact FileTree.place?_walkLinks_put hTakes content _ (by simp [Path.pieces])

theorem Accepts.write {w after : Workspace} {path other : String} {content : List UInt8}
    (hOther : w.Accepts other) (h : w.write path content = .ok after) : after.Accepts other := by
  have hSame := place?_write h other
  obtain ⟨place, hPlace, hTakes⟩ := hOther
  obtain ⟨names, -, hNames, rfl⟩ := write_eq_ok h
  exact ⟨place, hSame.trans hPlace, hTakes.put hNames content⟩

theorem read_write_self {w after : Workspace} {path : String} {content : List UInt8}
    (h : w.write path content = .ok after) : after.read path = .ok content := by
  have hSame := place?_write h path
  obtain ⟨names, hPlace, -, rfl⟩ := write_eq_ok h
  exact read_eq_ok_iff.mpr ⟨names, hSame.trans hPlace, FileTree.at?_put_self _ names w.root⟩

theorem write_write {w after : Workspace} {path : String} {content : List UInt8}
    (h : w.write path content = .ok after) (other : List UInt8) :
    after.write path other = w.write path other := by
  obtain ⟨names, hPlace, hTakes, hAfter⟩ := write_eq_ok h
  have hAccepts : w.Accepts path := ⟨names, hPlace, hTakes⟩
  obtain ⟨direct, hDirect⟩ := hAccepts.exists_write other
  obtain ⟨twice, hTwice⟩ := (hAccepts.write h).exists_write other
  obtain ⟨_, hNames, -, rfl⟩ := write_eq_ok hDirect
  obtain ⟨_, hAgain, -, rfl⟩ := write_eq_ok hTwice
  rw [hPlace] at hNames
  rw [place?_write h, hPlace] at hAgain
  cases hNames
  cases hAgain
  rw [hDirect, hTwice, hAfter]
  simp only [FileTree.put_put]

/-- Whether a file can be written does not depend on its content. -/
theorem write_eq_error {w : Workspace} {path : String} {content : List UInt8} {e : FileFault}
    (h : w.write path content = .error e) (other : List UInt8) : w.write path other = .error e := by
  rw [write] at h ⊢
  cases hSpot : w.locate true path with
  | error fault => rwa [hSpot] at h
  | ok spot =>
    rw [hSpot] at h
    cases spot with
    | vacant names => cases h
    | node names t =>
      cases t with
      | directory entries => exact h
      | file old => cases h
      | link target => cases h

theorem accepts_of_read {w : Workspace} {path : String} {content : List UInt8}
    (h : w.read path = .ok content) : w.Accepts path := by
  obtain ⟨names, hPlace, hFile⟩ := read_eq_ok_iff.mp h
  exact ⟨names, hPlace, .file content hFile⟩

theorem overlay_length (bytes content : List UInt8) :
    overlay content.length bytes content = content ++ bytes := by
  simp [overlay]

theorem write_writeAt {w : Workspace} {path : String} {content : List UInt8}
    (h : w.read path = .ok content) (bytes : List UInt8) :
    w.write path (content ++ bytes) = .ok (w.writeAt path content.length bytes) := by
  obtain ⟨after, hWrite⟩ := (accepts_of_read h).exists_write (content ++ bytes)
  rw [writeAt, h]
  simp only [overlay_length, hWrite]
  rfl

end Workspace

end ConfigReference
