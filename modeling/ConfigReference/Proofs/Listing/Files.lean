import ConfigReference.Proofs.FileTree.Directory
import ConfigReference.Proofs.KeyedMap

/-!
# The files below a directory

Every file that is found below a path stands there under the path it is found with, and no link is
on the way. A directory has a file under a name exactly when that is found, unless it is skipped.
-/

set_option autoImplicit false

namespace ConfigReference

instance (name : String) : Decidable (Path.IsName name) :=
  decidable_of_iff ('/' ∉ name.toList ∧ ∀ n ≤ 2, name.toList ≠ List.replicate n '.')
    ⟨fun h => ⟨h.1, h.2⟩, fun h => ⟨h.noSlash, h.notDots⟩⟩

namespace FileTree

/-- The entries of each directory have names, in ascending order and each name once. -/
inductive IsProper : FileTree → Prop
  | file (content : List UInt8) : IsProper (.file content)
  | link (target : String) : IsProper (.link target)
  | directory {entries : List (String × FileTree)} (names : ∀ e ∈ entries, Path.IsName e.1)
    (ascending : Ascending entries) (below : ∀ e ∈ entries, IsProper e.2) :
    IsProper (.directory entries)

theorem isProper_empty : (FileTree.directory []).IsProper := .directory (by simp) .nil (by simp)

theorem IsProper.put {t node : FileTree} {names : List String} (h : t.IsProper)
    (hNode : node.IsProper) (hNames : ∀ name ∈ names, Path.IsName name) :
    (put node names t).IsProper := by
  induction names generalizing t with
  | nil => exact hNode
  | cons name rest ih =>
    obtain ⟨hName, hRest⟩ := List.forall_mem_cons.mp hNames
    obtain ⟨entries, hEntries, hPut⟩ : ∃ entries, (FileTree.directory entries).IsProper ∧
        FileTree.put node (name :: rest) t = .directory (insertKeyed name
          (FileTree.put node rest ((entries.lookup name).getD (.directory []))) entries) := by
      cases t with
      | directory entries => exact ⟨entries, h, rfl⟩
      | file content => exact ⟨[], isProper_empty, rfl⟩
      | link target => exact ⟨[], isProper_empty, rfl⟩
    rw [hPut]
    cases hEntries with
    | directory hOld hAscending hBelow =>
      have hChild : ((entries.lookup name).getD (.directory [])).IsProper := by
        cases hChild : entries.lookup name with
        | none => exact isProper_empty
        | some child =>
          exact hBelow _ ((lookup_eq_some_iff_mem hAscending name child).mp hChild)
      refine .directory ?_ (ascending_insertKeyed _ _ hAscending) ?_
      · intro e he
        rcases mem_insertKeyed he with rfl | he
        · exact hName
        · exact hOld e he
      · intro e he
        rcases mem_insertKeyed he with rfl | he
        · exact ih hChild hRest
        · exact hBelow e he

def isDirectory : FileTree → Bool
  | directory _ => true
  | _ => false

theorem IsProper.at? {t node : FileTree} {names : List String} (h : t.IsProper)
    (hNode : t.at? names = some node) : node.IsProper := by
  induction names generalizing t with
  | nil => exact Option.some.inj hNode ▸ h
  | cons name names ih =>
    cases h with
    | file content => cases hNode
    | link target => cases hNode
    | directory _ hAscending hBelow =>
      rw [at?_directory_cons] at hNode
      obtain ⟨child, hChild, hNode⟩ := Option.bind_eq_some_iff.mp hNode
      exact ih (hBelow _ ((lookup_eq_some_iff_mem hAscending name child).mp hChild)) hNode

section

variable {skips : List String → String → Bool → Bool} {names : List String} {path : String}
  {found : List String × String}

theorem filesIn_cons (name : String) (t : FileTree) (rest : List (String × FileTree)) :
    filesIn skips names path ((name, t) :: rest) =
      (if skips (names ++ [name]) (Path.join path name) t.isDirectory then []
        else t.filesAt skips (names ++ [name]) (Path.join path name)) ++
      filesIn skips names path rest := by
  cases t <;> rfl

theorem mem_filesIn {entries : List (String × FileTree)} :
    found ∈ filesIn skips names path entries ↔ ∃ name t, (name, t) ∈ entries ∧
      skips (names ++ [name]) (Path.join path name) t.isDirectory = false ∧
      found ∈ t.filesAt skips (names ++ [name]) (Path.join path name) := by
  induction entries with
  | nil => simp [filesIn]
  | cons e rest ih =>
    obtain ⟨name, t⟩ := e
    rw [filesIn_cons, List.mem_append, ih]
    constructor
    · rintro (hFirst | ⟨other, u, hMem, hFound⟩)
      · split at hFirst
        · cases hFirst
        · rename_i hKept
          exact ⟨name, t, List.mem_cons_self, Bool.eq_false_iff.mpr hKept, hFirst⟩
      · exact ⟨other, u, List.mem_cons_of_mem _ hMem, hFound⟩
    · rintro ⟨other, u, hMem, hKept, hFound⟩
      rcases List.mem_cons.mp hMem with hEq | hMem
      · cases hEq
        rw [hKept]
        exact Or.inl hFound
      · exact Or.inr ⟨other, u, hMem, hKept, hFound⟩

end

end FileTree

namespace Workspace

open FileTree

variable {w : Workspace} {skips : List String → String → Bool → Bool} {names : List String}
  {path : String} {found : List String × String}

theorem locate_join {entries : List (String × FileTree)} {name : String} {last : Bool}
    (hDirectory : w.find? path = some (names, .directory entries)) (hName : Path.IsName name)
    (hLink : last = true → ∀ target, entries.lookup name ≠ some (.link target)) :
    w.locate last (Path.join path name) = .ok (.ofEntry names entries name) := by
  obtain ⟨front, hFront, hFind, hJoin⟩ := exists_front_of_find? hDirectory
  rw [hJoin name hName]
  exact locate_append_name hFront hFind hName hLink

/-- A file is found as the entry of a directory, and is not skipped there. -/
structure IsEntry (w : Workspace) (skips : List String → String → Bool → Bool)
    (found : List String × String) (path : String) (names : List String)
    (entries : List (String × FileTree)) (name : String) : Prop where
  directory : w.find? path = some (names, .directory entries)
  isName : Path.IsName name
  file : ∃ content, entries.lookup name = some (.file content)
  stands : found = (names ++ [name], Path.join path name)
  kept : skips found.1 found.2 false = false

theorem exists_isEntry_of_mem_filesAt {t : FileTree} (h : t.IsProper) (hDir : t.isDirectory = true)
    (hFind : w.find? path = some (names, t)) (hFound : found ∈ t.filesAt skips names path) :
    ∃ path names entries name, w.IsEntry skips found path names entries name := by
  induction h generalizing names path with
  | file content => cases hDir
  | link target => cases hDir
  | @directory entries hNames hAscending hBelow ih =>
    obtain ⟨name, t, hMem, hKept, hFound⟩ := mem_filesIn.mp hFound
    have hEntry := (lookup_eq_some_iff_mem hAscending name t).mpr hMem
    cases t with
    | link target => cases hFound
    | file content =>
      obtain rfl := List.mem_singleton.mp hFound
      exact ⟨path, names, entries, name, hFind, hNames _ hMem, ⟨content, hEntry⟩, rfl, hKept⟩
    | directory inner =>
      refine ih _ hMem rfl (find?_eq_some_iff.mpr ?_) hFound
      rw [locate_join hFind (hNames _ hMem) fun _ target hTarget => by simp [hEntry] at hTarget,
        Spot.ofEntry, hEntry]

theorem IsEntry.exists_locate {entries : List (String × FileTree)} {name : String}
    (h : w.IsEntry skips found path names entries name) :
    ∃ content, ∀ last, w.locate last found.2 = .ok (.node found.1 (.file content)) := by
  obtain ⟨content, hEntry⟩ := h.file
  refine ⟨content, fun last => ?_⟩
  have hNoLink (target : String) : entries.lookup name ≠ some (.link target) := by simp [hEntry]
  rw [h.stands, locate_join h.directory h.isName fun _ => hNoLink, Spot.ofEntry, hEntry]

theorem filesBelow_of_directory {entries : List (String × FileTree)}
    (hDirectory : w.find? path = some (names, .directory entries)) :
    w.filesBelow skips path = filesIn skips names path entries := by
  rw [filesBelow]
  rcases locate_false w path with hSame | ⟨linked, target, hLink⟩
  · rw [hSame, locate_of_find? hDirectory]
    rfl
  · rw [hLink]
    simp only [hDirectory]

theorem isProper_of_find? {t : FileTree} (hRoot : w.root.IsProper)
    (hFind : w.find? path = some (names, t)) : t.IsProper := by
  cases isIn_of_locate (locate_of_find? hFind) with
  | node _ _ hNode _ => exact hRoot.at? hNode

theorem exists_isEntry_of_mem_filesBelow {entries : List (String × FileTree)}
    (hRoot : w.root.IsProper) (hDirectory : w.find? path = some (names, .directory entries))
    (hFound : found ∈ w.filesBelow skips path) :
    ∃ path names entries name, w.IsEntry skips found path names entries name := by
  rw [filesBelow_of_directory hDirectory] at hFound
  exact exists_isEntry_of_mem_filesAt (isProper_of_find? hRoot hDirectory) rfl hDirectory hFound

/-- A file that is found below a path is under the path that it is found with, and under the names
that it is found with. -/
theorem locate_of_mem_filesBelow (hRoot : w.root.IsProper)
    (hFound : found ∈ w.filesBelow skips path) :
    ∃ content, ∀ last, w.locate last found.2 = .ok (.node found.1 (.file content)) := by
  by_cases hDirectory : ∃ names entries, w.find? path = some (names, .directory entries)
  · obtain ⟨names, entries, hDirectory⟩ := hDirectory
    obtain ⟨_, _, _, _, hEntry⟩ := exists_isEntry_of_mem_filesBelow hRoot hDirectory hFound
    exact hEntry.exists_locate
  · rw [filesBelow] at hFound
    rcases locate_false w path with hSame | ⟨linked, target, hLink⟩
    · rw [hSame] at hFound
      cases hSpot : w.locate true path with
      | error fault => simp [hSpot] at hFound
      | ok spot =>
        rw [hSpot] at hFound
        cases isIn_of_locate hSpot with
        | vacant names entries _ _ => cases hFound
        | node names t _ hNoLink =>
          cases t with
          | link target => exact absurd rfl (hNoLink target)
          | directory entries => exact absurd ⟨_, _, find?_eq_some_iff.mpr hSpot⟩ hDirectory
          | file content =>
            obtain rfl := List.mem_singleton.mp hFound
            exact ⟨content, fun last => by cases last <;> simp [hSame, hSpot]⟩
    · rw [hLink] at hFound
      simp only at hFound
      split at hFound
      · rename_i hFind
        exact absurd ⟨_, _, hFind⟩ hDirectory
      · cases hFound

theorem isEntry_of_mem_filesBelow {above : String} {entries : List (String × FileTree)}
    {name : String} (hRoot : w.root.IsProper) (hAbove : w.isDirectory above = true)
    (hDirectory : w.find? path = some (names, .directory entries)) (hName : Path.IsName name)
    (hFound : found ∈ w.filesBelow skips above) (hPath : found.2 = Path.join path name) :
    w.IsEntry skips found path names entries name := by
  obtain ⟨aboveNames, aboveEntries, hAbove⟩ :
      ∃ names entries, w.find? above = some (names, .directory entries) := by
    rw [isDirectory] at hAbove
    split at hAbove
    · rename_i names entries hFind
      exact ⟨names, entries, hFind⟩
    · cases hAbove
  obtain ⟨_, _, _, _, hEntry⟩ := exists_isEntry_of_mem_filesBelow hRoot hAbove hFound
  obtain ⟨content, hLocate⟩ := hEntry.exists_locate
  have hSpot := hLocate false
  rw [hPath, locate_join hDirectory hName fun h => absurd h Bool.false_ne_true, Spot.ofEntry]
    at hSpot
  cases hLookup : entries.lookup name with
  | none => simp [hLookup] at hSpot
  | some t =>
    rw [hLookup] at hSpot
    obtain ⟨hNames, rfl⟩ : names ++ [name] = found.1 ∧ t = .file content := by simpa using hSpot
    exact ⟨hDirectory, hName, ⟨content, hLookup⟩, Prod.ext hNames.symm hPath, hEntry.kept⟩

theorem join_mem_filesBelow_iff {entries : List (String × FileTree)} {name : String}
    (hRoot : w.root.IsProper) (hDirectory : w.find? path = some (names, .directory entries))
    (hName : Path.IsName name) :
    (∃ found ∈ w.filesBelow skips path, found.2 = Path.join path name) ↔
      (∃ content, entries.lookup name = some (.file content)) ∧
        skips (names ++ [name]) (Path.join path name) false = false := by
  constructor
  · rintro ⟨found, hFound, hPath⟩
    have hEntry := isEntry_of_mem_filesBelow hRoot (by rw [isDirectory, hDirectory]) hDirectory
      hName hFound hPath
    obtain rfl := hEntry.stands
    exact ⟨hEntry.file, hEntry.kept⟩
  · rintro ⟨⟨content, hEntry⟩, hKept⟩
    cases isProper_of_find? hRoot hDirectory with
    | directory _ hAscending _ =>
      have hMem := (lookup_eq_some_iff_mem hAscending name _).mp hEntry
      rw [filesBelow_of_directory hDirectory]
      exact ⟨(names ++ [name], Path.join path name),
        mem_filesIn.mpr ⟨name, .file content, hMem, hKept, List.mem_singleton_self _⟩, rfl⟩

end Workspace

end ConfigReference
