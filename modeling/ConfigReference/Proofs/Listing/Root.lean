import Mathlib.Data.List.Sort
import ConfigReference.Proofs.Listing.Escape
import ConfigReference.Proofs.Listing.Files

/-!
# Globs below different directories

The files below a directory are known by the names that lead to them from there. Their keys have the
path of the directory and a slash in front, so they are in the order of their names, and a pattern
behind the escaped path of the directory selects the same of them as it does of the names alone.
What a glob lists therefore does not depend on what the directory is called, unless its path ends in
a slash of either kind.
-/

set_option autoImplicit false

namespace ConfigReference

/-! ## Paths below a directory -/

namespace Path

theorem IsName.ne_nil {name : String} (h : IsName name) : name.toList ≠ [] := by
  simpa using h.ne_empty

theorem IsName.head?_ne_slash {name : String} (h : IsName name) : name.toList.head? ≠ some '/' :=
  fun hHead => h.noSlash (List.mem_of_head? hHead)

/-- What names add to the path of a directory that does not end in a slash. -/
def below (names : List String) : List Char := names.flatMap fun name => '/' :: name.toList

theorem below_cons (name : String) (names : List String) :
    below (name :: names) = '/' :: (name.toList ++ below names) := by
  rw [below, below, List.flatMap_cons, List.cons_append]

theorem toList_join {base name : String} (hBase : base ≠ "")
    (hSlash : base.toList.getLast? ≠ some '/') (hName : IsName name) :
    (join base name).toList = base.toList ++ '/' :: name.toList := by
  have hRelative : isAbsolute name = false := by
    simpa [isAbsolute] using hName.head?_ne_slash
  rw [join, hRelative]
  simp [hBase, hSlash]

theorem toList_foldl_join {base : String} {names : List String} (hBase : base ≠ "")
    (hSlash : base.toList.getLast? ≠ some '/') (hNames : ∀ name ∈ names, IsName name) :
    (names.foldl join base).toList = base.toList ++ below names := by
  induction names generalizing base with
  | nil => exact (List.append_nil _).symm
  | cons name rest ih =>
    obtain ⟨hName, hRest⟩ := List.forall_mem_cons.mp hNames
    have hJoin := toList_join hBase hSlash hName
    have hOpen : (join base name).toList.getLast? ≠ some '/' := by
      obtain ⟨c, back, hChars⟩ := List.exists_cons_of_ne_nil hName.ne_nil
      rw [hJoin, List.getLast?_append_of_ne_nil _ (List.cons_ne_nil _ _), hChars,
        List.getLast?_cons_cons, ← hChars]
      exact fun hLast => hName.noSlash (List.mem_of_getLast? hLast)
    have hSome : join base name ≠ "" := by
      intro hNone
      simp [hNone] at hJoin
    rw [List.foldl_cons, ih hSome hOpen hRest, hJoin, below_cons]
    simp

theorem toList_relativeTo_foldl_join {base : String} {names : List String} (hBase : base ≠ "")
    (hSlash : base.toList.getLast? ≠ some '/') (hNames : ∀ name ∈ names, IsName name) :
    (relativeTo base (names.foldl join base)).toList = (below names).tail := by
  have hPrefix : base.toList.isPrefixOf (names.foldl join base).toList = true := by
    rw [toList_foldl_join hBase hSlash hNames, List.isPrefixOf_iff_prefix]
    exact List.prefix_append _ _
  rw [relativeTo, if_pos hPrefix, String.toList_ofList, toList_foldl_join hBase hSlash hNames,
    List.drop_left]
  cases names with
  | nil => rfl
  | cons name rest =>
    obtain ⟨hName, -⟩ := List.forall_mem_cons.mp hNames
    obtain ⟨c, back, hChars⟩ := List.exists_cons_of_ne_nil hName.ne_nil
    have hHead : (c == '/') = false := by
      have hNe := hName.head?_ne_slash
      simpa [hChars] using hNe
    rw [below_cons, hChars, List.cons_append, List.dropWhile_cons_of_pos (by rfl),
      List.dropWhile_cons_of_neg (by simp [hHead]), List.tail_cons]

end Path

/-! ## The files of a directory -/

namespace FileTree

theorem IsProper.isName_of_at? {t node : FileTree} {names : List String} (h : t.IsProper)
    (hNode : t.at? names = some node) : ∀ name ∈ names, Path.IsName name := by
  induction names generalizing t with
  | nil => simp
  | cons name names ih =>
    cases h with
    | file content => cases hNode
    | link target => cases hNode
    | directory hNames hAscending hBelow =>
      rw [at?_directory_cons] at hNode
      obtain ⟨child, hChild, hNode⟩ := Option.bind_eq_some_iff.mp hNode
      have hMem := (lookup_eq_some_iff_mem hAscending name child).mp hChild
      exact List.forall_mem_cons.mpr ⟨hNames _ hMem, ih (hBelow _ hMem) hNode⟩

theorem IsProper.mem_filesAt {t : FileTree} (h : t.IsProper) {names : List String} {path : String}
    {found : List String × String} :
    found ∈ t.filesAt (fun _ _ _ => false) names path ↔
      ∃ rest content, t.at? rest = some (.file content) ∧
        found = (names ++ rest, rest.foldl Path.join path) := by
  induction h generalizing names path with
  | file content =>
    rw [filesAt, List.mem_singleton]
    constructor
    · rintro rfl
      exact ⟨[], content, rfl, by simp⟩
    · rintro ⟨rest, inner, hFile, rfl⟩
      cases rest with
      | nil => simp
      | cons name rest => cases hFile
  | link target =>
    rw [filesAt]
    constructor
    · intro hFound
      cases hFound
    · rintro ⟨rest, content, hFile, -⟩
      cases rest <;> cases hFile
  | @directory entries hNames hAscending hBelow ih =>
    rw [filesAt, mem_filesIn]
    constructor
    · rintro ⟨name, t, hMem, -, hFound⟩
      obtain ⟨rest, content, hFile, rfl⟩ := (ih _ hMem).mp hFound
      refine ⟨name :: rest, content, ?_, by simp⟩
      rw [at?_directory_cons, (lookup_eq_some_iff_mem hAscending name t).mpr hMem]
      exact hFile
    · rintro ⟨rest, content, hFile, rfl⟩
      cases rest with
      | nil => cases hFile
      | cons name rest =>
        rw [at?_directory_cons] at hFile
        obtain ⟨t, hEntry, hFile⟩ := Option.bind_eq_some_iff.mp hFile
        have hMem := (lookup_eq_some_iff_mem hAscending name t).mp hEntry
        exact ⟨name, t, hMem, rfl, (ih _ hMem).mpr ⟨rest, content, hFile, by simp⟩⟩

end FileTree

namespace Workspace

variable {w : Workspace} {base : String}

/-- Names lead from the directory at a path to a file, with no link on the way. -/
def HasFile (w : Workspace) (base : String) (names : List String) : Prop :=
  ∃ here entries content, w.find? base = some (here, .directory entries) ∧
    (FileTree.directory entries).at? names = some (.file content)

theorem exists_of_isDirectory (h : w.isDirectory base = true) :
    ∃ here entries, w.find? base = some (here, .directory entries) := by
  rw [isDirectory] at h
  split at h
  · rename_i here entries hFind
    exact ⟨here, entries, hFind⟩
  · cases h

theorem hasFile_iff {here names : List String} {entries : List (String × FileTree)}
    (hFind : w.find? base = some (here, .directory entries)) :
    w.HasFile base names ↔
      ∃ content, (FileTree.directory entries).at? names = some (.file content) := by
  constructor
  · rintro ⟨other, others, content, hOther, hFile⟩
    obtain ⟨-, hSame⟩ := Prod.mk.inj (Option.some.inj (hFind.symm.trans hOther))
    exact ⟨content, hSame ▸ hFile⟩
  · rintro ⟨content, hFile⟩
    exact ⟨here, entries, content, hFind, hFile⟩

theorem HasFile.isDirectory {names : List String} (h : w.HasFile base names) :
    w.isDirectory base = true := by
  obtain ⟨here, entries, content, hFind, -⟩ := h
  rw [Workspace.isDirectory, hFind]

theorem HasFile.isName {names : List String} (hRoot : w.root.IsProper)
    (h : w.HasFile base names) : ∀ name ∈ names, Path.IsName name := by
  obtain ⟨here, entries, content, hFind, hFile⟩ := h
  exact (isProper_of_find? hRoot hFind).isName_of_at? hFile

theorem HasFile.ne_nil {names : List String} (h : w.HasFile base names) : names ≠ [] := by
  obtain ⟨here, entries, content, -, hFile⟩ := h
  rintro rfl
  cases hFile

theorem mem_filesBelow_iff (hRoot : w.root.IsProper) (hDirectory : w.isDirectory base = true)
    {path : String} :
    (∃ found ∈ w.filesBelow (fun _ _ _ => false) base, found.2 = path) ↔
      ∃ names, w.HasFile base names ∧ path = names.foldl Path.join base := by
  obtain ⟨here, entries, hFind⟩ := exists_of_isDirectory hDirectory
  have hProper := isProper_of_find? hRoot hFind
  have hBelow : w.filesBelow (fun _ _ _ => false) base =
      (FileTree.directory entries).filesAt (fun _ _ _ => false) here base := by
    rw [filesBelow_of_directory hFind, FileTree.filesAt]
  simp only [hBelow, hasFile_iff hFind]
  constructor
  · rintro ⟨found, hFound, rfl⟩
    obtain ⟨names, content, hFile, rfl⟩ := hProper.mem_filesAt.mp hFound
    exact ⟨names, ⟨content, hFile⟩, rfl⟩
  · rintro ⟨names, ⟨content, hFile⟩, rfl⟩
    exact ⟨_, hProper.mem_filesAt.mpr ⟨names, content, hFile, rfl⟩, rfl⟩

theorem eq_of_mem_filesBelow {skips : List String → String → Bool → Bool}
    {found : List String × String} (hDirectory : w.isDirectory base = false)
    (hFound : found ∈ w.filesBelow skips base) : found.2 = base := by
  have hNone (here : List String) (entries : List (String × FileTree)) :
      w.find? base ≠ some (here, .directory entries) := by
    intro hFind
    rw [isDirectory, hFind] at hDirectory
    cases hDirectory
  rw [filesBelow] at hFound
  split at hFound
  · split at hFound
    · rename_i hFind
      exact absurd hFind (hNone _ _)
    · cases hFound
  · rename_i here t hNoLink hLocate
    have hFind : w.locate true base = .ok (.node here t) := by
      rcases locate_false w base with hSame | ⟨linked, target, hLink⟩
      · rw [← hSame, hLocate]
      · rw [hLocate] at hLink
        cases hLink
        exact absurd rfl (hNoLink target)
    cases t with
    | file content => exact congrArg Prod.snd (List.mem_singleton.mp hFound)
    | link target => cases hFound
    | directory entries => exact absurd (find?_eq_some_iff.mpr hFind) (hNone _ _)
  · cases hFound

end Workspace

namespace Listing

/-! ## Keys and names -/

/-- The last character is a slash of either kind. -/
def EndsInSlash (path : String) : Prop :=
  ∃ c, path.toList.getLast? = some c ∧ (c = '/' ∨ c = '\\')

def slash (c : Char) : Char := if c = '\\' then '/' else c

theorem toList_slashed (path : String) : (slashed path).toList = path.toList.map slash :=
  String.toList_ofList

theorem getLast?_slashed {path : String} (h : ¬EndsInSlash path) :
    (slashed path).toList.getLast? ≠ some '/' := by
  intro hLast
  rw [toList_slashed, List.getLast?_map] at hLast
  obtain ⟨c, hChar, hSlash⟩ := Option.map_eq_some_iff.mp hLast
  refine h ⟨c, hChar, ?_⟩
  by_cases hBack : c = '\\'
  · exact Or.inr hBack
  · rw [slash, if_neg hBack] at hSlash
    exact Or.inl hSlash

theorem getLast?_of_not_endsInSlash {path : String} (h : ¬EndsInSlash path) :
    path.toList.getLast? ≠ some '/' := fun hLast => h ⟨'/', hLast, Or.inl rfl⟩

theorem rdropWhile_escape {root : List Char} (h : root.getLast? ≠ some '/') :
    (Glob.escape root).rdropWhile (· == '/') = Glob.escape root := by
  rcases List.eq_nil_or_concat root with rfl | ⟨init, c, rfl⟩
  · rfl
  · have hSlash : c ≠ '/' := by simpa using h
    have hEscape : Glob.escape (init.concat c) =
        Glob.escape init ++ if Glob.isSpecial c then ['[', c, ']'] else [c] := by
      rw [List.concat_eq_append, Glob.escape, List.flatMap_append, List.flatMap_singleton]
      rfl
    rw [hEscape, List.rdropWhile]
    split <;> simp [hSlash]

variable {w : Workspace} {base : String}

theorem globText_eq {l : Listing} (h : ¬EndsInSlash l.base) (pattern : String) :
    l.globText pattern = Glob.escape (slashed l.base).toList ++ '/' :: pattern.toList := by
  rw [globText, ← List.rdropWhile, rdropWhile_escape (getLast?_slashed h)]

theorem entries_glob (l : Listing) (pattern : String) :
    (l.glob pattern).found.entries =
      l.found.entries.filter fun e => Glob.selects (l.globText pattern) e.1.toList := by
  simp only [glob, Glob.selects]
  cases Glob.parse? (l.globText pattern) with
  | none => simp [KeyedMap.empty]
  | some g => rfl

theorem names_eq (l : Listing) :
    l.names = l.found.entries.map fun e => slashed (Path.relativeTo l.base e.2) := by
  rw [names, KeyedMap.values, List.map_map]
  rfl

theorem mem_found {e : String × String} (h : e ∈ (ofDirectory w base).found.entries) :
    e.1 = slashed e.2 ∧ ∃ found ∈ w.filesBelow (fun _ _ _ => false) base, found.2 = e.2 := by
  obtain ⟨found, hFound, rfl⟩ := List.mem_map.mp (KeyedMap.mem_of_mem_ofList h)
  exact ⟨rfl, found, hFound, rfl⟩

section

variable (hRoot : w.root.IsProper) (hDirectory : w.isDirectory base = true)
  (hEnd : ¬EndsInSlash base)
include hRoot hDirectory hEnd

theorem toList_slashed_foldl_join {names : List String} (h : w.HasFile base names) :
    (slashed (names.foldl Path.join base)).toList =
      (slashed base).toList ++
        '/' :: (slashed (Path.relativeTo base (names.foldl Path.join base))).toList := by
  obtain ⟨here, entries, hFind⟩ := Workspace.exists_of_isDirectory hDirectory
  have hBase := Workspace.ne_empty_of_find? hFind
  have hSlash := getLast?_of_not_endsInSlash hEnd
  have hNames := h.isName hRoot
  obtain ⟨name, rest, rfl⟩ := List.exists_cons_of_ne_nil h.ne_nil
  rw [toList_slashed, toList_slashed, toList_slashed,
    Path.toList_relativeTo_foldl_join hBase hSlash hNames,
    Path.toList_foldl_join hBase hSlash hNames, Path.below_cons, List.map_append, List.map_cons,
    List.tail_cons]
  rfl

theorem toList_key {e : String × String} (h : e ∈ (ofDirectory w base).found.entries) :
    e.1.toList = (slashed base).toList ++ '/' :: (slashed (Path.relativeTo base e.2)).toList := by
  obtain ⟨hKey, hFound⟩ := mem_found h
  obtain ⟨names, hFile, hPath⟩ := (Workspace.mem_filesBelow_iff hRoot hDirectory).mp hFound
  rw [hKey, hPath]
  exact toList_slashed_foldl_join hRoot hDirectory hEnd hFile

theorem names_glob (pattern : String) :
    ((ofDirectory w base).glob pattern).names =
      (ofDirectory w base).names.filter fun name =>
        Glob.selects pattern.toList name.toList := by
  have hSelects : ∀ e ∈ (ofDirectory w base).found.entries,
      Glob.selects ((ofDirectory w base).globText pattern) e.1.toList =
        Glob.selects pattern.toList (slashed (Path.relativeTo base e.2)).toList := by
    intro e he
    rw [globText_eq (l := ofDirectory w base) hEnd, toList_key hRoot hDirectory hEnd he]
    exact Glob.selects_escape _ _ _
  rw [names_eq, names_eq, entries_glob, List.filter_map]
  exact congrArg (List.map _) (List.filter_congr hSelects)

theorem pairwise_names : (ofDirectory w base).names.Pairwise (· < ·) := by
  rw [names_eq, List.pairwise_map]
  refine (ofDirectory w base).found.ascending.imp_of_mem fun {a b} ha hb hLess => ?_
  rw [String.lt_iff, toList_key hRoot hDirectory hEnd ha, toList_key hRoot hDirectory hEnd hb]
    at hLess
  rw [String.lt_iff]
  -- keys differ in what follows the same path of the directory
  have hBehind (front s t : List Char) : front ++ s < front ++ t ↔ s < t := by
    induction front <;> simp [*]
  exact List.cons_lt_cons_self.mp ((hBehind _ _ _).mp hLess)

theorem mem_names_iff {name : String} :
    name ∈ (ofDirectory w base).names ↔
      ∃ names, w.HasFile base names ∧ (Path.below names).tail.map slash = name.toList := by
  obtain ⟨here, entries, hFind⟩ := Workspace.exists_of_isDirectory hDirectory
  have hName {names : List String} (h : w.HasFile base names) :
      (slashed (Path.relativeTo base (names.foldl Path.join base))).toList =
        (Path.below names).tail.map slash := by
    rw [toList_slashed, Path.toList_relativeTo_foldl_join (Workspace.ne_empty_of_find? hFind)
      (getLast?_of_not_endsInSlash hEnd) (h.isName hRoot)]
  rw [names_eq, List.mem_map]
  constructor
  · rintro ⟨e, he, rfl⟩
    obtain ⟨names, hFile, hPath⟩ :=
      (Workspace.mem_filesBelow_iff hRoot hDirectory).mp (mem_found he).2
    exact ⟨names, hFile, hPath ▸ (hName hFile).symm⟩
  · rintro ⟨names, hFile, hText⟩
    obtain ⟨⟨_, path⟩, hFound, rfl⟩ :=
      (Workspace.mem_filesBelow_iff hRoot hDirectory).mpr ⟨names, hFile, rfl⟩
    -- the file that is listed under the key may be another one of the same key
    obtain ⟨path, hListed⟩ := KeyedMap.exists_mem_ofList (List.mem_map.mpr ⟨_, hFound, rfl⟩)
    have hKey := toList_key hRoot hDirectory hEnd hListed
    rw [toList_slashed_foldl_join hRoot hDirectory hEnd hFile, hName hFile, hText] at hKey
    refine ⟨_, hListed, String.toList_inj.mp ?_⟩
    exact (List.cons.inj (List.append_cancel_left hKey)).2.symm

end

theorem names_glob_of_not_isDirectory (hDirectory : w.isDirectory base = false)
    (hEnd : ¬EndsInSlash base) (pattern : String) :
    ((ofDirectory w base).glob pattern).names = [] := by
  rw [names_eq, entries_glob, List.map_eq_nil_iff, List.filter_eq_nil_iff]
  intro e he
  obtain ⟨hKey, found, hFound, hPath⟩ := mem_found he
  have hSame : (ofDirectory w base).base = e.2 := by
    rw [← hPath, Workspace.eq_of_mem_filesBelow hDirectory hFound]
    rfl
  rw [globText_eq hEnd, hKey, hSame, Glob.selects_escape_self]
  exact Bool.false_ne_true

theorem names_glob_of_no_file (hRoot : w.root.IsProper) (hEnd : ¬EndsInSlash base)
    (hNone : ∀ names, ¬w.HasFile base names) (pattern : String) :
    ((ofDirectory w base).glob pattern).names = [] := by
  cases hDirectory : w.isDirectory base with
  | false => exact names_glob_of_not_isDirectory hDirectory hEnd pattern
  | true =>
    have hEmpty : (ofDirectory w base).names = [] := by
      refine List.eq_nil_iff_forall_not_mem.mpr fun name hName => ?_
      obtain ⟨names, hFile, -⟩ := (mem_names_iff hRoot hDirectory hEnd).mp hName
      exact hNone names hFile
    rw [names_glob hRoot hDirectory hEnd, hEmpty, List.filter_nil]

/-- Two directories with the same files below them have the same names in every glob, whatever
characters are in their paths, as long as neither path ends in a slash of either kind. -/
theorem glob_names_independent_of_root {w w' : Workspace} {base base' : String}
    (hRoot : w.root.IsProper) (hRoot' : w'.root.IsProper) (hEnd : ¬EndsInSlash base)
    (hEnd' : ¬EndsInSlash base') (hFiles : ∀ names, w.HasFile base names ↔ w'.HasFile base' names)
    (pattern : String) :
    ((ofDirectory w base).glob pattern).names = ((ofDirectory w' base').glob pattern).names := by
  by_cases hSome : ∃ names, w.HasFile base names
  · obtain ⟨names, hFile⟩ := hSome
    have hDirectory := hFile.isDirectory
    have hDirectory' := ((hFiles names).mp hFile).isDirectory
    have hLess := pairwise_names hRoot hDirectory hEnd
    have hLess' := pairwise_names hRoot' hDirectory' hEnd'
    have hNames : (ofDirectory w base).names = (ofDirectory w' base').names := by
      have hMem (name : String) :
          name ∈ (ofDirectory w base).names ↔ name ∈ (ofDirectory w' base').names := by
        simp only [mem_names_iff hRoot hDirectory hEnd, mem_names_iff hRoot' hDirectory' hEnd',
          hFiles]
      exact hLess.eq_of_mem_iff hLess' hMem
    rw [names_glob hRoot hDirectory hEnd, names_glob hRoot' hDirectory' hEnd', hNames]
  · have hNone : ∀ names, ¬w.HasFile base names := fun names hFile => hSome ⟨names, hFile⟩
    have hNone' : ∀ names, ¬w'.HasFile base' names :=
      fun names hFile => hNone names ((hFiles names).mpr hFile)
    rw [names_glob_of_no_file hRoot hEnd hNone, names_glob_of_no_file hRoot' hEnd' hNone']

/-- What is in the paths of the directories stands for itself, and the classes and stars of the
pattern do not. -/
theorem glob_names_independent_of_root_of_special :
    let files := FileTree.put (.file []) ["sub", "y.txt"]
      (FileTree.put (.file []) ["x.txt"] (.directory []))
    let w : Workspace :=
      { root := FileTree.put files ["?]"] (FileTree.put files ["a[*"] (.directory [])) }
    (w.root.IsProper ∧ ¬EndsInSlash "a[*" ∧ ¬EndsInSlash "?]" ∧
      ∀ names, w.HasFile "a[*" names ↔ w.HasFile "?]" names) ∧
    ((ofDirectory w "a[*").glob "**/[!x].txt").names =
      ((ofDirectory w "?]").glob "**/[!x].txt").names ∧
    ((ofDirectory w "?]").glob "**/[!x].txt").names = ["sub/y.txt"] := by
  intro files w
  have hBelow : files.IsProper :=
    (FileTree.isProper_empty.put (.file _) (by decide)).put (.file _) (by decide)
  have hRoot : w.root.IsProper :=
    (FileTree.isProper_empty.put hBelow (by decide)).put hBelow (by decide)
  have hFind : w.find? "a[*" = some (["a[*"], files) := rfl
  have hFind' : w.find? "?]" = some (["?]"], files) := rfl
  have hEnd : ¬EndsInSlash "a[*" := by simp [EndsInSlash]
  have hEnd' : ¬EndsInSlash "?]" := by simp [EndsInSlash]
  have hFiles : ∀ names, w.HasFile "a[*" names ↔ w.HasFile "?]" names := fun names =>
    (Workspace.hasFile_iff hFind).trans (Workspace.hasFile_iff hFind').symm
  refine ⟨⟨hRoot, hEnd, hEnd', hFiles⟩, ?_, by decide +kernel⟩
  exact glob_names_independent_of_root hRoot hRoot hEnd hEnd' hFiles "**/[!x].txt"

/-- Below a directory whose path ends in a backslash a glob does not find the file that it finds
below another. -/
theorem backslash_root_hides_files :
    ¬∀ (w w' : Workspace) (base base' : String), w.root.IsProper → w'.root.IsProper →
      base.toList.getLast? ≠ some '/' → base'.toList.getLast? ≠ some '/' →
      (∀ names, w.HasFile base names ↔ w'.HasFile base' names) → ∀ pattern,
        ((ofDirectory w base).glob pattern).names =
          ((ofDirectory w' base').glob pattern).names := by
  intro h
  let files := FileTree.put (.file []) ["a.txt"] (.directory [])
  let w : Workspace :=
    { root := FileTree.put files ["d\\"] (FileTree.put files ["d"] (.directory [])) }
  have hBelow : files.IsProper := FileTree.isProper_empty.put (.file _) (by decide)
  have hRoot : w.root.IsProper :=
    (FileTree.isProper_empty.put hBelow (by decide)).put hBelow (by decide)
  have hFind : w.find? "d\\" = some (["d\\"], files) := rfl
  have hFind' : w.find? "d" = some (["d"], files) := rfl
  have hFiles : ∀ names, w.HasFile "d\\" names ↔ w.HasFile "d" names := fun names =>
    (Workspace.hasFile_iff hFind).trans (Workspace.hasFile_iff hFind').symm
  have hSame := h w w "d\\" "d" hRoot hRoot (by decide) (by decide) hFiles "*.txt"
  have hMissing : ((ofDirectory w "d\\").glob "*.txt").names = [] := by decide +kernel
  have hFound : ((ofDirectory w "d").glob "*.txt").names = ["a.txt"] := by decide +kernel
  rw [hMissing, hFound] at hSame
  cases hSame

end Listing

end ConfigReference
