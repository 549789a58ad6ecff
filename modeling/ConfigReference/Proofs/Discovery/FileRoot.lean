import ConfigReference.Proofs.Listing.Files

/-!
# Inputs that are named themselves

A file is its own input exactly when it is one of the inputs of its directory: when it has the
extension of YAML files, no link stands in its place, and no ignore file leaves it out.
-/

set_option autoImplicit false

namespace ConfigReference

theorem isYamlPath_congr {path other : String} (h : Path.fileName? path = Path.fileName? other) :
    isYamlPath path = isYamlPath other := by
  rw [isYamlPath, isYamlPath, Path.extension?, Path.extension?, h]

namespace Workspace

open FileTree

/-- A path is one of the inputs at or below another. -/
def HasInput (w : Workspace) (ignoreFile path input : String) : Prop :=
  ∃ files, w.inputs ignoreFile path = .ok files ∧ input ∈ files

/-- A name in the directory at `path` is that of a YAML file that is not ignored. -/
structure TakesEntry (w : Workspace) (ignoreFile path : String) (names : List String)
    (entries : List (String × FileTree)) (name : String) : Prop where
  file : ∃ content, entries.lookup name = some (.file content)
  yaml : isYamlPath (Path.join path name) = true
  kept : w.ignores ignoreFile (names ++ [name]) (Path.join path name) false = false

variable {w : Workspace} {ignoreFile path : String} {names : List String}
  {entries : List (String × FileTree)} {name : String}

/-! ## The inputs of a directory -/

theorem hasInput_of_isDirectory (hDirectory : w.isDirectory path = true) (input : String) :
    w.HasInput ignoreFile path input ↔
      (∃ found ∈ w.filesBelow (w.ignores ignoreFile) path, found.2 = input) ∧
        isYamlPath input = true := by
  have hNoFile : w.isFile path = false := by
    rw [isDirectory] at hDirectory
    split at hDirectory
    · rename_i hFind
      rw [isFile, hFind]
    · cases hDirectory
  rw [HasInput, inputs, hNoFile, if_neg Bool.false_ne_true, ← List.mem_map (f := Prod.snd),
    ← List.mem_filter]
  split
  · rename_i hNone
    rw [List.isEmpty_iff.mp hNone]
    simp
  · simp

theorem takesEntry_of_hasInput {above : String} (hRoot : w.root.IsProper)
    (hAbove : w.isDirectory above = true)
    (hDirectory : w.find? path = some (names, .directory entries)) (hName : Path.IsName name)
    (h : w.HasInput ignoreFile above (Path.join path name)) :
    w.TakesEntry ignoreFile path names entries name := by
  obtain ⟨⟨found, hFound, hPath⟩, hYaml⟩ := (hasInput_of_isDirectory hAbove _).mp h
  have hEntry := isEntry_of_mem_filesBelow hRoot hAbove hDirectory hName hFound hPath
  obtain rfl := hEntry.stands
  exact ⟨hEntry.file, hYaml, hEntry.kept⟩

theorem hasInput_join_iff (hRoot : w.root.IsProper)
    (hDirectory : w.find? path = some (names, .directory entries)) (hName : Path.IsName name) :
    w.HasInput ignoreFile path (Path.join path name) ↔
      w.TakesEntry ignoreFile path names entries name := by
  have hIsDirectory : w.isDirectory path = true := by rw [isDirectory, hDirectory]
  refine ⟨takesEntry_of_hasInput hRoot hIsDirectory hDirectory hName, fun h => ?_⟩
  rw [hasInput_of_isDirectory hIsDirectory, join_mem_filesBelow_iff hRoot hDirectory hName]
  exact ⟨⟨h.file, h.kept⟩, h.yaml⟩

/-! ## The input that a file is -/

theorem ownInput_of_takesEntry
    (hDirectory : w.find? (directoryOf path) = some (names, .directory entries))
    (hName : Path.fileName? path = some name)
    (h : w.TakesEntry ignoreFile (directoryOf path) names entries name) :
    w.ownInput ignoreFile path = [path] := by
  obtain ⟨⟨content, hEntry⟩, hYaml, hKept⟩ := h
  unfold ownInput
  rw [hDirectory, hName]
  simp [hEntry, hYaml, hKept]

theorem ownInput_of_not_takesEntry
    (hDirectory : w.find? (directoryOf path) = some (names, .directory entries))
    (hName : Path.fileName? path = some name)
    (h : ¬w.TakesEntry ignoreFile (directoryOf path) names entries name) :
    w.ownInput ignoreFile path = [] := by
  unfold ownInput
  rw [hDirectory, hName]
  simp only
  split
  · rename_i content hEntry
    split
    · rename_i hTaken
      obtain ⟨hYaml, hKept⟩ := (Bool.and_eq_true _ _).mp hTaken
      exact absurd ⟨⟨content, hEntry⟩, hYaml, by simpa using hKept⟩ h
    · rfl
  · rfl

theorem inputs_of_isFile (hFile : w.isFile path = true) :
    w.inputs ignoreFile path =
      if (w.ownInput ignoreFile path).isEmpty then .error (.noInput path)
      else .ok (w.ownInput ignoreFile path) := by
  rw [inputs, hFile]
  rfl

theorem isLink_eq_false_iff (hFile : w.isFile path = true)
    (hEntry : w.locate false path = .ok (.ofEntry names entries name)) :
    w.isLink path = false ↔ ∃ content, entries.lookup name = some (.file content) := by
  rw [isLink, hEntry, Spot.ofEntry]
  rcases locate_false w path with hSame | ⟨found, target, hLink⟩
  · rw [hEntry] at hSame
    rw [isFile, find?, ← hSame, Spot.ofEntry] at hFile
    cases hLookup : entries.lookup name with
    | none => simp [hLookup] at hFile
    | some t => cases t <;> simp_all
  · rw [hEntry, Spot.ofEntry] at hLink
    cases hLookup : entries.lookup name with
    | none => simp [hLookup] at hLink
    | some t => cases t <;> simp_all

/-- A file that is named itself is the one input there exactly when it is among the inputs of its own
directory, the one that its path leads to without the last name, and otherwise there is none. It is
among them when it has the extension of YAML files, no link is in its place, and no ignore file leaves
it out. So it is when it is among the inputs of a directory further up; but it may be missing there
because a directory in between is left out. -/
theorem file_root_agrees_with_directory (hRoot : w.root.IsProper) (ignoreFile : String)
    (hFile : w.isFile path = true) :
    let entry := Path.join (directoryOf path) (Path.baseName path)
    let listed := w.HasInput ignoreFile (directoryOf path) entry
    (listed → w.inputs ignoreFile path = .ok [path]) ∧
    (¬listed → w.inputs ignoreFile path = .error (.noInput path)) ∧
    (∃ names entries, w.find? (directoryOf path) = some (names, .directory entries) ∧
      (listed ↔ isYamlPath path = true ∧ w.isLink path = false ∧
        w.ignores ignoreFile (names ++ [Path.baseName path]) entry false = false)) ∧
    ∀ above, w.isDirectory above = true → w.HasInput ignoreFile above entry → listed := by
  obtain ⟨name, names, entries, hName, hIsName, hDirectory, hEntry⟩ :=
    exists_directory_of_isFile hFile
  have hBase : Path.baseName path = name := by rw [Path.baseName, hName, Option.getD_some]
  have hListed : w.HasInput ignoreFile _ _ ↔ w.TakesEntry ignoreFile _ names entries name :=
    hasInput_join_iff hRoot hDirectory hIsName
  rw [hBase]
  intro entry listed
  refine ⟨fun h => ?_, fun h => ?_, ⟨names, entries, hDirectory, ?_⟩, fun above hAbove h => ?_⟩
  · rw [inputs_of_isFile hFile, ownInput_of_takesEntry hDirectory hName (hListed.mp h)]
    rfl
  · rw [inputs_of_isFile hFile, ownInput_of_not_takesEntry hDirectory hName (mt hListed.mpr h)]
    rfl
  · have hYaml : isYamlPath path = isYamlPath entry :=
      isYamlPath_congr (hName.trans (fileName?_join hDirectory hIsName).symm)
    rw [hYaml, isLink_eq_false_iff hFile hEntry]
    constructor
    · intro h
      obtain ⟨hFile, hYaml, hKept⟩ := hListed.mp h
      exact ⟨hYaml, hFile, hKept⟩
    · rintro ⟨hYaml, hFile, hKept⟩
      exact hListed.mpr ⟨hFile, hYaml, hKept⟩
  · exact hListed.mpr (takesEntry_of_hasInput hRoot hAbove hDirectory hIsName h)

/-- The nearer ignore file keeps what the one above it leaves out, for the file as for its
directory. -/
theorem file_root_agrees_with_directory_of_kept :
    let node (text : String) : FileTree := .file (Text.encode text)
    let root := FileTree.put (node "*.yaml") ["w", "rules"]
      (FileTree.put (node "!kept.yaml") ["w", "d", "rules"]
        (FileTree.put (node "a: 1") ["w", "d", "kept.yaml"] (.directory [])))
    let w : Workspace := { root, cwd := ["w"] }
    root.IsProper ∧ w.isFile "d/kept.yaml" = true ∧
      w.HasInput "rules" "d" "d/kept.yaml" ∧
      w.inputs "rules" "d/kept.yaml" = .ok ["d/kept.yaml"] := by
  intro node root w
  have hRoot : root.IsProper :=
    IsProper.put (IsProper.put (IsProper.put (.directory (by simp) .nil (by simp)) (.file _)
      (by decide)) (.file _) (by decide)) (.file _) (by decide)
  have hFile : w.isFile "d/kept.yaml" = true := by decide +kernel
  have hListed : w.HasInput "rules" "d" "d/kept.yaml" :=
    ⟨["d/kept.yaml"], by decide +kernel, List.mem_cons_self⟩
  exact ⟨hRoot, hFile, hListed, (file_root_agrees_with_directory hRoot "rules" hFile).1 hListed⟩

/-- A rule for the directory of a file keeps it from the inputs further up, and not from its own. -/
example :
    let node (text : String) : FileTree := .file (Text.encode text)
    let root := FileTree.put (node "sub/") ["d", "rules"]
      (FileTree.put (node "a: 1") ["d", "sub", "k.yaml"] (.directory []))
    let w : Workspace := { root }
    w.inputs "rules" "d" = .error (.noInput "d") ∧
      w.inputs "rules" "d/sub" = .ok ["d/sub/k.yaml"] ∧
      w.inputs "rules" "d/sub/k.yaml" = .ok ["d/sub/k.yaml"] := by
  decide +kernel

end Workspace

end ConfigReference
