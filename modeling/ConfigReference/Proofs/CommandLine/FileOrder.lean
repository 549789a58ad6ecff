import ConfigReference.Proofs.CommandLine.Documented
import ConfigReference.Proofs.CommandLine.Reading
import ConfigReference.Proofs.KeyedMap
import ConfigReference.Proofs.Template.Rendering

/-!
# The order of configuration files

What a run documents is kept by the paths of the configurations as they are shown. The order in which
the configuration files are given is lost there, and a file that is given twice is there once. Of
files that are shown alike the last one is kept.
-/

set_option autoImplicit false

namespace ConfigReference.CommandLine

/-! ## What is documented -/

def keyed? (w : Workspace) (policy : Audit.Policy) (ignoreFile : String)
    (display : String → String) (root : String) : Option (String × Documentation) :=
  (gatheredAt w policy ignoreFile display root).result.toOption.map fun d => (d.configPath, d)

theorem configPath_of_documentation? {w : Workspace} {ignoreFile path : String} {d : Documentation}
    (h : w.documentation? ignoreFile path = some d) : d.configPath = path := by
  obtain ⟨paths, -, rfl⟩ := Option.map_eq_some_iff.mp h
  rfl

theorem key_of_keyed? {w : Workspace} {policy : Audit.Policy} {ignoreFile root : String}
    {display : String → String} {e : String × Documentation}
    (h : keyed? w policy ignoreFile display root = some e) : e.1 = display root := by
  rw [keyed?, result_gatheredAt] at h
  cases hDocumentation : w.documentation? ignoreFile root with
  | none =>
    rw [hDocumentation] at h
    cases h
  | some d =>
    rw [hDocumentation] at h
    dsimp only at h
    split at h
    · cases h
      exact congrArg display (configPath_of_documentation? hDocumentation)
    · cases h

theorem documented_gatheredAt (w : Workspace) (policy : Audit.Policy) (ignoreFile : String)
    (display : String → String) (roots : List String) :
    documented (roots.map (gatheredAt w policy ignoreFile display)) =
      .ofList (roots.filterMap (keyed? w policy ignoreFile display)) := by
  rw [documented, List.filterMap_map]
  rfl

/-- Different paths of a list are shown differently. -/
def ShownApart (display : String → String) (roots : List String) : Prop :=
  ∀ root ∈ roots, ∀ other ∈ roots, display root = display other → root = other

theorem documented_perm {roots others : List String} (hPerm : roots.Perm others)
    {display : String → String} (hApart : ShownApart display roots) (w : Workspace)
    (policy : Audit.Policy) (ignoreFile : String) :
    documented (roots.map (gatheredAt w policy ignoreFile display)) =
      documented (others.map (gatheredAt w policy ignoreFile display)) := by
  rw [documented_gatheredAt, documented_gatheredAt]
  refine KeyedMap.ofList_perm (hPerm.filterMap _) ?_
  intro a ha b hb hKey
  -- the key of an entry tells its root, and the root all of the entry
  obtain ⟨root, hMem, hRoot⟩ := List.mem_filterMap.mp ha
  obtain ⟨other, hOtherMem, hOther⟩ := List.mem_filterMap.mp hb
  rw [key_of_keyed? hRoot, key_of_keyed? hOther] at hKey
  rw [hApart root hMem other hOtherMem hKey, hOther] at hRoot
  exact (Option.some.inj hRoot).symm

namespace Settings

theorem infosAt_perm {roots others : List String} (hPerm : roots.Perm others)
    {display : String → String} (hApart : ShownApart display roots) (s : Settings)
    (w : Workspace) (policy : Audit.Policy) :
    s.infosAt w display policy roots = s.infosAt w display policy others := by
  simp only [infosAt]
  rw [documented_perm hPerm hApart,
    (hPerm.map (gatheredAt w policy s.ignoreFile display)).countP_eq]

def withFiles (s : Settings) (files : List String) : Settings := { s with configFiles := files }

theorem roots_withFiles {files : List String} (hSome : files ≠ []) (s : Settings) {w : Workspace}
    (hThere : ∀ file ∈ files, w.pathExists (Path.absolute w.cwdText file) = true) :
    (s.withFiles files).roots w =
      match s.searchRoot with
      | some _ => .error .twoKindsOfRoots
      | none => .ok (files.map (Path.absolute w.cwdText)) := by
  obtain ⟨file, rest, rfl⟩ := List.exists_cons_of_ne_nil hSome
  cases hRoot : s.searchRoot with
  | some root => simp [roots, withFiles, hRoot]
  | none =>
    simp only [roots, withFiles, hRoot]
    exact Template.mapM_ok fun file hFile => if_pos (hThere file hFile)

theorem infos_withFiles_perm {files others : List String} (hPerm : files.Perm others)
    (s : Settings) {w : Workspace}
    (hThere : ∀ file ∈ files, w.pathExists (Path.absolute w.cwdText file) = true)
    {display : String → String}
    (hApart : ShownApart display (files.map (Path.absolute w.cwdText))) :
    (s.withFiles files).infos w display = (s.withFiles others).infos w display := by
  by_cases hNone : files = []
  · subst hNone
    rw [hPerm.nil_eq]
  · have hSome : others ≠ [] := fun h => hNone (h ▸ hPerm).eq_nil
    have hOthersThere : ∀ file ∈ others, w.pathExists (Path.absolute w.cwdText file) = true :=
      fun file hFile => hThere file (hPerm.mem_iff.mpr hFile)
    have hAt (policy : Audit.Policy) :
        (s.withFiles files).infosAt w display policy (files.map (Path.absolute w.cwdText)) =
          (s.withFiles others).infosAt w display policy (others.map (Path.absolute w.cwdText)) :=
      infosAt_perm (hPerm.map _) hApart s w policy
    rw [infos, infos, roots_withFiles hNone s hThere, roots_withFiles hSome s hOthersThere]
    cases s.searchRoot with
    | some root => rfl
    | none =>
      dsimp only [bind, Except.bind]
      simp only [hAt]
      rfl

end Settings

/-! ## What is read -/

def filesOf (given : Given) : List String := (given.get? "config-file").getD []

/-- All options but the configuration files have equal values. The files are the same in some order
once those that are still to come are there on both sides. -/
structure SameButFiles (rest lasts : List String) (given other : Given) : Prop where
  others : ∀ name, name ≠ "config-file" → given.get? name = other.get? name
  isGiven : (given.get? "config-file").isSome = (other.get? "config-file").isSome
  files : (filesOf given ++ rest).Perm (filesOf other ++ lasts)

theorem kind_configFile : ∀ r ∈ optionRules, r.name = "config-file" → r.kind = .list := by
  decide

theorem filesOf_insert (given : Given) (values : List String) :
    filesOf (given.insert "config-file" values) = values := by
  rw [filesOf, KeyedMap.get?_insert, if_pos rfl, Option.getD_some]

theorem give_list {r : OptionRule} (hKind : r.kind = .list) (given : Given) (value : String) :
    r.give given value =
      if r.isPath && (splitCommas value).any (·.isEmpty) then .error .misuse
      else .ok (given.insert r.name ((given.get? r.name).getD [] ++ splitCommas value)) := by
  rw [OptionRule.give]
  cases given.get? r.name <;> simp [hKind]

/-- A value that stands for configuration files when it is an argument of its own. -/
def NamesFiles (value : String) : Prop :=
  looksLikeOption value = false ∧ (splitCommas value).any (·.isEmpty) = false

theorem readArguments_configFile (given : Given) (value : String) (rest : List String) :
    readArguments given none ("--config-file" :: value :: rest) =
      if looksLikeOption value || (splitCommas value).any (·.isEmpty) then .error .misuse
      else readArguments (given.insert "config-file" (filesOf given ++ splitCommas value)) none
        rest := by
  obtain ⟨r, hName, hKind, hPath, hWaits⟩ : ∃ r : OptionRule, r.name = "config-file" ∧
      r.kind = .list ∧ r.isPath = true ∧
      readArguments given none ("--config-file" :: value :: rest) =
        readArguments given (some r) (value :: rest) :=
    ⟨optionRules[1], rfl, rfl, rfl, by rw [readArguments]; rfl⟩
  rw [hWaits, readArguments, give_list hKind, hName, hPath, Bool.true_and]
  cases looksLikeOption value with
  | true => rfl
  | false => cases (splitCommas value).any (·.isEmpty) <;> rfl

namespace SameButFiles

variable {rest lasts : List String} {given other : Given}

theorem insert_files (h : SameButFiles rest lasts given other) {values more : List String}
    {later last : List String} (hFiles : (values ++ later).Perm (more ++ last)) :
    SameButFiles later last (given.insert "config-file" values)
      (other.insert "config-file" more) := by
  constructor
  · intro name hName
    rw [KeyedMap.get?_insert, KeyedMap.get?_insert, if_neg hName, if_neg hName]
    exact h.others name hName
  · rw [KeyedMap.get?_insert, KeyedMap.get?_insert, if_pos rfl, if_pos rfl]
    rfl
  · rwa [filesOf_insert, filesOf_insert]

theorem insert (h : SameButFiles rest lasts given other) {name : String}
    (hName : name ≠ "config-file") (values : List String) :
    SameButFiles rest lasts (given.insert name values) (other.insert name values) := by
  constructor
  · intro k hOther
    rw [KeyedMap.get?_insert, KeyedMap.get?_insert, h.others k hOther]
  · rw [KeyedMap.get?_insert, KeyedMap.get?_insert, if_neg hName.symm, if_neg hName.symm]
    exact h.isGiven
  · simpa only [filesOf, KeyedMap.get?_insert, if_neg hName.symm] using h.files

theorem isKept (rest lasts : List String) : IsKept (SameButFiles rest lasts) := by
  intro r hr value given other h
  by_cases hName : r.name = "config-file"
  · rw [give_list (kind_configFile r hr hName), give_list (kind_configFile r hr hName), hName]
    split
    · exact .misuse _
    · refine .ok (h.insert_files ?_)
      calc
        ((filesOf given ++ splitCommas value) ++ rest).Perm
            (splitCommas value ++ (filesOf given ++ rest)) := by
          rw [← List.append_assoc]
          exact List.perm_append_comm.append_right rest
        _ |>.Perm (splitCommas value ++ (filesOf other ++ lasts)) := h.files.append_left _
        _ |>.Perm ((filesOf other ++ splitCommas value) ++ lasts) := by
          rw [← List.append_assoc]
          exact List.perm_append_comm.append_right lasts
  · exact follows_give value (h.others r.name hName) (h.insert hName)

theorem readVariable (h : SameButFiles rest lasts given other) {r : OptionRule}
    (hr : r ∈ optionRules) (environment : List (String × String)) :
    Follows (SameButFiles rest lasts) (readVariable environment given r)
      (readVariable environment other r) := by
  refine follows_readVariable environment ?_ h fun value => isKept rest lasts r hr value h
  by_cases hName : r.name = "config-file"
  · rw [hName]
    exact h.isGiven
  · rw [h.others r.name hName]

end SameButFiles

/-- Arguments with configuration files among them, each behind the arguments that stand before
it. -/
def withFiles (pieces : List (List String × String)) (last : List String) : List String :=
  pieces.flatMap (fun p => p.1 ++ ["--config-file", p.2]) ++ last

def filesIn (pieces : List (List String × String)) : List String :=
  pieces.flatMap fun p => splitCommas p.2

theorem withFiles_cons (gap : List String) (value : String) (pieces : List (List String × String))
    (last : List String) :
    withFiles ((gap, value) :: pieces) last =
      gap ++ "--config-file" :: value :: withFiles pieces last := by
  simp [withFiles]

theorem follows_withFiles {pieces others : List (List String × String)} (last : List String)
    (hGaps : pieces.map (·.1) = others.map (·.1)) (hNames : ∀ p ∈ others, NamesFiles p.2)
    {given other : Given} {waiting : Option OptionRule} (hWaiting : ∀ r ∈ waiting, r ∈ optionRules)
    (h : SameButFiles (filesIn pieces) (filesIn others) given other) :
    Follows (SameButFiles [] []) (readArguments given waiting (withFiles pieces last))
      (readArguments other waiting (withFiles others last)) := by
  induction pieces generalizing others given other waiting with
  | nil =>
    obtain rfl : others = [] := by simpa using hGaps
    exact (SameButFiles.isKept [] []).readArguments last hWaiting h
  | cons p pieces ih =>
    obtain ⟨gap, value⟩ := p
    obtain ⟨⟨gap, more⟩, others, rfl⟩ : ∃ q qs, others = q :: qs := by
      cases others with
      | nil => cases hGaps
      | cons q qs => exact ⟨q, qs, rfl⟩
    obtain ⟨rfl, hRest⟩ := List.cons.inj hGaps
    obtain ⟨hNamesHere, hNamesRest⟩ := List.forall_mem_cons.mp hNames
    rw [withFiles_cons, withFiles_cons]
    refine (SameButFiles.isKept _ _).readArguments_append gap (by simp) ?_ hWaiting h
    intro given other waiting _ hHere
    cases waiting with
    | some r =>
      rw [readArguments]
      exact .misuse _
    | none =>
      rw [readArguments_configFile, readArguments_configFile]
      split
      · exact .misuse _
      · rw [hNamesHere.1, hNamesHere.2, if_neg (by decide)]
        refine ih hRest hNamesRest (by simp) (hHere.insert_files ?_)
        simpa [filesIn] using hHere.files

/-- Arguments that can be read name files. They are read beside themselves here. -/
theorem follows_namesFiles (pieces : List (List String × String)) (last : List String)
    (given : Given) {waiting : Option OptionRule} (hWaiting : ∀ r ∈ waiting, r ∈ optionRules) :
    Follows (fun _ _ => ∀ p ∈ pieces, NamesFiles p.2)
      (readArguments given waiting (withFiles pieces last))
      (readArguments given waiting (withFiles pieces last)) := by
  induction pieces generalizing given waiting with
  | nil => exact (isKept_eq.readArguments last hWaiting rfl).mono fun _ _ _ => by simp
  | cons p pieces ih =>
    obtain ⟨gap, value⟩ := p
    rw [withFiles_cons]
    refine isKept_eq.readArguments_append gap (by simp) ?_ hWaiting rfl
    rintro given _ waiting - rfl
    cases waiting with
    | some r =>
      rw [readArguments]
      exact .misuse _
    | none =>
      rw [readArguments_configFile]
      split
      · exact .misuse _
      · rename_i hValue
        rw [Bool.or_eq_true, not_or, Bool.not_eq_true, Bool.not_eq_true] at hValue
        exact (ih _ (by simp)).mono fun _ _ hRest => List.forall_mem_cons.mpr ⟨hValue, hRest⟩

theorem read_withFiles {pieces others : List (List String × String)} {last : List String}
    {environment : List (String × String)} {given : Given}
    (hGaps : pieces.map (·.1) = others.map (·.1))
    (hValues : (pieces.map (·.2)).Perm (others.map (·.2)))
    (hRead : read (withFiles pieces last) environment = .ok given) :
    ∃ other, read (withFiles others last) environment = .ok other ∧
      SameButFiles [] [] given other := by
  have hFiles : (filesIn pieces).Perm (filesIn others) := by
    have hPerm := hValues.flatMap_right splitCommas
    rwa [List.flatMap_map, List.flatMap_map] at hPerm
  have hNames : ∀ p ∈ others, NamesFiles p.2 := by
    cases hArguments : readArguments .empty none (withFiles pieces last) with
    | error stop =>
      rw [read, hArguments] at hRead
      cases hRead
    | ok given =>
      obtain ⟨-, -, hAll⟩ := (follows_namesFiles pieces last .empty (by simp)).yields hArguments
      intro p hp
      obtain ⟨q, hq, hSame⟩ :=
        List.mem_map.mp (hValues.mem_iff.mpr (List.mem_map_of_mem hp))
      rw [← hSame]
      exact hAll q hq
  have hStart : SameButFiles (filesIn pieces) (filesIn others) .empty .empty :=
    ⟨fun _ _ => rfl, rfl, hFiles.append_left _⟩
  have hRuns : Follows (SameButFiles [] []) (read (withFiles pieces last) environment)
      (read (withFiles others last) environment) :=
    (follows_withFiles last hGaps hNames (by simp) hStart).bind fun _ _ hArguments =>
      follows_foldlM (fun r hr _ _ h => h.readVariable hr environment) hArguments
  exact hRuns.yields hRead

/-! ## Runs -/

/-- The configuration files that are given are there, and different ones are shown differently. -/
structure HasFiles (w : Workspace) (display : String → String) (given : Given) : Prop where
  there : ∀ file ∈ filesOf given, w.pathExists (Path.absolute w.cwdText file) = true
  shownApart : ShownApart display ((filesOf given).map (Path.absolute w.cwdText))

theorem ofGiven_eq_withFiles {given other : Given}
    (h : ∀ name, name ≠ "config-file" → given.get? name = other.get? name) :
    Settings.ofGiven given = (Settings.ofGiven other).withFiles (filesOf given) := by
  have hDefault : Settings.defaults "config-file" = [] := by decide
  simp [Settings.ofGiven, Settings.withFiles, filesOf, h, hDefault]

theorem infos_of_files_perm {w : Workspace} {display : String → String} {given other : Given}
    (hOthers : ∀ name, name ≠ "config-file" → given.get? name = other.get? name)
    (hFiles : (filesOf given).Perm (filesOf other)) (hThere : HasFiles w display given) :
    (Settings.ofGiven given).infos w display = (Settings.ofGiven other).infos w display := by
  calc
    _ = ((Settings.ofGiven other).withFiles (filesOf given)).infos w display := by
      rw [ofGiven_eq_withFiles hOthers]
    _ = ((Settings.ofGiven other).withFiles (filesOf other)).infos w display :=
      Settings.infos_withFiles_perm hFiles _ hThere.there hThere.shownApart
    _ = (Settings.ofGiven other).infos w display := by rw [← ofGiven_eq_withFiles fun _ _ => rfl]

theorem agrees_of_files_perm {w : Workspace} {i j : Invocation} {given other : Given}
    (hRead : read i.args i.environment = .ok given)
    (hOther : read j.args j.environment = .ok other)
    (hOthers : ∀ name, name ≠ "config-file" → given.get? name = other.get? name)
    (hFiles : (filesOf given).Perm (filesOf other))
    (hSingle : (Settings.ofGiven given).separateFiles = false)
    (hEngine : i.circumstances.engine = j.circumstances.engine)
    (hDisplay : i.circumstances.display = j.circumstances.display)
    (hThere : HasFiles w i.circumstances.display given) :
    (run w i).Agrees (run w j) := by
  have hSettings := ofGiven_eq_withFiles hOthers
  have hSame : (Settings.ofGiven given).outcome w i.processors i.circumstances =
      (Settings.ofGiven other).outcome w i.processors i.circumstances := by
    have hOptions : (Settings.ofGiven given).renderOptions = (Settings.ofGiven other).renderOptions :=
      (congrArg Settings.renderOptions hSettings).trans rfl
    have hDry : (Settings.ofGiven given).dryRun = (Settings.ofGiven other).dryRun :=
      (congrArg Settings.dryRun hSettings).trans rfl
    rw [Settings.outcome, Settings.outcome, infos_of_files_perm hOthers hFiles hThere, hOptions,
      hDry]
  have hOtherSingle : (Settings.ofGiven other).separateFiles = false := by
    rw [hSettings] at hSingle
    exact hSingle
  have hGiven := agrees_run (w := w) hRead
  rw [hSame, Settings.outcome_single hOtherSingle hEngine hDisplay w _ j.processors] at hGiven
  exact hGiven.trans (agrees_run hOther).symm

/-- With one reference for all configurations, the order in which configuration files are given does
not matter, if all of them are there and templates make the same of the same in both runs. It may be
any two commands that give the same files in some order, each as often, and the same values to all
other options; for one, the same arguments with the files in other places. -/
theorem file_order_does_not_matter (w : Workspace) :
    (∀ (i j : Invocation) (given other : Given),
      read i.args i.environment = .ok given → read j.args j.environment = .ok other →
      (∀ name, name ≠ "config-file" → given.get? name = other.get? name) →
      (filesOf given).Perm (filesOf other) →
      (Settings.ofGiven given).separateFiles = false →
      i.circumstances.engine = j.circumstances.engine →
      i.circumstances.display = j.circumstances.display →
      HasFiles w i.circumstances.display given →
      (run w i).Agrees (run w j)) ∧
    (∀ (pieces others : List (List String × String)) (last : List String)
        (environment : List (String × String)) (processors more : Nat) (c d : Circumstances)
        (given : Given),
      pieces.map (·.1) = others.map (·.1) → (pieces.map (·.2)).Perm (others.map (·.2)) →
      read (withFiles pieces last) environment = .ok given →
      (Settings.ofGiven given).separateFiles = false → c.engine = d.engine →
      c.display = d.display → HasFiles w c.display given →
      (run w {
        args := withFiles pieces last, environment, processors, circumstances := c }).Agrees
      (run w {
        args := withFiles others last, environment, processors := more, circumstances := d })) := by
  constructor
  · intro i j given other hRead hOther hOthers hFiles hSingle hEngine hDisplay hThere
    exact agrees_of_files_perm hRead hOther hOthers hFiles hSingle hEngine hDisplay hThere
  · intro pieces others last environment processors more c d given hGaps hValues hRead hSingle
      hEngine hDisplay hThere
    obtain ⟨other, hOther, hSame⟩ := read_withFiles hGaps hValues hRead
    have hFiles : (filesOf given).Perm (filesOf other) := by simpa using hSame.files
    exact agrees_of_files_perm (i := { args := withFiles pieces last, environment, processors
                                       circumstances := c })
      hRead hOther hSame.others hFiles hSingle hEngine hDisplay hThere

def pair : Workspace where
  root := .directory [("a.yaml", .file (Text.encode "k: 1\n")),
    ("b.yaml", .file (Text.encode "k: 2\n")),
    ("t", .file (Text.encode "\x7b\x7b ConfigPath \x7d\x7d\n"))]

def threeFiles (first second third : String) : List (List String × String) :=
  [(["-d"], first), (["-t", "t"], second), ([], third)]

theorem file_order_does_not_matter_for_pair :
    (run pair { args := withFiles (threeFiles "b.yaml" "a.yaml" "b.yaml") [] }).Agrees
      (run pair { args := withFiles (threeFiles "a.yaml" "b.yaml" "b.yaml") [] }) ∧
    (run pair { args := withFiles (threeFiles "b.yaml" "a.yaml" "b.yaml") [] }).printed =
      "/a.yaml, /b.yaml\n" := by
  have hFacts : ∃ given ∈
      (read (withFiles (threeFiles "b.yaml" "a.yaml" "b.yaml") []) []).toOption,
      (Settings.ofGiven given).separateFiles = false ∧
      ∀ file ∈ filesOf given, pair.pathExists (Path.absolute pair.cwdText file) = true := by
    decide +kernel
  obtain ⟨given, hGiven, hSingle, hThere⟩ := hFacts
  obtain ⟨-, hArguments⟩ := file_order_does_not_matter pair
  refine ⟨?_, by decide +kernel⟩
  exact hArguments (threeFiles "b.yaml" "a.yaml" "b.yaml") (threeFiles "a.yaml" "b.yaml" "b.yaml")
    [] [] 1 1 {} {} given rfl (.swap "a.yaml" "b.yaml" ["b.yaml"]) (eq_ok_of_mem_toOption hGiven)
    hSingle rfl rfl ⟨hThere, fun _ _ _ _ hSame => hSame⟩

/-- Two configurations, one with a name like an option, and a template that shows a number and
values. -/
def strays : Workspace where
  root := .directory [("-x.yaml", .file (Text.encode "k: 2\n")),
    ("a.yaml", .file (Text.encode "k: 1\n")),
    ("t", .file (Text.encode ("\x7b\x7b get_random(end=9) \x7d\x7d\x7b% for row in Values %\x7d "
      ++ "\x7b\x7b row.Default \x7d\x7d\x7b% endfor %\x7d\n")))]

def straysCall (first second : String) (c : Circumstances) : Invocation where
  args := withFiles [(["-d", "-t", "t"], first), ([], second)] []
  circumstances := c

/-- The order matters where a name behind an option is taken for another option. Two runs also differ
by the numbers that they draw. And of files that are shown alike the later one counts. -/
theorem file_order_matters_by_misuse_or_chance :
    (let call (files : String) : Invocation := { args := ["-d", "-t", "t", "-f", files] }
    (run strays (call "a.yaml,-x.yaml")).ending.status = 0 ∧
      (run strays (call "-x.yaml,a.yaml")).ending.status = 2) ∧
    (let draws (number : Int) : Circumstances := { engine := .standard fun _ _ => number }
    (run strays (straysCall "./-x.yaml" "a.yaml" (draws 1))).printed = "1 `1`\n" ∧
      (run strays (straysCall "a.yaml" "./-x.yaml" (draws 3))).printed = "3 `1`\n") ∧
    (let alike : Circumstances := { display := fun _ => "/?.yaml" }
    (run strays (straysCall "./-x.yaml" "a.yaml" alike)).printed = "0 `1`\n" ∧
      (run strays (straysCall "a.yaml" "./-x.yaml" alike)).printed = "0 `2`\n") := by
  decide +kernel

end ConfigReference.CommandLine
