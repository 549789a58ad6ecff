import ConfigReference.Proofs.Audit.Agreement
import ConfigReference.Proofs.KeyPath.Spot

/-!
# What an audit reports

An audit passes a value whose path is described or allowed to lack a description. It fails with the
paths of all others, one for each spot of the tree and in the order of the spots.
-/

set_option autoImplicit false

namespace ConfigReference.Audit

open KeyPath

/-- Whether one of the paths is `path`, or one of the patterns occurs in it, blanks around them
aside. Blank paths and patterns do not count. -/
def IsAllowed (paths patterns : List String) (path : String) : Prop :=
  (∃ given ∈ paths, trimmed given ≠ "" ∧ trimmed given = path) ∨
    ∃ text ∈ patterns, trimmed text ≠ "" ∧
      ∃ pattern, Pattern.parse? (trimmed text) = some pattern ∧ pattern.occursIn path = true

theorem exists_of_bind_eq_ok {α β ε : Type} {x : Except ε α} {f : α → Except ε β} {b : β}
    (h : x >>= f = .ok b) : ∃ a, x = .ok a ∧ f a = .ok b := by
  cases x with
  | error e => cases h
  | ok a => exact ⟨a, rfl, h⟩

theorem forall₂_of_mapM_eq_ok {α β ε : Type} {f : α → Except ε β} {items : List α}
    {results : List β} (h : items.mapM f = .ok results) :
    List.Forall₂ (fun item result => f item = .ok result) items results := by
  induction items generalizing results with
  | nil =>
    obtain rfl := Except.ok.inj h
    exact .nil
  | cons item rest ih =>
    rw [List.mapM_cons] at h
    obtain ⟨result, hItem, h⟩ := exists_of_bind_eq_ok h
    obtain ⟨others, hRest, h⟩ := exists_of_bind_eq_ok h
    obtain rfl := Except.ok.inj h
    exact .cons hItem (ih hRest)

theorem mem_trimmed_iff {texts : List String} {text : String} :
    text ∈ (texts.map trimmed).filter (!·.isEmpty) ↔
      ∃ given ∈ texts, trimmed given ≠ "" ∧ trimmed given = text := by
  rw [List.mem_filter, List.mem_map]
  constructor
  · rintro ⟨⟨given, hGiven, rfl⟩, hText⟩
    exact ⟨given, hGiven, by simpa using hText, rfl⟩
  · rintro ⟨given, hGiven, hText, rfl⟩
    exact ⟨⟨given, hGiven, rfl⟩, by simpa using hText⟩

theorem Policy.ofTexts_ok {strict : Bool} {paths patterns : List String} {policy : Policy}
    (h : Policy.ofTexts strict paths patterns = .ok policy) :
    policy.allowedPaths = (paths.map trimmed).filter (!·.isEmpty) ∧
      List.Forall₂ (fun text pattern => Pattern.parse? text = some pattern)
        ((patterns.map trimmed).filter (!·.isEmpty)) policy.allowedPatterns := by
  rw [Policy.ofTexts] at h
  obtain ⟨read, hRead, hPolicy⟩ := exists_of_bind_eq_ok h
  obtain rfl := Except.ok.inj hPolicy
  refine ⟨rfl, (forall₂_of_mapM_eq_ok hRead).imp fun text pattern hText => ?_⟩
  split at hText
  · rename_i found hFound
    obtain rfl := Except.ok.inj hText
    exact hFound
  · cases hText

theorem Policy.allows_iff {strict : Bool} {paths patterns : List String} {policy : Policy}
    (h : Policy.ofTexts strict paths patterns = .ok policy) (path : String) :
    policy.allows path = true ↔ IsAllowed paths patterns path := by
  obtain ⟨hPaths, hPatterns⟩ := Policy.ofTexts_ok h
  rw [Policy.allows, Bool.or_eq_true, List.contains_iff_mem, hPaths, mem_trimmed_iff, IsAllowed]
  refine or_congr Iff.rfl ?_
  rw [List.any_eq_true]
  constructor
  · rintro ⟨pattern, hPattern, hOccurs⟩
    obtain ⟨text, hText, hRead⟩ := Row.exists_of_forall₂_left hPatterns.flip hPattern
    obtain ⟨given, hGiven, hBlank, rfl⟩ := mem_trimmed_iff.mp hText
    exact ⟨given, hGiven, hBlank, pattern, hRead, hOccurs⟩
  · rintro ⟨given, hGiven, hBlank, pattern, hRead, hOccurs⟩
    obtain ⟨found, hFound, hSame⟩ :=
      Row.exists_of_forall₂_left hPatterns (mem_trimmed_iff.mpr ⟨given, hGiven, hBlank, rfl⟩)
    obtain rfl := Option.some.inj (hRead.symm.trans hSame)
    exact ⟨pattern, hFound, hOccurs⟩

def passes (policy : Policy) (ds : Descriptions) (steps : List Step) : Bool :=
  ds.contains (addressText steps) || policy.allows (addressText steps)

theorem passes_iff {strict : Bool} {paths patterns : List String} {policy : Policy}
    (h : Policy.ofTexts strict paths patterns = .ok policy) (ds : Descriptions)
    (steps : List Step) : passes policy ds steps = true ↔
      ds.contains (addressText steps) = true ∨ IsAllowed paths patterns (addressText steps) := by
  rw [passes, Bool.or_eq_true, Policy.allows_iff h]

/-- The spots that do not pass, each with its address. -/
def offending (policy : Policy) (root : Yaml.Node) (ds : Descriptions) :
    List (List Nat × List Step) :=
  root.spots.filter fun found => !passes policy ds found.2

theorem mem_offending {policy : Policy} {root : Yaml.Node} {ds : Descriptions} {spot : List Nat}
    {steps : List Step} : (spot, steps) ∈ offending policy root ds ↔
      spot ≠ [] ∧ root.stepsAt? spot = some steps ∧ ¬passes policy ds steps = true := by
  rw [offending, List.mem_filter, Yaml.Node.mem_spots, and_assoc, Bool.not_eq_true']
  simp only [Bool.not_eq_true]

theorem check_eq_offending (policy : Policy) (root : Yaml.Node) (ds : Descriptions) :
    check policy root ds =
      if (offending policy root ds).isEmpty then .ok ()
      else .error (.undocumented ((offending policy root ds).map fun found =>
        addressText found.2)) := by
  have hPaths : (undocumented root ds).filter (!policy.allows ·) =
      (offending policy root ds).map fun found => addressText found.2 := by
    have hFilter : offending policy root ds = (root.spots.filter fun found =>
        !ds.contains (addressText found.2)).filter fun found =>
          !policy.allows (addressText found.2) := by
      rw [offending, List.filter_filter]
      refine List.filter_congr fun found _ => ?_
      rw [passes, Bool.not_or, Bool.and_comm]
    rw [undocumented_eq, reported, Yaml.Node.addresses_eq_map_spots, hFilter, List.filter_map,
      List.filter_map, List.filter_map, List.map_map]
    rfl
  rw [check, hPaths]
  cases offending policy root ds <;> rfl

/-- An audit passes if and only if every entry and item of the tree is described or allowed to lack
a description. Otherwise it fails with the paths of just the others, one for each spot and in the
order of the spots, in which a value comes before what is inside it. -/
theorem audit_reports_exactly {strict : Bool} {paths patterns : List String} {policy : Policy}
    (hPolicy : Policy.ofTexts strict paths patterns = .ok policy) (root : Yaml.Node)
    (ds : Descriptions) :
    (check policy root ds = .ok () ↔ ∀ spot steps, spot ≠ [] →
      root.stepsAt? spot = some steps →
        ds.contains (addressText steps) = true ∨ IsAllowed paths patterns (addressText steps)) ∧
    ∃ found : List (List Nat × List Step),
      found.Pairwise (fun a b => a.1 < b.1) ∧
      (∀ spot steps, (spot, steps) ∈ found ↔ spot ≠ [] ∧ root.stepsAt? spot = some steps ∧
        ¬(ds.contains (addressText steps) = true ∨
          IsAllowed paths patterns (addressText steps))) ∧
      check policy root ds =
        if found.isEmpty then .ok ()
        else .error (.undocumented (found.map fun f => addressText f.2)) := by
  have hFound : ∀ spot steps, (spot, steps) ∈ offending policy root ds ↔
      spot ≠ [] ∧ root.stepsAt? spot = some steps ∧ ¬(ds.contains (addressText steps) = true ∨
        IsAllowed paths patterns (addressText steps)) := by
    intro spot steps
    rw [mem_offending, passes_iff hPolicy]
  refine ⟨?_, offending policy root ds, ?_, hFound, check_eq_offending policy root ds⟩
  · have hNone : check policy root ds = .ok () ↔ offending policy root ds = [] := by
      rw [check_eq_offending]
      cases offending policy root ds <;> simp
    rw [hNone, List.eq_nil_iff_forall_not_mem]
    constructor
    · intro h spot steps hSpot hSteps
      by_contra hOffends
      exact h (spot, steps) ((hFound spot steps).mpr ⟨hSpot, hSteps, hOffends⟩)
    · rintro h ⟨spot, steps⟩ hMem
      obtain ⟨hSpot, hSteps, hOffends⟩ := (hFound spot steps).mp hMem
      exact hOffends (h spot steps hSpot hSteps)
  · exact root.pairwise_spots.filter _

/-- A key that stands twice is reported twice, and what an alias stands for in both places. -/
theorem audit_reports_exactly_repeated_key :
    let leaf : Yaml.Node := .scalar {} .str "v"
    let entry (key : String) (value : Yaml.Node) : Yaml.Node × Yaml.Node :=
      (.scalar {} .str key, value)
    let inner : Yaml.Node := .mapping {} [entry "k" leaf]
    let root : Yaml.Node := .mapping {} [entry "a" (.sequence {} [leaf, inner]),
      entry "b" (.aliasTo {} inner), entry "b" leaf]
    let ds : Descriptions := KeyedMap.empty.insert "a" {}
    ∃ policy, Policy.ofTexts true [" a.[0] ", " "] ["", "^b.k$ "] = .ok policy ∧
      check policy root ds = .error (.undocumented ["a.[1]", "a.[1].k", "b", "b"]) ∧
      ∃ found : List (List Nat × List Step), found.Pairwise (fun a b => a.1 < b.1) ∧
        check policy root ds =
          if found.isEmpty then .ok ()
          else .error (.undocumented (found.map fun f => addressText f.2)) := by
  intro leaf entry inner root ds
  have hPolicy : Policy.ofTexts true [" a.[0] ", " "] ["", "^b.k$ "] = .ok _ := rfl
  refine ⟨_, hPolicy, by decide +kernel, ?_⟩
  obtain ⟨-, found, hOrder, -, hCheck⟩ := audit_reports_exactly hPolicy root ds
  exact ⟨found, hOrder, hCheck⟩

end ConfigReference.Audit
