import ConfigReference.KeyPath
import ConfigReference.Yaml.Node

/-!
# Addresses

The way from the root of a tree to a value, step by step. Its key path is what rows are listed
under. Written with dots before all steps instead, and with keys as they are, it becomes another
text in general: the two agree when no key needs quotes, and items stand at the root only.
-/

set_option autoImplicit false

namespace ConfigReference

namespace KeyPath

/-- A step from a container to one of its parts. -/
inductive Step where
  | key (text : String)
  | item (index : Nat)
  deriving DecidableEq, Repr

namespace Step

/-- The key path of a part of what is at `base`. -/
def onto (base : String) : Step → String
  | key text => child base text
  | item index => KeyPath.item base index

def ontoChars (base : List Char) : Step → List Char
  | key text => childChars base text.toList
  | item index => itemChars base index

/-- A step by itself, keys being as they are. -/
def chars : Step → List Char
  | key text => text.toList
  | item index => itemChars [] index

def isPlainKey : Step → Bool
  | key text => !(text.toList.contains '.' || text.toList.contains ' ')
  | item _ => false

end Step

def ofSteps (steps : List Step) : String := steps.foldl Step.onto ""

/-- Whether an address has no other items than one of the root, no key that needs quotes, and an
empty key only where there is a dot in front of it or nothing behind it. -/
def isPlain : List Step → Bool
  | [] => true
  | .item _ :: rest => rest.all Step.isPlainKey
  | .key text :: rest =>
    (Step.key text).isPlainKey && rest.all Step.isPlainKey && (!text.isEmpty || rest.isEmpty)

theorem toList_foldl_onto (base : String) (steps : List Step) :
    (steps.foldl Step.onto base).toList = steps.foldl Step.ontoChars base.toList := by
  induction steps generalizing base with
  | nil => rfl
  | cons s rest ih =>
    rw [List.foldl_cons, ih, List.foldl_cons]
    cases s <;> simp [Step.onto, Step.ontoChars, child, item]

theorem toList_ofSteps (steps : List Step) :
    (ofSteps steps).toList = steps.foldl Step.ontoChars [] := toList_foldl_onto "" steps

theorem ofSteps_concat (steps : List Step) (s : Step) :
    ofSteps (steps ++ [s]) = s.onto (ofSteps steps) := by
  simp [ofSteps]

/-! ## Against dots before all steps -/

theorem quote_of_isPlainKey {text : String} (h : (Step.key text).isPlainKey = true) :
    quote text.toList = text.toList := by
  simp only [Step.isPlainKey, Bool.not_eq_true'] at h
  rw [quote, h]
  rfl

theorem quote_of_not_isPlainKey {text : String} (h : (Step.key text).isPlainKey = false) :
    quote text.toList = '"' :: text.toList ++ ['"'] := by
  simp only [Step.isPlainKey, Bool.not_eq_false'] at h
  rw [quote, h]
  rfl

theorem exists_append_foldl (base : List Char) (steps : List Step) :
    ∃ tail, steps.foldl Step.ontoChars base = base ++ tail := by
  induction steps generalizing base with
  | nil => exact ⟨[], by simp⟩
  | cons s rest ih =>
    obtain ⟨tail, hTail⟩ := ih (s.ontoChars base)
    rw [List.foldl_cons, hTail]
    cases s with
    | item index => exact ⟨'[' :: Text.natDigits index ++ [']'] ++ tail, by
        simp [Step.ontoChars, itemChars]⟩
    | key text =>
      rw [Step.ontoChars, childChars]
      split
      · rename_i hBase
        exact ⟨quote text.toList ++ tail, by simp [List.isEmpty_iff.mp hBase]⟩
      · exact ⟨'.' :: quote text.toList ++ tail, by simp⟩

/-- A text that goes on with itself behind another character consists of that character. -/
theorem eq_of_append_eq_cons_append {c : Char} {s left right : List Char}
    (h : s ++ left = c :: (s ++ right)) : ∀ x ∈ s, x = c := by
  induction s generalizing c with
  | nil => simp
  | cons y s ih =>
    obtain ⟨rfl, hRest⟩ := List.cons.inj h
    exact List.forall_mem_cons.mpr ⟨rfl, ih hRest⟩

theorem append_ne_quote_append {text : String} (h : (Step.key text).isPlainKey = false)
    (left right : List Char) : text.toList ++ left ≠ quote text.toList ++ right := by
  intro hEq
  rw [quote_of_not_isPlainKey h, List.cons_append, List.cons_append, List.append_assoc] at hEq
  have hQuotes := eq_of_append_eq_cons_append hEq
  simp only [Step.isPlainKey, Bool.not_eq_false', Bool.or_eq_true, List.contains_iff_mem] at h
  rcases h with hDot | hBlank
  · exact absurd (hQuotes '.' hDot) (by decide)
  · exact absurd (hQuotes ' ' hBlank) (by decide)

theorem foldl_ontoChars_eq_iff {base : List Char} (hBase : base ≠ []) (steps : List Step) :
    steps.foldl Step.ontoChars base = base ++ steps.flatMap (fun s => '.' :: s.chars) ↔
      steps.all Step.isPlainKey = true := by
  induction steps generalizing base with
  | nil => simp
  | cons s rest ih =>
    rw [List.foldl_cons, List.flatMap_cons, List.all_cons]
    cases s with
    | item index =>
      obtain ⟨tail, hTail⟩ := exists_append_foldl ((Step.item index).ontoChars base) rest
      rw [hTail, Step.ontoChars, itemChars]
      simp [Step.isPlainKey]
    | key text =>
      have hChars : (Step.key text).ontoChars base = base ++ '.' :: quote text.toList := by
        simp [Step.ontoChars, childChars, hBase]
      cases hPlain : (Step.key text).isPlainKey with
      | true =>
        rw [quote_of_isPlainKey hPlain] at hChars
        have hNext : base ++ '.' :: text.toList ≠ [] := by simp
        rw [hChars, Bool.true_and, ← ih hNext, Step.chars, List.append_assoc]
      | false =>
        obtain ⟨tail, hTail⟩ := exists_append_foldl ((Step.key text).ontoChars base) rest
        rw [hTail, hChars, Step.chars]
        simp only [List.append_assoc, List.cons_append, List.append_cancel_left_eq,
          List.cons.injEq, true_and, Bool.false_and, Bool.false_eq_true, iff_false]
        exact fun hEq => append_ne_quote_append hPlain _ _ hEq.symm

theorem head?_foldl_ne_dot (steps : List Step) :
    (steps.foldl Step.ontoChars []).head? ≠ some '.' := by
  induction steps with
  | nil => simp
  | cons s rest ih =>
    obtain ⟨tail, hTail⟩ := exists_append_foldl (s.ontoChars []) rest
    rw [List.foldl_cons]
    cases s with
    | item index =>
      rw [hTail]
      simp [Step.ontoChars, itemChars]
    | key text =>
      cases hPlain : (Step.key text).isPlainKey with
      | false =>
        have hChars : (Step.key text).ontoChars [] = '"' :: text.toList ++ ['"'] :=
          quote_of_not_isPlainKey hPlain
        rw [hTail, hChars]
        simp
      | true =>
        have hChars : (Step.key text).ontoChars [] = text.toList := quote_of_isPlainKey hPlain
        cases hText : text.toList with
        | nil => rwa [hChars, hText]
        | cons c cs =>
          rw [hTail, hChars, hText]
          simp only [Step.isPlainKey, hText] at hPlain
          intro hDot
          simp_all

theorem intercalate_cons_flatMap (first : List Char) (rest : List (List Char)) :
    ['.'].intercalate (first :: rest) = first ++ rest.flatMap ('.' :: ·) := by
  induction rest generalizing first with
  | nil => simp
  | cons second rest ih => simp [List.intercalate_cons_cons, ih]

theorem intercalate_chars_eq_iff (steps : List Step) :
    ['.'].intercalate (steps.map Step.chars) = (ofSteps steps).toList ↔ isPlain steps = true := by
  rw [toList_ofSteps, eq_comm]
  cases steps with
  | nil => simp [isPlain]
  | cons s rest =>
    rw [List.map_cons, intercalate_cons_flatMap, List.flatMap_map, List.foldl_cons]
    cases s with
    | item index =>
      have hBase : (Step.item index).ontoChars [] ≠ [] := by simp [Step.ontoChars, itemChars]
      exact foldl_ontoChars_eq_iff hBase rest
    | key text =>
      cases hPlain : (Step.key text).isPlainKey with
      | false =>
        obtain ⟨tail, hTail⟩ := exists_append_foldl ((Step.key text).ontoChars []) rest
        have hChars : (Step.key text).ontoChars [] = quote text.toList := rfl
        rw [hTail, hChars, isPlain, hPlain]
        simp only [Bool.false_and, Bool.false_eq_true, iff_false]
        exact fun hEq => append_ne_quote_append hPlain _ _ hEq.symm
      | true =>
        have hChars : (Step.key text).ontoChars [] = text.toList := quote_of_isPlainKey hPlain
        rw [hChars, isPlain, hPlain, Bool.true_and, Step.chars]
        by_cases hText : text = ""
        · subst hText
          cases rest with
          | nil => simp
          | cons next rest =>
            have hHead := head?_foldl_ne_dot (next :: rest)
            constructor
            · intro hEq
              rw [show "".toList = [] from rfl] at hEq
              rw [hEq] at hHead
              simp at hHead
            · simp
        · have hBase : text.toList ≠ [] := by simpa using hText
          simp [foldl_ontoChars_eq_iff hBase, hText]

end KeyPath

namespace Yaml.Node

mutual

/-- The addresses of the values inside a node, in document order. The steps given lead to the node
itself. -/
def addressesBelow (steps : List KeyPath.Step) : Node → List (List KeyPath.Step)
  | scalar .. => []
  | aliasTo _ target => addressesBelow steps target
  | sequence _ items => itemAddresses steps 0 items
  | mapping _ entries => entryAddresses steps entries

def itemAddresses (steps : List KeyPath.Step) (index : Nat) : List Node → List (List KeyPath.Step)
  | [] => []
  | item :: rest =>
    (steps ++ [.item index]) :: addressesBelow (steps ++ [.item index]) item
      ++ itemAddresses steps (index + 1) rest

def entryAddresses (steps : List KeyPath.Step) : List (Node × Node) → List (List KeyPath.Step)
  | [] => []
  | (key, value) :: rest =>
    (steps ++ [.key key.text]) :: addressesBelow (steps ++ [.key key.text]) value
      ++ entryAddresses steps rest

end

def addresses (root : Node) : List (List KeyPath.Step) := addressesBelow [] root

end Yaml.Node

end ConfigReference
