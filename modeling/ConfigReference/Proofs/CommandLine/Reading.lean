import ConfigReference.CommandLine.Arguments

/-!
# Readings side by side

Two readings of the same arguments that begin with different values. What giving one value to one
option keeps between them is kept to the end of the arguments. A reading that ends in a misuse says
nothing about the other.
-/

set_option autoImplicit false

namespace ConfigReference.CommandLine

theorem eq_ok_of_mem_toOption {ε α : Type} {x : Except ε α} {a : α} (h : a ∈ x.toOption) :
    x = .ok a := by
  cases x with
  | error e => cases h
  | ok b => exact congrArg Except.ok (Option.some.inj h)

/-- What `x` yields, `y` yields too, with related values, and it asks for what `x` asks for. -/
structure Follows {α : Type} (R : α → α → Prop) (x y : Except Stop α) : Prop where
  yields : ∀ {a}, x = .ok a → ∃ b, y = .ok b ∧ R a b
  asks : ∀ {stop}, x = .error stop → stop ≠ .misuse → y = .error stop

namespace Follows

variable {α β : Type} {R : α → α → Prop} {S : β → β → Prop}

theorem ok {a b : α} (h : R a b) : Follows R (.ok a) (.ok b) := by
  constructor
  · intro found hFound
    cases hFound
    exact ⟨b, rfl, h⟩
  · intro stop hStop
    cases hStop

theorem misuse (y : Except Stop α) : Follows R (.error .misuse) y := by
  constructor
  · intro a ha
    cases ha
  · intro stop hStop hOther
    cases hStop
    exact absurd rfl hOther

theorem stop (e : Stop) : Follows R (.error e) (.error e) := by
  constructor
  · intro a ha
    cases ha
  · intro stop hStop _
    exact hStop

theorem bind {x y : Except Stop α} (h : Follows R x y) {f g : α → Except Stop β}
    (hNext : ∀ a b, R a b → Follows S (f a) (g b)) : Follows S (x >>= f) (y >>= g) := by
  cases x with
  | ok a =>
    obtain ⟨b, rfl, hRel⟩ := h.yields rfl
    exact hNext a b hRel
  | error e =>
    by_cases hMisuse : e = .misuse
    · rw [hMisuse]
      exact misuse _
    · rw [h.asks rfl hMisuse]
      exact stop e

theorem mono {S : α → α → Prop} {x y : Except Stop α} (h : Follows R x y)
    (hImp : ∀ a b, R a b → S a b) : Follows S x y := by
  refine ⟨fun hx => ?_, h.asks⟩
  obtain ⟨b, hy, hRel⟩ := h.yields hx
  exact ⟨b, hy, hImp _ b hRel⟩

theorem map {x y : Except Stop α} (h : Follows R x y) {f : α → β}
    (hNext : ∀ a b, R a b → S (f a) (f b)) : Follows S (x.map f) (y.map f) :=
  h.bind (f := fun a => .ok (f a)) fun a b hRel => ok (hNext a b hRel)

end Follows

/-- What is kept when an option gets a value on both sides. -/
def IsKept (R : Given → Given → Prop) : Prop :=
  ∀ r ∈ optionRules, ∀ (value : String) {given other : Given}, R given other →
    Follows R (r.give given value) (r.give other value)

structure LeaveAlike (R : Given → Given → Prop) (p q : Given × Option OptionRule) : Prop where
  given : R p.1 q.1
  waiting : p.2 = q.2
  isRule : ∀ r ∈ p.2, r ∈ optionRules

section

variable {R : Given → Given → Prop} {given other : Given}

theorem LeaveAlike.none (h : R given other) : LeaveAlike R (given, none) (other, none) :=
  ⟨h, rfl, by simp⟩

theorem LeaveAlike.some (h : R given other) {r : OptionRule} (hr : r ∈ optionRules) :
    LeaveAlike R (given, some r) (other, some r) :=
  ⟨h, rfl, by simpa using hr⟩

theorem IsKept.give (hKept : IsKept R) {r : OptionRule} (hr : r ∈ optionRules) (h : R given other)
    (value : String) : Follows (LeaveAlike R) ((r.give given value).map (·, Option.none))
      ((r.give other value).map (·, Option.none)) :=
  (hKept r hr value h).map fun _ _ => .none

theorem IsKept.readName (hKept : IsKept R) (h : R given other) (s : List Char) :
    Follows (LeaveAlike R) (readName given s) (readName other s) := by
  unfold CommandLine.readName
  extract_lets name value?
  cases hRule : optionRules.find? (·.name = name) with
  | none =>
    dsimp only
    split
    · exact .stop _
    · split <;> exact .stop _
  | some r =>
    have hr := List.mem_of_find?_eq_some hRule
    cases value? with
    | some value =>
      dsimp only
      split
      · exact .stop _
      · exact hKept.give hr h value
    | none =>
      dsimp only
      split
      · exact hKept.give hr h "true"
      · exact .ok (.some h hr)

theorem IsKept.readLetters (hKept : IsKept R) (letters : List Char) (h : R given other) :
    Follows (LeaveAlike R) (readLetters given letters) (readLetters other letters) := by
  induction letters generalizing given other with
  | nil => exact .ok (.none h)
  | cons c rest ih =>
    rw [CommandLine.readLetters, CommandLine.readLetters]
    cases hRule : optionRules.find? (·.letter = some c) with
    | none =>
      dsimp only
      split
      · exact .stop _
      · split <;> exact .stop _
    | some r =>
      have hr := List.mem_of_find?_eq_some hRule
      dsimp only
      split
      · exact (hKept r hr "true" h).bind fun _ _ hNext => ih hNext
      · split
        · exact .ok (.some h hr)
        · exact hKept.give hr h _
        · exact hKept.give hr h _

/-- One more argument on both sides. What it leaves is related, so that reading on depends on the
arguments behind it. -/
theorem IsKept.readArgument {S : Given → Given → Prop} (hKept : IsKept R) (arg : String)
    {rest others : List String} {waiting : Option OptionRule}
    (hWaiting : ∀ r ∈ waiting, r ∈ optionRules) (h : R given other)
    (hEnd : rest = [] → others = [])
    (hRest : ∀ {given other : Given} {waiting : Option OptionRule},
      (∀ r ∈ waiting, r ∈ optionRules) → R given other →
        Follows S (readArguments given waiting rest) (readArguments other waiting others)) :
    Follows S (readArguments given waiting (arg :: rest))
      (readArguments other waiting (arg :: others)) := by
  have hGoOn (p q : Given × Option OptionRule) (hAlike : LeaveAlike R p q) :
      Follows S (readArguments p.1 p.2 rest) (readArguments q.1 q.2 others) := by
    rw [← hAlike.waiting]
    exact hRest hAlike.isRule hAlike.given
  cases waiting with
  | some r =>
    rw [readArguments, readArguments]
    cases looksLikeOption arg with
    | true => exact .misuse _
    | false =>
      exact (hKept r (hWaiting r rfl) arg h).bind fun _ _ hNext => hRest (by simp) hNext
  | none =>
    unfold readArguments
    dsimp only
    split
    · -- behind two dashes nothing may stand, on either side
      by_cases hNone : rest = []
      · have hOver : Follows S (readArguments given none rest) (readArguments other none others) :=
          hRest (by simp) h
        rw [hEnd hNone, hNone] at hOver ⊢
        exact hOver
      · rw [if_neg (by simpa using hNone)]
        exact .misuse _
    · exact (hKept.readName h _).bind hGoOn
    · exact (hKept.readLetters _ h).bind hGoOn
    · exact .misuse _

/-- The same arguments on both sides, before such as are read alike. -/
theorem IsKept.readArguments_append {S : Given → Given → Prop} (hKept : IsKept R)
    (args : List String) {rest others : List String} (hEnd : rest = [] → others = [])
    (hRest : ∀ {given other : Given} {waiting : Option OptionRule},
      (∀ r ∈ waiting, r ∈ optionRules) → R given other →
        Follows S (readArguments given waiting rest) (readArguments other waiting others))
    {waiting : Option OptionRule} (hWaiting : ∀ r ∈ waiting, r ∈ optionRules)
    (h : R given other) :
    Follows S (readArguments given waiting (args ++ rest))
      (readArguments other waiting (args ++ others)) := by
  induction args generalizing given other waiting with
  | nil => exact hRest hWaiting h
  | cons arg args ih =>
    refine hKept.readArgument arg hWaiting h ?_ ih
    intro hNone
    obtain ⟨rfl, hRestNone⟩ := List.append_eq_nil_iff.mp hNone
    rw [hEnd hRestNone]
    rfl

theorem IsKept.readArguments (hKept : IsKept R) (args : List String) {waiting : Option OptionRule}
    (hWaiting : ∀ r ∈ waiting, r ∈ optionRules) (h : R given other) :
    Follows R (readArguments given waiting args) (readArguments other waiting args) := by
  rw [← List.append_nil args]
  refine hKept.readArguments_append args id ?_ hWaiting h
  intro given other waiting _ hEnd
  rw [CommandLine.readArguments, CommandLine.readArguments]
  split
  · exact .stop _
  · exact .ok hEnd

theorem follows_give {r : OptionRule} (value : String)
    (hHere : given.get? r.name = other.get? r.name)
    (hInsert : ∀ values, R (given.insert r.name values) (other.insert r.name values)) :
    Follows R (r.give given value) (r.give other value) := by
  rw [OptionRule.give, OptionRule.give, hHere]
  generalize (if r.kind = .list then splitCommas value else [value]) = values
  split
  · exact .stop _
  · split
    · exact .stop _
    · split
      · exact .ok (hInsert _)
      · split
        · exact .ok (hInsert _)
        · exact .stop _

theorem follows_readVariable {r : OptionRule} (environment : List (String × String))
    (hHere : (given.get? r.name).isSome = (other.get? r.name).isSome) (h : R given other)
    (hGive : ∀ value, Follows R (r.give given value) (r.give other value)) :
    Follows R (readVariable environment given r) (readVariable environment other r) := by
  rw [readVariable, readVariable]
  cases hGiven : given.get? r.name <;> cases hOther : other.get? r.name <;>
    simp only [hGiven, hOther, Option.isSome_none, Option.isSome_some, Bool.false_eq_true,
      Bool.true_eq_false] at hHere
  · cases environment.lookup r.variable with
    | none => exact .ok h
    | some value => exact hGive value
  · exact .ok h

theorem isKept_eq : IsKept Eq := by
  intro r _ value given other h
  rw [h]
  exact follows_give value rfl fun _ => rfl

theorem follows_foldlM {f g : Given → OptionRule → Except Stop Given} {rules : List OptionRule}
    (hStep : ∀ r ∈ rules, ∀ {given other : Given}, R given other →
      Follows R (f given r) (g other r)) (h : R given other) :
    Follows R (rules.foldlM f given) (rules.foldlM g other) := by
  induction rules generalizing given other with
  | nil => exact .ok h
  | cons r rules ih =>
    rw [List.foldlM_cons, List.foldlM_cons]
    refine (hStep r List.mem_cons_self h).bind fun _ _ hNext => ?_
    exact ih (fun r hr => hStep r (List.mem_cons_of_mem _ hr)) hNext

end

end ConfigReference.CommandLine
