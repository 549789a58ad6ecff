import ConfigReference.Listing.Glob

/-!
# Globs below a path

A pattern is looked for below a directory by putting the escaped path of the directory in front of
it. What is read of the path are tokens that accept its characters and nothing else, and the pattern
is then read as it is by itself, up to a repetition of `**` that means the same. So a path below the
directory is accepted exactly when the pattern accepts what follows the directory.
-/

set_option autoImplicit false

namespace ConfigReference.Listing.Glob

/-! ## Steps of reading -/

/-- What a step reads: the tokens that it adds, what is left, and whether a part begins there. -/
structure Piece where
  fresh : Bool
  tokens : List Token
  rest : List Char

/-- Whether two more stars add nothing to the tokens that were read. -/
def repeats (tokens : List Token) : Bool :=
  tokens.head? = some .directories && 1 < tokens.length

/-- One step of reading. Of what was read before it only knows whether a part begins here, and
whether two more stars add nothing. -/
def step? (fresh again : Bool) : List Char → Option Piece
  | [] => none
  | '*' :: '*' :: '*' :: _ => none
  | '*' :: '*' :: rest =>
    if fresh then
      (readDirectories? rest).map fun rest =>
        ⟨true, if again then [] else [.directories], rest⟩
    else none
  | '*' :: rest => some ⟨false, [.run], rest⟩
  | '?' :: rest => some ⟨false, [.anyChar], rest⟩
  | '[' :: rest => (readBracket? rest).map fun (token, rest) => ⟨false, [token], rest⟩
  | c :: rest => some ⟨c == '/', [.char c], rest⟩

theorem read?_nil (fuel : Nat) (fresh : Bool) (tokens : List Token) :
    read? (fuel + 1) fresh tokens [] = some tokens.reverse := by rw [read?]

theorem read?_succ (fuel : Nat) (fresh : Bool) (tokens : List Token) {s : List Char}
    (h : s ≠ []) : read? (fuel + 1) fresh tokens s =
      (step? fresh (repeats tokens) s).bind fun piece =>
        read? fuel piece.fresh (piece.tokens ++ tokens) piece.rest := by
  rw [read?.eq_def]
  dsimp only
  split
  · exact absurd rfl h
  · rfl
  · rename_i rest hTwo
    rw [step?]
    · cases fresh with
      | false => rfl
      | true =>
        simp only [if_true]
        cases readDirectories? rest with
        | none => rfl
        | some rest =>
          show read? fuel true (if repeats tokens then tokens else .directories :: tokens) rest = _
          cases repeats tokens <;> rfl
    · exact hTwo
  · rename_i rest hThree hTwo
    rw [step?]
    · rfl
    · exact hThree
    · exact hTwo
  · rfl
  · rename_i rest
    rw [step?]
    cases readBracket? rest <;> rfl
  · rw [step?]
    · rfl
    all_goals assumption

theorem length_lt_of_splitBracket? {s inside rest : List Char}
    (h : splitBracket? s = some (inside, rest)) : rest.length < s.length := by
  cases s with
  | nil => cases h
  | cons first s =>
    rw [splitBracket?] at h
    have hLength := (List.dropWhile_sublist (fun c : Char => c != ']') (l := s)).length_le
    split at h
    · rename_i hDrop
      obtain ⟨-, rfl⟩ := Prod.mk.inj (Option.some.inj h)
      rw [hDrop] at hLength
      simp only [List.length_cons] at hLength ⊢
      omega
    · cases h

theorem length_lt_of_readBracket? {s rest : List Char} {token : Token}
    (h : readBracket? s = some (token, rest)) : rest.length < s.length := by
  rw [readBracket?.eq_def] at h
  split at h
  · obtain ⟨⟨inside, after⟩, hSplit, hEq⟩ := Option.map_eq_some_iff.mp h
    obtain ⟨-, rfl⟩ := Prod.mk.inj hEq
    exact Nat.lt_succ_of_lt (length_lt_of_splitBracket? hSplit)
  · obtain ⟨⟨inside, after⟩, hSplit, hEq⟩ := Option.map_eq_some_iff.mp h
    obtain ⟨-, rfl⟩ := Prod.mk.inj hEq
    exact length_lt_of_splitBracket? hSplit

theorem length_le_of_readDirectories? {s rest : List Char} (h : readDirectories? s = some rest) :
    rest.length ≤ s.length := by
  rw [readDirectories?.eq_def] at h
  split at h
  · cases h
    exact Nat.le_refl _
  · cases h
    exact Nat.le_succ _
  · cases h

theorem length_lt_of_step? {fresh again : Bool} {s : List Char} {piece : Piece}
    (h : step? fresh again s = some piece) : piece.rest.length < s.length := by
  rw [step?.eq_def] at h
  split at h
  · cases h
  · cases h
  · split at h
    · obtain ⟨rest, hRest, rfl⟩ := Option.map_eq_some_iff.mp h
      have hLength := length_le_of_readDirectories? hRest
      simp only [List.length_cons]
      omega
    · cases h
  · cases h
    exact Nat.lt_succ_self _
  · cases h
    exact Nat.lt_succ_self _
  · obtain ⟨⟨token, rest⟩, hRest, rfl⟩ := Option.map_eq_some_iff.mp h
    exact Nat.lt_succ_of_lt (length_lt_of_readBracket? hRest)
  · cases h
    exact Nat.lt_succ_self _

/-- The number of steps that are allowed does not matter once there is one for each character. -/
theorem read?_fuel {fuel other : Nat} {s : List Char} (h : s.length < fuel)
    (hOther : s.length < other) (fresh : Bool) (tokens : List Token) :
    read? fuel fresh tokens s = read? other fresh tokens s := by
  induction fuel generalizing other fresh tokens s with
  | zero => cases h
  | succ fuel ih =>
    obtain ⟨other, rfl⟩ := Nat.exists_eq_add_one_of_ne_zero (Nat.ne_zero_of_lt hOther)
    by_cases hEnd : s = []
    · rw [hEnd, read?_nil, read?_nil]
    · rw [read?_succ _ _ _ hEnd, read?_succ _ _ _ hEnd]
      refine Option.bind_congr fun piece hPiece => ?_
      have hLess := length_lt_of_step? hPiece
      exact ih (by omega) (by omega) _ _

/-! ## Reading an escaped path -/

def isSpecial (c : Char) : Bool := "?*[]".toList.contains c

def exactly (c : Char) : Token := if isSpecial c then .within [(c, c)] else .char c

theorem isSpecial_iff {c : Char} :
    isSpecial c = true ↔ c = '?' ∨ c = '*' ∨ c = '[' ∨ c = ']' := by
  simp [isSpecial]

theorem escape_cons (c : Char) (s : List Char) :
    escape (c :: s) = (if isSpecial c then ['[', c, ']'] else [c]) ++ escape s := rfl

theorem step?_bracketed {c : Char} (h : isSpecial c = true) (fresh again : Bool)
    (s : List Char) :
    step? fresh again ('[' :: c :: ']' :: s) = some ⟨false, [.within [(c, c)]], s⟩ := by
  rcases isSpecial_iff.mp h with rfl | rfl | rfl | rfl <;> rfl

theorem step?_plain {c : Char} (h : isSpecial c = false) (fresh again : Bool) (s : List Char) :
    step? fresh again (c :: s) = some ⟨c == '/', [.char c], s⟩ := by
  rw [step?.eq_def]
  split <;> simp_all [isSpecial]

theorem read?_escape (root s : List Char) {fuel : Nat}
    (hFuel : (escape root ++ '/' :: s).length < fuel) (fresh : Bool) (tokens : List Token) :
    read? fuel fresh tokens (escape root ++ '/' :: s) =
      read? (s.length + 1) true (.char '/' :: (root.map exactly).reverse ++ tokens) s := by
  induction root generalizing fuel fresh tokens with
  | nil =>
    obtain ⟨fuel, rfl⟩ := Nat.exists_eq_add_one_of_ne_zero (Nat.ne_zero_of_lt hFuel)
    have hSlash : isSpecial '/' = false := by decide
    have hStep : escape [] ++ '/' :: s = '/' :: s := rfl
    rw [hStep] at hFuel ⊢
    rw [read?_succ _ _ _ (List.cons_ne_nil _ _), step?_plain hSlash]
    exact read?_fuel (Nat.lt_of_succ_lt_succ hFuel) (Nat.lt_succ_self _) _ _
  | cons c root ih =>
    obtain ⟨fuel, rfl⟩ := Nat.exists_eq_add_one_of_ne_zero (Nat.ne_zero_of_lt hFuel)
    rw [escape_cons] at hFuel ⊢
    rw [List.map_cons, List.reverse_cons, exactly]
    cases hSpecial : isSpecial c with
    | true =>
      simp only [hSpecial, if_true, List.cons_append, List.nil_append, List.length_cons]
        at hFuel ⊢
      rw [read?_succ _ _ _ (List.cons_ne_nil _ _), step?_bracketed hSpecial]
      rw [Option.bind_some, ih (by omega), List.append_assoc]
      rfl
    | false =>
      simp only [hSpecial, Bool.false_eq_true, if_false, List.cons_append, List.nil_append,
        List.length_cons] at hFuel ⊢
      rw [read?_succ _ _ _ (List.cons_ne_nil _ _), step?_plain hSpecial]
      rw [Option.bind_some, ih (by omega), List.append_assoc]
      rfl

theorem read?_behind_slash (fuel : Nat) (fresh : Bool) (tokens before : List Token)
    (s : List Char) :
    read? fuel fresh (tokens ++ .char '/' :: before) s =
      (read? fuel fresh (tokens ++ [.char '/']) s).map (before.reverse ++ ·) := by
  induction fuel generalizing fresh tokens s with
  | zero => rfl
  | succ fuel ih =>
    by_cases hEnd : s = []
    · rw [hEnd, read?_nil, read?_nil]
      simp
    · have hRepeats : repeats (tokens ++ .char '/' :: before) =
          repeats (tokens ++ [.char '/']) := by
        cases tokens with
        | nil => simp [repeats]
        | cons token tokens =>
          simp only [repeats, List.cons_append, List.head?_cons, List.length_cons,
            List.length_append]
          congr 2
          exact propext (by omega)
      rw [read?_succ _ _ _ hEnd, read?_succ _ _ _ hEnd, hRepeats, Option.map_bind]
      refine Option.bind_congr fun piece _ => ?_
      simp only [Function.comp_apply, ← List.append_assoc]
      exact ih _ _ _

theorem parse?_slash (s : List Char) :
    parse? ('/' :: s) = read? (s.length + 1) true [.char '/'] s :=
  read?_escape [] s (Nat.lt_succ_self _) true []

theorem parse?_escape (root s : List Char) :
    parse? (escape root ++ '/' :: s) = (parse? ('/' :: s)).map (root.map exactly ++ ·) := by
  have hBehind := read?_behind_slash (s.length + 1) true [] (root.map exactly).reverse s
  rw [List.reverse_reverse] at hBehind
  rw [parse?_slash, parse?, read?_escape root s (Nat.lt_succ_self _), List.append_nil]
  exact hBehind

/-! ## What is accepted below a path -/

theorem accepts_append_congr {g h : Glob} (hSame : ∀ s, accepts g s = accepts h s)
    (front : List Token) (s : List Char) : accepts (front ++ g) s = accepts (front ++ h) s := by
  induction front generalizing s with
  | nil => exact hSame s
  | cons token front ih =>
    have hBehind : accepts (front ++ g) = accepts (front ++ h) := funext ih
    cases token with
    | char c => cases s <;> simp only [List.cons_append, accepts, hBehind]
    | _ => simp only [List.cons_append, accepts, hBehind]

theorem afterDirectories_again (k : List Char → Bool) (s : List Char) :
    afterDirectories (fun s => k s || afterDirectories k s) s = afterDirectories k s := by
  induction s with
  | nil => simp [afterDirectories]
  | cons c rest ih =>
    rw [afterDirectories, afterDirectories, ih]
    cases c == '/' <;> cases k rest <;> simp

/-- Two stars in two parts in a row mean what they mean in one. -/
theorem accepts_directories_again (g : Glob) (s : List Char) :
    accepts (.directories :: .directories :: g) s = accepts (.directories :: g) s := by
  have hBehind : accepts (.directories :: g) =
      fun s => accepts g s || afterDirectories (accepts g) s := funext fun s => by rw [accepts]
  rw [accepts, hBehind, afterDirectories_again]
  cases accepts g s <;> simp

theorem accepts_exactly (root : List Char) (g : Glob) (s : List Char) :
    accepts (root.map exactly ++ g) (root ++ s) = accepts g s := by
  induction root with
  | nil => rfl
  | cons c root ih =>
    rw [List.map_cons, exactly]
    cases hSpecial : isSpecial c with
    | false => simp [accepts, ih]
    | true =>
      have hSlash : (c != '/') = true := by
        rcases isSpecial_iff.mp hSpecial with rfl | rfl | rfl | rfl <;> rfl
      simp [accepts, afterOne, inRanges, hSlash, ih]

/-- A step reads the same whatever was read before, unless it reads two stars. -/
theorem step?_cases (fresh : Bool) (s : List Char) :
    (∀ again, step? fresh again s = step? fresh false s) ∨
      ∃ rest, ∀ again, step? fresh again s =
        some ⟨true, if again then [] else [.directories], rest⟩ := by
  simp only [step?.eq_def]
  split
  · exact Or.inl fun _ => rfl
  · exact Or.inl fun _ => rfl
  · rename_i stars _
    split
    · cases readDirectories? stars with
      | none => exact Or.inl fun _ => rfl
      | some rest => exact Or.inr ⟨rest, fun _ => rfl⟩
    · exact Or.inl fun _ => rfl
  all_goals exact Or.inl fun _ => rfl

section

variable {again : Bool} {tokens : List Token}

theorem head?_stars (h : again = true → tokens.head? = some .directories) :
    ((if again then [] else [Token.directories]) ++ tokens).head? = some .directories := by
  cases again with
  | true => exact h rfl
  | false => rfl

theorem accepts_stars (h : again = true → tokens.head? = some .directories) (g : Glob)
    (s : List Char) :
    accepts (((if again then [] else [Token.directories]) ++ tokens).reverse ++ g) s =
      accepts (tokens.reverse ++ .directories :: g) s := by
  cases again with
  | false => simp
  | true =>
    obtain ⟨more, rfl⟩ := List.head?_eq_some_iff.mp (h rfl)
    simp only [if_true, List.nil_append, List.reverse_cons, List.append_assoc,
      List.singleton_append]
    exact accepts_append_congr (fun s => (accepts_directories_again g s).symm) more.reverse s

theorem head?_of_repeats (h : repeats tokens = true) : tokens.head? = some .directories := by
  simp only [repeats, Bool.and_eq_true, decide_eq_true_eq] at h
  exact h.1

theorem head?_of_repeats_behind_slash (h : repeats (tokens ++ [.char '/']) = true) :
    tokens.head? = some .directories := by
  have hHead := head?_of_repeats h
  cases tokens with
  | nil => cases hHead
  | cons token tokens => exact hHead

end

/-- Behind a slash a pattern is read as it is by itself, up to two stars that are repeated: tokens
that begin alike and accept alike lead to globs that do. -/
theorem any_read?_behind_slash (fuel : Nat) (fresh : Bool) {tokens others : List Token}
    (s name : List Char) (hHead : tokens.head? = others.head?)
    (hSame : ∀ g s, accepts (tokens.reverse ++ g) s = accepts (others.reverse ++ g) s) :
    (read? fuel fresh (tokens ++ [.char '/']) s).any (accepts · name) =
      (read? fuel fresh others s).any fun g => accepts (.char '/' :: g) name := by
  induction fuel generalizing fresh tokens others s with
  | zero => rfl
  | succ fuel ih =>
    by_cases hEnd : s = []
    · rw [hEnd, read?_nil, read?_nil, Option.any_some, Option.any_some, List.reverse_append]
      exact accepts_append_congr (fun s => by simpa using hSame [] s) [.char '/'] name
    · rw [read?_succ _ _ _ hEnd, read?_succ _ _ _ hEnd]
      rcases step?_cases fresh s with hPlain | ⟨rest, hStars⟩
      · rw [hPlain (repeats (tokens ++ _)), hPlain (repeats others)]
        cases step? fresh false s with
        | none => rfl
        | some piece =>
          rw [Option.bind_some, Option.bind_some, ← List.append_assoc]
          apply ih
          · rw [List.head?_append, List.head?_append, hHead]
          · intro g s
            rw [List.reverse_append, List.reverse_append, List.append_assoc, List.append_assoc,
              hSame]
      · have hTokens := @head?_of_repeats_behind_slash tokens
        have hOthers := @head?_of_repeats others
        rw [hStars, hStars, Option.bind_some, Option.bind_some, ← List.append_assoc]
        apply ih
        · rw [head?_stars hTokens, head?_stars hOthers]
        · intro g s
          rw [accepts_stars hTokens, accepts_stars hOthers, hSame]

/-- Whether a text is a pattern and accepts a name. -/
def selects (pattern name : List Char) : Bool := (parse? pattern).any (accepts · name)

theorem selects_below_root (root pattern name : List Char) :
    selects (escape root ++ '/' :: pattern) (root ++ name) =
      (parse? pattern).any fun g => accepts (.char '/' :: g) name := by
  have hAlone := @any_read?_behind_slash (pattern.length + 1) true [] [] pattern name rfl
    fun _ _ => rfl
  rw [selects, parse?_escape, Option.any_map, parse?_slash]
  simp only [accepts_exactly]
  exact hAlone

theorem selects_escape (root pattern name : List Char) :
    selects (escape root ++ '/' :: pattern) (root ++ '/' :: name) = selects pattern name := by
  rw [selects_below_root, selects]
  simp [accepts]

theorem selects_escape_self (root pattern : List Char) :
    selects (escape root ++ '/' :: pattern) root = false := by
  have h := selects_below_root root pattern []
  rw [List.append_nil] at h
  rw [h]
  simp [accepts]

end ConfigReference.Listing.Glob
