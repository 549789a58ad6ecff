import ConfigReference.Proofs.Template.Rendering

/-!
# Bodies that set variables

Parts that set variables show nothing and leave another scope to the parts behind them. The rules
for them stand beside those for parts that show something, together with the rules for filters and
tests that take a text.
-/

set_option autoImplicit false

namespace ConfigReference.Template

variable {s : Setting} {callee : Callee} {p : Place} {scope : Scope} {name t : String}

/-! ## Expressions -/

theorem gives_text : Gives s callee p scope (.text t) (.string t) := by
  rw [Gives, outcome]
  rfl

theorem Gives.patternFilter {e : Expr} {label pattern : String}
    {f : List Char → List Char → List Char} (h : Gives s callee p scope e (.string t))
    (hFilter : filter? name = some (Template.patternFilter label f)) :
    Gives s callee p scope (.filter e name [("pat", .text pattern)])
      (.string (.ofList (f (patternChars pattern) t.toList))) := by
  have hApplied : applyFilter p name (.ok (.string t)) [("pat", .ok (.string pattern))] =
      .ok (.string (.ofList (f (patternChars pattern) t.toList))) := by
    rw [applyFilter]
    simp only [Except.bind, hFilter]
    rfl
  have hArgs : argValues s callee p scope [("pat", .text pattern)] =
      [("pat", .ok (.string pattern))] := by
    rw [argValues, argValues, gives_text]
  rw [Gives, outcome, hArgs]
  split
  · rw [h]
    exact hApplied
  · rw [h]
    exact hApplied

theorem holds_textTest {v : Variable} {part : String} {f : List Char → List Char → Bool}
    (h : scope.lookup? s.data v = some (.string t))
    (hTest : test? name = some (textTest name f)) :
    Holds s callee p scope (.test v false name [.text part]) (f part.toList t.toList) := by
  have hArgs : (outcomes s callee p scope [.text part]).map (·.value) =
      [.ok (.string part)] := by
    rw [outcomes, outcomes, outcome]
    rfl
  have hAnswer : applyTest p name (some (.string t)) [.ok (.string part)] =
      .ok (f part.toList t.toList) := by
    rw [applyTest, hTest]
    rfl
  rw [Holds, outcome, hArgs, h, hAnswer]
  exact congrArg Except.ok (Bool.bne_false _)

theorem Gives.holds_equal {e : Expr} {u : String} (h : Gives s callee p scope e (.string t)) :
    Holds s callee p scope (.equal e (.text u)) (t == u) := by
  have hText : (outcome s callee p scope (.text u)).value = .ok (.string u) := gives_text
  rw [Holds, outcome, Outcome.equal, h, hText]
  exact congrArg Except.ok (beq_true _)

/-! ## Parts -/

/-- A part that shows nothing and leaves `last` to the parts behind it. -/
def Part.Sets (s : Setting) (callee : Callee) (p : Place) (scope : Scope) (part : Part)
    (last : Scope) : Prop := renderPart s callee p scope part = .ok ("", last)

def Sets (s : Setting) (callee : Callee) (p : Place) (scope : Scope) (parts : List Part)
    (last : Scope) : Prop := renderParts s callee p scope parts = .ok ("", last)

theorem Sets.nil : Sets s callee p scope [] scope := by
  rw [Sets, renderParts]

theorem Sets.cons {part : Part} {parts : List Part} {middle last : Scope}
    (h : part.Sets s callee p scope middle) (hRest : Sets s callee p middle parts last) :
    Sets s callee p scope (part :: parts) last := by
  rw [Sets, renderParts, h]
  change (renderParts s callee p middle parts).bind _ = _
  rw [hRest]
  rfl

theorem Gives.sets_assign {e : Expr} {value : Json} (h : Gives s callee p scope e value) :
    (Part.assign name e).Sets s callee p scope (scope.assign name value) := by
  rw [Part.Sets, renderPart, h]
  rfl

theorem Holds.sets_branch {cond : Expr} {truth : Bool} {yes no : List Part} {last : Scope}
    (h : Holds s callee p scope cond truth)
    (hParts : Sets s callee p scope (if truth then yes else no) last) :
    (Part.branch cond yes no).Sets s callee p scope last := by
  rw [Part.Sets, renderPart, h]
  cases truth with
  | true => exact hParts
  | false => exact hParts

def Renders (s : Setting) (callee : Callee) (p : Place) (scope : Scope) (parts : List Part)
    (text : String) : Prop := ∃ last, renderParts s callee p scope parts = .ok (text, last)

theorem Shows.renders {parts : List Part} (h : Shows s callee p scope parts t) :
    Renders s callee p scope parts t := ⟨scope, h⟩

theorem Renders.behind {part : Part} {parts : List Part} {middle : Scope}
    (h : part.Sets s callee p scope middle) (hRest : Renders s callee p middle parts t) :
    Renders s callee p scope (part :: parts) t := by
  obtain ⟨last, hRest⟩ := hRest
  refine ⟨last, ?_⟩
  rw [renderParts, h]
  change (renderParts s callee p middle parts).bind _ = _
  rw [hRest]
  change Except.ok ("" ++ t, last) = _
  rw [String.empty_append]

theorem Renders.renderBody {depth : Nat} {body : List Part}
    (h : Renders s (renderBody s depth) p scope body t) :
    Template.renderBody s (depth + 1) p scope body = .ok t := by
  obtain ⟨last, h⟩ := h
  rw [Template.renderBody, h]
  rfl

end ConfigReference.Template
