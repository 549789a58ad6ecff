import ConfigReference.Template.Filter
import ConfigReference.Template.Value

/-!
# Rendering templates

What expressions come to and what text bodies have. A body is rendered by recursion on itself;
inserted templates and macros are rendered by a function that is passed along, which is where the
depth of their nesting is bounded.
-/

set_option autoImplicit false

namespace ConfigReference.Template

structure Stop where
  site : Option MacroSite
  cause : Cause
  deriving DecidableEq, Repr

abbrev Rendering := Except Stop

def Rendering.mapCause {α : Type} (f : Cause → Cause) (r : Rendering α) : Rendering α :=
  r.mapError fun stop => { stop with cause := f stop.cause }

/-- The template that is active, and the macro if its text is that of one. -/
structure Place where
  template : String
  site : Option MacroSite := none

def Place.stop {α : Type} (p : Place) (cause : Cause) : Rendering α := .error ⟨p.site, cause⟩

def Place.lift {α : Type} (p : Place) (r : Except Cause α) : Rendering α :=
  r.mapError fun cause => ⟨p.site, cause⟩

/-- Macros by the name of their space; each space knows the template they stand in. -/
abbrev MacroSpaces := List (String × String × List MacroDefinition)

abbrev Library := List (String × Template)

structure Setting where
  library : Library
  /-- The functions that can be called. -/
  function? : String → Option (Args → Except Cause Json)
  data : List (String × Json)

/-! ## Macros -/

def MacroSpaces.put (spaces : MacroSpaces) (name home : String) (macros : List MacroDefinition) :
    MacroSpaces :=
  (name, home, macros) :: spaces.filter (·.1 ≠ name)

/-- The macros of an imported template under the name it is given, and the spaces that it knows
itself where their names are free. -/
def MacroSpaces.add (known : String → MacroSpaces) (library : Library) (spaces : MacroSpaces)
    (imported : String × String) : MacroSpaces :=
  let (home, name) := imported
  let macros := ((library.lookup home).map (·.macros)).getD []
  let spaces := spaces.put name home macros
  spaces ++ (known home).filter fun s => (spaces.lookup s.1).isNone

/-- The macros that a template can call: its own as `self`, and those it imports. Imports are
followed as often as the number tells. -/
def Library.spaces (library : Library) : Nat → String → MacroSpaces
  | 0, _ => []
  | fuel + 1, name =>
    match library.lookup name with
    | none => []
    | some t =>
      t.imports.foldl (MacroSpaces.add (Library.spaces library fuel) library)
        (if t.macros.isEmpty then [] else [("self", name, t.macros)])

def Library.findMacro (library : Library) (template macroSpace name : String) :
    Except Cause (String × MacroDefinition) :=
  match (library.spaces (library.length + 1) template).lookup macroSpace with
  | none => .error (.unknownNamespace macroSpace template)
  | some (home, macros) =>
    match macros.find? (·.name = name) with
    | none => .error (.unknownMacro macroSpace name template)
    | some m => .ok (home, m)

/-- The values of a macro's parameters. Arguments that it does not have are left aside. -/
def MacroDefinition.bind (m : MacroDefinition) (p : Place)
    (args : List (String × Rendering Json)) : Rendering (List (String × Json)) :=
  m.params.mapM fun (param, default?) =>
    match args.lookup param, default? with
    | some value, _ => value.map (param, ·)
    | none, some value => .ok (param, value)
    | none, none => p.stop (.missingArgument m.name param)

/-! ## Expressions -/

/-- What an expression comes to: its value, and its truth where it is a condition. -/
structure Outcome where
  value : Rendering Json
  truth : Rendering Bool

namespace Outcome

def ofValue (value : Rendering Json) : Outcome := ⟨value, value.map (·.isTrue)⟩

def ofTruth (truth : Rendering Bool) : Outcome := ⟨truth.map .bool, truth⟩

/-- A condition that cannot be evaluated is false, unless that is because of a crash. -/
def lenient (value : Rendering Json) : Outcome :=
  ⟨value, match value with
    | .ok v => .ok v.isTrue
    | .error stop => if stop.cause.crash?.isSome then .error stop else .ok false⟩

def and (a b : Outcome) : Outcome :=
  ofTruth (a.truth.bind fun t => if t then b.truth else .ok false)

def or (a b : Outcome) : Outcome :=
  ofTruth (a.truth.bind fun t => if t then .ok true else b.truth)

/-- Whether two values are equal, as numbers if one of them is a number. `wanted` is the answer that
counts as true; a number is neither equal nor unequal to what is no number. -/
def equal (wanted : Bool) (a b : Outcome) : Outcome :=
  ofTruth <| a.value.bind fun x => b.value.bind fun y => .ok <|
    match x, y with
    | .number m, .number n => (m.toFloat == n.toFloat) == wanted
    | .number _, _ | _, .number _ => false
    | _, _ => x.same y == wanted

end Outcome

def callFunction (s : Setting) (p : Place) (name : String)
    (args : List (String × Rendering Json)) : Rendering Json :=
  match s.function? name with
  | none => p.stop (.unknownFunction name)
  | some f => Rendering.mapCause (.functionFailed name) do
    p.lift (f (← args.mapM fun (arg, value) => value.map (arg, ·)))

def applyFilter (p : Place) (name : String) (value : Rendering Json)
    (args : List (String × Rendering Json)) : Rendering Json :=
  value.bind fun v =>
    match filter? name with
    | none => p.stop (.unknownFilter name)
    | some f => Rendering.mapCause (.filterFailed name) do
      p.lift (f v (← args.mapM fun (arg, value) => value.map (arg, ·)))

def applyTest (p : Place) (name : String) (value? : Option Json) (args : List (Rendering Json)) :
    Rendering Bool :=
  match test? name with
  | none => p.stop (.unknownTest name)
  | some f => Rendering.mapCause (.testFailed name) do
    p.lift (f value? (← args.mapM id))

/-- Renders a body at another place: an inserted template or a macro. -/
abbrev Callee := Place → Scope → List Part → Rendering String

/-- The text of a macro. It sees nothing but its parameters and the data. -/
def callMacro (s : Setting) (callee : Callee) (p : Place) (macroSpace name : String)
    (args : List (String × Rendering Json)) : Rendering Json := do
  let (home, m) ← p.lift (s.library.findMacro p.template macroSpace name)
  let assigned ← m.bind p args
  let text ← callee ⟨home, some ⟨macroSpace, name⟩⟩ [{ assigned }] m.body
  return .string text

def lookup (s : Setting) (p : Place) (scope : Scope) (v : Variable) : Rendering Json :=
  match scope.lookup? s.data v with
  | some value => .ok value
  | none => p.stop (.unknownVariable v.text p.template)

def isUndefined (s : Setting) (scope : Scope) (e : Expr) : Bool :=
  e.variable?.any fun v => (scope.lookup? s.data v).isNone

mutual

/-- What an expression comes to. What is missing is false in a condition and as what `not` stands
before; filters behind anything but a variable do not count in a condition. -/
def outcome (s : Setting) (callee : Callee) (p : Place) (scope : Scope) : Expr → Outcome
  | .text t => .ofValue (.ok (.string t))
  | .int n => .ofValue (.ok (.int n))
  | .float x => .ofValue (.ok (.number (.float x)))
  | .bool b => .ofValue (.ok (.bool b))
  | .array items =>
    .ofValue (((outcomes s callee p scope items).mapM Outcome.value).map .array)
  | .var v => .lenient (lookup s p scope v)
  | .call name args =>
    let value := callFunction s p name (argValues s callee p scope args)
    ⟨value, value.bind fun
      | .bool b => .ok b
      | _ => p.stop (.notABoolean name)⟩
  | .macroCall macroSpace name args =>
    .ofValue (callMacro s callee p macroSpace name (argValues s callee p scope args))
  | .filter e name args =>
    let o := outcome s callee p scope e
    let filtered := Outcome.lenient
      (applyFilter p name o.value (argValues s callee p scope args))
    if e.isVariable then filtered else { filtered with truth := o.truth }
  | .test v negated name args =>
    .ofTruth ((applyTest p name (scope.lookup? s.data v)
      ((outcomes s callee p scope args).map (·.value))).map (· != negated))
  | .not e =>
    let o := outcome s callee p scope e
    if e.isVariable then
      if isUndefined s scope e then .ofValue (.ok (.bool true))
      else .lenient (o.value.map fun v => .bool !v.isTrue)
    else ⟨o.value.map fun v => .bool !v.isTrue, o.truth.map (!·)⟩
  | .and a b => .and (outcome s callee p scope a) (outcome s callee p scope b)
  | .or a b => .or (outcome s callee p scope a) (outcome s callee p scope b)
  | .equal a b => .equal true (outcome s callee p scope a) (outcome s callee p scope b)
  | .unequal a b => .equal false (outcome s callee p scope a) (outcome s callee p scope b)

def outcomes (s : Setting) (callee : Callee) (p : Place) (scope : Scope) :
    List Expr → List Outcome
  | [] => []
  | e :: rest => outcome s callee p scope e :: outcomes s callee p scope rest

def argValues (s : Setting) (callee : Callee) (p : Place) (scope : Scope) :
    List (String × Expr) → List (String × Rendering Json)
  | [] => []
  | (name, e) :: rest =>
    (name, (outcome s callee p scope e).value) :: argValues s callee p scope rest

end

/-! ## Bodies -/

def containerName : Expr → String
  | .var v => v.text
  | .call name _ => name
  | .filter e _ _ => containerName e
  | _ => "an array literal"

def rounds (key? : Option String) (name container : String) (value : Json) :
    Except Cause (List (List (String × Json))) :=
  match value, key? with
  | .array items, none => .ok (items.map fun item => [(name, item)])
  | .string s, none => .ok (s.toList.map fun c => [(name, .string (.ofList [c]))])
  | .object members, some key =>
    .ok (members.map fun (k, v) => [(name, v), (key, .string k)])
  | .array _, some _ | .string _, some _ => .error (.loop container .notAMapping)
  | .object _, none => .error (.loop container .missingKey)
  | _, _ => .error (.loop container .notIterable)

mutual

def renderPart (s : Setting) (callee : Callee) (p : Place) (scope : Scope) :
    Part → Rendering (String × Scope)
  | .text t => .ok (t, scope)
  | .output e => do
    return ((← (outcome s callee p scope e).value).shown, scope)
  | .assign name e => do
    return ("", scope.assign name (← (outcome s callee p scope e).value))
  | .branch cond yes no => do
    if ← (outcome s callee p scope cond).truth then renderParts s callee p scope yes
    else renderParts s callee p scope no
  | .loop key name container body => do
    let value ← (outcome s callee p scope container).value
    let given ← p.lift (rounds key name (containerName container) value)
    let texts ← given.mapM fun given => do
      return (← renderParts s callee ⟨p.template, none⟩ ({ given } :: scope) body).1
    return ("".intercalate texts, scope)
  | .insert template => do
    match s.library.lookup template with
    | none => p.stop (.templateNotFound [template])
    | some t => return (← callee ⟨template, none⟩ ({} :: scope) t.body, scope)

def renderParts (s : Setting) (callee : Callee) (p : Place) (scope : Scope) :
    List Part → Rendering (String × Scope)
  | [] => .ok ("", scope)
  | part :: rest => do
    let (text, scope) ← renderPart s callee p scope part
    let (texts, scope) ← renderParts s callee p scope rest
    return (text ++ texts, scope)

end

/-- Render a body in which templates and macros nest less deeply than the number tells. Where they
nest more deeply, the process is taken to run out of its stack. -/
def renderBody (s : Setting) : Nat → Callee
  | 0, p, _, _ => p.stop (.crash .aborted)
  | depth + 1, p, scope, body => do
    return (← renderParts s (renderBody s depth) p scope body).1

/-- How deeply templates and macros may nest here. How deep the stack of a process is, is not known;
this is more than templates need that do not call each other without an end. -/
def maxDepth : Nat := 1000

def Library.render (library : Library) (function? : String → Option (Args → Except Cause Json))
    (name : String) (data : Json) : Except Fault String :=
  match data with
  | .object members =>
    let body := ((library.lookup name).map (·.body)).getD []
    (renderBody ⟨library, function?, members⟩ maxDepth ⟨name, none⟩ [{}] body).mapError
      fun stop => .stopped name stop.site stop.cause
  | _ => .error .dataNotAMapping

end ConfigReference.Template
