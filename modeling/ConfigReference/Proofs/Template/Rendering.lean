import ConfigReference.Proofs.KeyedMap
import ConfigReference.Template.Render

/-!
# Texts of bodies

A body whose expressions all have values shows the texts of its parts one after the other. There is
one rule for each kind of part and of expression that stands in the built-in templates, so that
what a template shows can be put together along its syntax. What inserted templates and macros show
is left to the callee.
-/

set_option autoImplicit false

namespace ConfigReference

namespace Json

theorem sortMembers_eq_ofList (members : List (String × Json)) :
    sortMembers members = (KeyedMap.ofList members).entries :=
  (KeyedMap.entries_foldl_insert .empty members).symm

theorem lookup_sortMembers (members : List (String × Json)) (key : String) :
    (sortMembers members).lookup key = (members.filter (·.1 == key)).getLast?.map (·.2) := by
  rw [sortMembers_eq_ofList]
  exact KeyedMap.get?_ofList members key

theorem follow?_ofMembers {members : List (String × Json)} {key : String} {value : Json}
    (h : (members.filter (·.1 == key)).getLast?.map (·.2) = some value) (path : List String) :
    (ofMembers members).follow? (key :: path) = value.follow? path := by
  rw [← lookup_sortMembers] at h
  exact congrArg (Option.bind · (·.follow? path)) h

theorem follow?_member {members : List (String × Json)} {key : String} {value : Json}
    (h : (members.filter (·.1 == key)).getLast?.map (·.2) = some value) :
    (ofMembers members).follow? [key] = some value := follow?_ofMembers h []

theorem shown_string (t : String) : (string t).shown = t := String.ofList_toList

def members : Json → List (String × Json)
  | object members => members
  | _ => []

theorem object_members_ofMembers (members : List (String × Json)) :
    object (ofMembers members).members = ofMembers members := rfl

end Json

namespace Template

/-! ## Variables -/

def Scope.LeavesFree (scope : Scope) (name : String) : Prop :=
  ∀ f ∈ scope, f.assigned.lookup name = none ∧ f.given.lookup name = none

theorem Scope.LeavesFree.empty_frame {scope : Scope} {name : String} (h : scope.LeavesFree name) :
    Scope.LeavesFree ({} :: scope) name := List.forall_mem_cons.mpr ⟨⟨rfl, rfl⟩, h⟩

theorem Scope.LeavesFree.lookup?_eq {scope : Scope} {name : String} (h : scope.LeavesFree name)
    (data : List (String × Json)) (path : List String) :
    scope.lookup? data ⟨name, path⟩ = (Json.object data).follow? (name :: path) := by
  induction scope with
  | nil => rfl
  | cons f rest ih =>
    obtain ⟨⟨hAssigned, hGiven⟩, hRest⟩ := List.forall_mem_cons.mp h
    have hNone : f.lookup? ⟨name, path⟩ = none := by
      simp [Frame.lookup?, Variable.valueIn?, hAssigned, hGiven]
    rw [Scope.lookup?, hNone, Option.none_or]
    exact ih hRest

variable {data : List (String × Json)} {name : String} {item value : Json} {path : List String}

theorem Scope.lookup?_given (scope : Scope) (h : item.follow? path = some value) :
    Scope.lookup? data ⟨name, path⟩ ({ given := [(name, item)] } :: scope) = some value := by
  simp [Scope.lookup?, Frame.lookup?, Variable.valueIn?, h]

theorem Scope.lookup?_assigned (scope : Scope) (h : item.follow? path = some value) :
    Scope.lookup? data ⟨name, path⟩ ({ assigned := [(name, item)] } :: scope) = some value := by
  simp [Scope.lookup?, Frame.lookup?, Variable.valueIn?, h]

theorem Scope.lookup?_given_member {members : List (String × Json)} {key : String} (scope : Scope)
    (h : (members.filter (·.1 == key)).getLast?.map (·.2) = some value) :
    Scope.lookup? data ⟨name, [key]⟩ ({ given := [(name, .ofMembers members)] } :: scope) =
      some value := Scope.lookup?_given scope (Json.follow?_member h)

theorem Scope.lookup?_assigned_member {members : List (String × Json)} {key : String}
    (scope : Scope) (h : (members.filter (·.1 == key)).getLast?.map (·.2) = some value) :
    Scope.lookup? data ⟨name, [key]⟩ ({ assigned := [(name, .ofMembers members)] } :: scope) =
      some value := Scope.lookup?_assigned scope (Json.follow?_member h)

/-! ## Expressions -/

variable {s : Setting} {callee : Callee} {p : Place} {scope : Scope}

attribute [local simp] outcome renderPart renderParts

def Gives (s : Setting) (callee : Callee) (p : Place) (scope : Scope) (e : Expr) (value : Json) :
    Prop := (outcome s callee p scope e).value = .ok value

def Holds (s : Setting) (callee : Callee) (p : Place) (scope : Scope) (e : Expr) (truth : Bool) :
    Prop := (outcome s callee p scope e).truth = .ok truth

theorem lookup_eq_ok {v : Variable} (h : scope.lookup? s.data v = some value) :
    lookup s p scope v = .ok value := by
  rw [lookup, h]

theorem gives_var {v : Variable} (h : scope.lookup? s.data v = some value) :
    Gives s callee p scope (.var v) value := by
  simp [Gives, Outcome.lenient, lookup_eq_ok h]

theorem holds_var {v : Variable} (h : scope.lookup? s.data v = some value) :
    Holds s callee p scope (.var v) value.isTrue := by
  simp [Holds, Outcome.lenient, lookup_eq_ok h]

theorem holds_bool {v : Variable} {b : Bool} (h : scope.lookup? s.data v = some (.bool b)) :
    Holds s callee p scope (.var v) b := holds_var h

theorem holds_string {v : Variable} {t : String} (h : scope.lookup? s.data v = some (.string t)) :
    Holds s callee p scope (.var v) !t.isEmpty := by
  have hTruth : (Json.string t).isTrue = !t.isEmpty := by
    rw [Json.isTrue, Bool.eq_iff_iff]
    simp
  rw [← hTruth]
  exact holds_var h

theorem holds_array {α : Type} {v : Variable} {items : List α} {toJson : α → Json}
    (h : scope.lookup? s.data v = some (.array (items.map toJson))) :
    Holds s callee p scope (.var v) !items.isEmpty := by
  rw [← List.isEmpty_map]
  exact holds_var h

theorem holds_not_bool {v : Variable} {b : Bool} (h : scope.lookup? s.data v = some (.bool b)) :
    Holds s callee p scope (.not (.var v)) !b := by
  have hDefined : isUndefined s scope (.var v) = false := by
    simp [isUndefined, Expr.variable?, h]
  rw [Holds, outcome]
  simp only [Expr.isVariable, if_true, hDefined, Bool.false_eq_true, if_false]
  rw [outcome, lookup_eq_ok h]
  rfl

theorem Holds.and {a b : Expr} {x y : Bool} (ha : Holds s callee p scope a x)
    (hb : Holds s callee p scope b y) : Holds s callee p scope (.and a b) (x && y) := by
  rw [Holds, outcome, Outcome.and, Outcome.ofTruth, ha, hb]
  cases x <;> rfl

theorem Gives.textFilter {e : Expr} {label t : String} {f : String → String}
    (h : Gives s callee p scope e (.string t))
    (hFilter : filter? name = some (Template.textFilter label f)) :
    Gives s callee p scope (.filter e name []) (.string (f t)) := by
  have hApplied : applyFilter p name (.ok (.string t)) [] = .ok (.string (f t)) := by
    rw [applyFilter]
    simp only [Except.bind, hFilter]
    rfl
  rw [Gives, outcome]
  simp only [argValues]
  split
  · rw [h]
    exact hApplied
  · rw [h]
    exact hApplied

/-! ## Macros -/

theorem findMacro_of_import {library : Library} {template home space : String} {t u : Template}
    {m : MacroDefinition} (hHere : library.lookup template = some t)
    (hImports : t.imports = [(home, space)]) (hHome : library.lookup home = some u)
    (hMacro : u.macros.find? (·.name = name) = some m) :
    library.findMacro template space name = .ok (home, m) := by
  have hSpace : (library.spaces (library.length + 1) template).lookup space =
      some (home, u.macros) := by
    rw [Library.spaces, hHere]
    simp only [hImports, List.foldl_cons, List.foldl_nil, MacroSpaces.add, hHome, Option.map_some,
      Option.getD_some, MacroSpaces.put]
    rw [List.lookup_append, List.lookup_cons_self]
    rfl
  rw [Library.findMacro, hSpace]
  simp only [hMacro]

theorem lift_ok {α : Type} (p : Place) (a : α) : p.lift (.ok a) = .ok a := rfl

theorem Gives.macroCall {space home text : String} {args : List (String × Expr)}
    {m : MacroDefinition} {assigned : List (String × Json)}
    (hMacro : s.library.findMacro p.template space name = .ok (home, m))
    (hArgs : m.bind p (argValues s callee p scope args) = .ok assigned)
    (hText : callee ⟨home, some ⟨space, name⟩⟩ [{ assigned }] m.body = .ok text) :
    Gives s callee p scope (.macroCall space name args) (.string text) := by
  rw [Gives, outcome, Outcome.ofValue, callMacro, hMacro, lift_ok]
  change (m.bind p (argValues s callee p scope args)).bind _ = _
  rw [hArgs]
  change (callee _ [{ assigned }] m.body).bind _ = _
  rw [hText]
  rfl

/-! ## Bodies -/

/-- The text of a part that sets no variable. -/
def Part.Shows (s : Setting) (callee : Callee) (p : Place) (scope : Scope) (part : Part)
    (text : String) : Prop := renderPart s callee p scope part = .ok (text, scope)

def Shows (s : Setting) (callee : Callee) (p : Place) (scope : Scope) (parts : List Part)
    (text : String) : Prop := renderParts s callee p scope parts = .ok (text, scope)

theorem Shows.nil : Shows s callee p scope [] "" := by
  simp [Shows]

theorem Shows.cons {part : Part} {parts : List Part} {text : String} {texts : List String}
    (h : part.Shows s callee p scope text) (hRest : Shows s callee p scope parts (.join texts)) :
    Shows s callee p scope (part :: parts) (.join (text :: texts)) := by
  rw [Shows, renderParts, h]
  change (renderParts s callee p scope parts).bind _ = _
  rw [hRest, String.join_cons]
  rfl

theorem renderParts_append (parts others : List Part) :
    renderParts s callee p scope (parts ++ others) = do
      let (text, scope) ← renderParts s callee p scope parts
      let (more, scope) ← renderParts s callee p scope others
      return (text ++ more, scope) := by
  induction parts generalizing scope with
  | nil =>
    rw [List.nil_append, renderParts]
    change _ = (renderParts s callee p scope others).bind _
    cases renderParts s callee p scope others with
    | error stop => rfl
    | ok shown => simp [Except.bind, pure, Except.pure]
  | cons part parts ih =>
    simp only [List.cons_append, renderParts, bind_assoc, ih, pure_bind, String.append_assoc]

theorem Shows.append {parts others : List Part} {texts more : List String}
    (h : Shows s callee p scope parts (.join texts))
    (hMore : Shows s callee p scope others (.join more)) :
    Shows s callee p scope (parts ++ others) (.join (texts ++ more)) := by
  rw [Shows, renderParts_append, h]
  change (renderParts s callee p scope others).bind _ = _
  rw [hMore, String.join_append]
  rfl

theorem Part.Shows.alone {part : Part} {text : String} (h : part.Shows s callee p scope text) :
    Template.Shows s callee p scope [part] text := by
  have hNil : Template.Shows s callee p scope [] (.join []) := .nil
  have hList := Shows.cons h hNil
  rwa [String.join_cons, String.join_nil, String.append_empty] at hList

theorem shows_text (t : String) : (Part.text t).Shows s callee p scope t := by
  simp [Part.Shows]

theorem Gives.shows {e : Expr} (h : Gives s callee p scope e value) :
    (Part.output e).Shows s callee p scope value.shown := by
  rw [Part.Shows, renderPart, h]
  rfl

theorem Gives.shows_string {e : Expr} {t : String} (h : Gives s callee p scope e (.string t)) :
    (Part.output e).Shows s callee p scope t := by
  have hShows := h.shows
  rwa [Json.shown_string] at hShows

theorem Holds.shows_branch {cond : Expr} {truth : Bool} {yes no : List Part} {t u : String}
    (h : Holds s callee p scope cond truth) (hYes : Shows s callee p scope yes t)
    (hNo : Shows s callee p scope no u) :
    (Part.branch cond yes no).Shows s callee p scope (if truth then t else u) := by
  rw [Part.Shows, renderPart, h]
  cases truth with
  | true => exact hYes
  | false => exact hNo

theorem intercalate_empty (texts : List String) : "".intercalate texts = String.join texts := by
  cases texts with
  | nil => rfl
  | cons t rest =>
    rw [String.join_cons]
    induction rest generalizing t with
    | nil => simp
    | cons u rest ih =>
      rw [String.intercalate_cons_cons, ih, String.join_cons, String.append_empty]

theorem mapM_ok {α β ε : Type} {f : α → Except ε β} {g : α → β} {items : List α}
    (h : ∀ item ∈ items, f item = .ok (g item)) : items.mapM f = .ok (items.map g) := by
  induction items with
  | nil => rfl
  | cons item items ih =>
    obtain ⟨hHere, hRest⟩ := List.forall_mem_cons.mp h
    rw [List.mapM_cons, hHere, ih hRest]
    rfl

theorem Gives.shows_loop {α : Type} {container : Expr} {body : List Part} {items : List α}
    {toJson : α → Json} {text : α → String}
    (h : Gives s callee p scope container (.array (items.map toJson)))
    (hBody : ∀ item ∈ items, Shows s callee ⟨p.template, none⟩
      ({ given := [(name, toJson item)] } :: scope) body (text item)) :
    (Part.loop none name container body).Shows s callee p scope (.join (items.map text)) := by
  have hRounds : rounds none name (containerName container) (.array (items.map toJson)) =
      .ok (items.map fun item => [(name, toJson item)]) := by
    rw [rounds, List.map_map]
    rfl
  have hTexts : ((items.map fun item => [(name, toJson item)]).mapM fun given => do
      return (← renderParts s callee ⟨p.template, none⟩ ({ given } :: scope) body).1 :
        Rendering (List String)) = .ok (items.map text) := by
    rw [List.mapM_map]
    refine mapM_ok fun item hItem => ?_
    simp only [Function.comp]
    rw [hBody item hItem]
    rfl
  rw [Part.Shows, renderPart, h, ← intercalate_empty]
  simp only [bind, Except.bind] at hTexts ⊢
  rw [hRounds]
  simp only [lift_ok, hTexts]
  rfl

theorem shows_insert {template text : String} {t : Template}
    (h : s.library.lookup template = some t)
    (hText : callee ⟨template, none⟩ ({} :: scope) t.body = .ok text) :
    (Part.insert template).Shows s callee p scope text := by
  rw [Part.Shows, renderPart, h]
  simp only [hText]
  rfl

theorem Shows.renderBody {depth : Nat} {body : List Part} {text : String}
    (h : Shows s (renderBody s depth) p scope body text) :
    Template.renderBody s (depth + 1) p scope body = .ok text := by
  rw [Template.renderBody, h]
  rfl

end Template

end ConfigReference
