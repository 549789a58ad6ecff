import ConfigReference.Template.Token

/-!
# Reading templates

Expressions and statements are read from the tokens of a tag. The statements of a source then open
and close bodies; those that are open wait on a stack.
-/

set_option autoImplicit false

namespace ConfigReference.Template

/-! ## Expressions -/

abbrev Reader := StateT (List Token) Option

namespace Reader

def accept (t : Token) : Reader Bool := do
  match ← get with
  | next :: rest => if next == t then set rest; return true else return false
  | [] => return false

def expect (t : Token) : Reader Unit := do
  if ← accept t then return () else failure

def sign (s : String) : Reader Bool := accept (.sign s)

def keyword (s : String) : Reader Bool := accept (.word ⟨s, []⟩)

def take : Reader Token := do
  match ← get with
  | next :: rest => set rest; return next
  | [] => failure

def name : Reader String := do
  match ← take with
  | .word ⟨name, []⟩ => return name
  | _ => failure

/-- Go on from `a` as long as `step` leads on, at most once for each token. -/
def iterate {α : Type} (step : α → Reader (Option α)) : Nat → α → Reader α
  | 0, _ => failure
  | fuel + 1, a => do
    match ← step a with
    | some b => iterate step fuel b
    | none => return a

def chain {α : Type} (step : α → Reader (Option α)) (a : α) : Reader α := do
  iterate step ((← get).length + 1) a

def readItems {α : Type} (item : Reader α) (close : String) : Nat → Reader (List α)
  | 0 => failure
  | fuel + 1 => do
    if ← sign close then return []
    let a ← item
    if ← sign "," then return a :: (← readItems item close fuel)
    expect (.sign close)
    return [a]

def items {α : Type} (item : Reader α) (close : String) : Reader (List α) := do
  readItems item close ((← get).length + 1)

def arg (value : Reader Expr) : Reader (String × Expr) := do
  let name ← name
  expect (.sign "=")
  return (name, ← value)

def args? {α : Type} (item : Reader α) : Reader (List α) := do
  if ← sign "(" then items item ")" else return []

def wordExpr (value : Reader Expr) (v : Variable) : Reader Expr := do
  if v.path.isEmpty && (v.name == "true" || v.name == "True") then return .bool true
  else if v.path.isEmpty && (v.name == "false" || v.name == "False") then return .bool false
  else if v.path.isEmpty && (← sign "(") then return .call v.name (← items (arg value) ")")
  else if v.path.isEmpty && (← sign "::") then
    let name ← name
    expect (.sign "(")
    return .macroCall v.name name (← items (arg value) ")")
  else if ← keyword "is" then
    let negated ← keyword "not"
    return .test v negated (← name) (← args? value)
  else return .var v

/-- One value without filters; `value` reads what stands in brackets. -/
def atom (value : Reader Expr) : Reader Expr := do
  match ← take with
  | .text s => return .text s
  | .int n => return .int n
  | .float x => return .float x
  | .word v => wordExpr value v
  | .sign _ => failure

def filters (value : Reader Expr) : Expr → Reader Expr :=
  chain fun e => do
    if ← sign "|" then return some (.filter e (← name) (← args? (arg value)))
    else return none

def filtered (value : Reader Expr) : Reader Expr := do filters value (← atom value)

def comparison (value : Reader Expr) : Reader Expr := do
  let a ← filtered value
  if ← sign "==" then return .equal a (← filtered value)
  else if ← sign "!=" then return .unequal a (← filtered value)
  else return a

def negation (value : Reader Expr) : Reader Expr := do
  if ← keyword "not" then return .not (← comparison value) else comparison value

def conjunction (value : Reader Expr) : Reader Expr := do
  chain (fun a => do
    if ← keyword "and" then return some (.and a (← negation value)) else return none)
    (← negation value)

def disjunction (value : Reader Expr) : Reader Expr := do
  chain (fun a => do
    if ← keyword "or" then return some (.or a (← conjunction value)) else return none)
    (← conjunction value)

/-- An expression whose arguments nest less deeply than the first number tells. An array stands by
itself or with filters. -/
def value : Nat → Reader Expr
  | 0 => failure
  | depth + 1 => do
    if ← sign "[" then filters (value depth) (.array (← items (disjunction (value depth)) "]"))
    else disjunction (value depth)

def done : Reader Unit := do
  if (← get).isEmpty then return () else failure

/-- What loops go over: a variable, the result of a call or an array, maybe filtered. -/
def container (value : Reader Expr) : Reader Expr := do
  let e ← value
  match base e with
  | .var _ | .call .. | .array _ => return e
  | _ => failure
where
  base : Expr → Expr
    | .filter e _ _ => base e
    | e => e

def param : Reader (String × Option Json) := do
  let name ← name
  if ← sign "=" then
    match ← take with
    | .text s => return (name, some (.string s))
    | .int n => return (name, some (.int n))
    | .float x => return (name, some (.number (.float x)))
    | .word v => match v.text with
      | "true" | "True" => return (name, some (.bool true))
      | "false" | "False" => return (name, some (.bool false))
      | _ => failure
    | .sign _ => failure
  else return (name, none)

end Reader

/-! ## Statements -/

inductive Statement where
  | insert (template : String)
  | importMacros (template macroSpace : String)
  | assign (name : String) (e : Expr)
  | ifTrue (cond : Expr)
  | elseIf (cond : Expr)
  | otherwise
  | endIf
  | loop (key : Option String) (name : String) (container : Expr)
  | endLoop
  | define (name : String) (params : List (String × Option Json))
  | endDefine

namespace Reader

def text : Reader String := do
  match ← take with
  | .text s => return s
  | _ => failure

def statementOf (value : Reader Expr) : String → Reader Statement
  | "include" => return .insert (← text)
  | "import" => do
    let template ← text
    expect (.word ⟨"as", []⟩)
    return .importMacros template (← name)
  | "set" => do
    let name ← name
    expect (.sign "=")
    return .assign name (← value)
  | "if" => return .ifTrue (← value)
  | "elif" => return .elseIf (← value)
  | "else" => return .otherwise
  | "endif" => return .endIf
  | "for" => do
    let first ← name
    let second? ← (do if ← sign "," then return some (← name) else return none)
    expect (.word ⟨"in", []⟩)
    let container ← container value
    match second? with
    | some second => return .loop (some first) second container
    | none => return .loop none first container
  | "endfor" => return .endLoop
  | "macro" => do
    let name ← name
    expect (.sign "(")
    return .define name (← items param ")")
  | "endmacro" => do
    if !(← get).isEmpty then let _ ← name
    return .endDefine
  | _ => failure

end Reader

def readAll? {α : Type} (r : Reader α) (tokens : List Token) : Option α :=
  (r.run tokens).bind fun (a, rest) => if rest.isEmpty then some a else none

def readExpr? (tokens : List Token) : Option Expr :=
  readAll? (Reader.value (tokens.length + 1)) tokens

def readStatement? (tokens : List Token) : Option Statement :=
  readAll? (do Reader.statementOf (Reader.value (tokens.length + 1)) (← Reader.name)) tokens

/-! ## Bodies -/

/-- A statement that waits for its end. A branch is `chained` when it is all there is in the second
part of the branch around it, and one end closes both. -/
inductive Opening where
  | yes (cond : Expr) (chained : Bool)
  | no (cond : Expr) (yes : List Part) (chained : Bool)
  | loop (key : Option String) (name : String) (container : Expr)
  | define (name : String) (params : List (String × Option Json))

/-- A template under way: the parts of the innermost body, latest first, and the open statements
with the parts before them. -/
structure Draft where
  parts : List Part := []
  stack : List (Opening × List Part) := []
  macros : List MacroDefinition := []
  imports : List (String × String) := []

namespace Draft

def add (d : Draft) (p : Part) : Draft := { d with parts := p :: d.parts }

def openBody (d : Draft) (o : Opening) : Draft :=
  { d with parts := [], stack := (o, d.parts) :: d.stack }

/-- End a branch whose last body is `parts`, and the branches that it is chained to. -/
def endBranch? (parts : List Part) :
    List (Opening × List Part) → Option (List Part × List (Opening × List Part))
  | (.yes cond chained, before) :: stack =>
    let parts := .branch cond parts.reverse [] :: before
    if chained then endBranch? parts stack else some (parts, stack)
  | (.no cond yes chained, before) :: stack =>
    let parts := .branch cond yes parts.reverse :: before
    if chained then endBranch? parts stack else some (parts, stack)
  | _ => none

def otherwise? (d : Draft) : Option Draft :=
  match d.stack with
  | (.yes cond chained, before) :: stack =>
    some { d with parts := [], stack := (.no cond d.parts.reverse chained, before) :: stack }
  | _ => none

/-- The draft after a statement. Macros are defined and imported outside of other statements. -/
def feed? (d : Draft) : Statement → Option Draft
  | .insert template => some (d.add (.insert template))
  | .assign name e => some (d.add (.assign name e))
  | .importMacros template macroSpace =>
    if d.stack.isEmpty then some { d with imports := d.imports ++ [(template, macroSpace)] }
    else none
  | .ifTrue cond => some (d.openBody (.yes cond false))
  | .elseIf cond => do return (← d.otherwise?).openBody (.yes cond true)
  | .otherwise => d.otherwise?
  | .endIf => do
    let (parts, stack) ← endBranch? d.parts d.stack
    return { d with parts, stack }
  | .loop key name container => some (d.openBody (.loop key name container))
  | .endLoop =>
    match d.stack with
    | (.loop key name container, before) :: stack =>
      some { d with parts := .loop key name container d.parts.reverse :: before, stack }
    | _ => none
  | .define name params =>
    if d.stack.isEmpty then some (d.openBody (.define name params)) else none
  | .endDefine =>
    match d.stack with
    | [(.define name params, before)] =>
      some { d with
        parts := before, stack := [], macros := ⟨name, params, d.parts.reverse⟩ :: d.macros }
    | _ => none

def feedPiece? (d : Draft) : Piece → Option Draft
  | .text s => some (if s.isEmpty then d else d.add (.text (.ofList s)))
  | .output tokens => do return d.add (.output (← readExpr? tokens))
  | .statement tokens => do d.feed? (← readStatement? tokens)

end Draft

/-- The template that a source is the text of. Of two macros of one name the later counts. -/
def parse? (source : String) : Option Template := do
  let draft ← (← pieces? source.toList).foldlM Draft.feedPiece? {}
  if draft.stack.isEmpty then
    return { body := draft.parts.reverse, macros := draft.macros, imports := draft.imports }
  else none

end ConfigReference.Template
