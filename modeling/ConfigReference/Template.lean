import ConfigReference.Json.Value

/-!
# Templates

Text with expressions and statements in it. A template shows values of a JSON object, and it can
insert other templates and call macros that they define.

This is a part of the notation of Tera, more than the built-in templates need: texts, integers,
floats, Booleans, arrays, variables with dotted paths, filters, tests, calls of functions and macros,
`not`, `and`, `or`, `==` and `!=`; `if`, `for`, `set`, `include`, `import`, `macro`, comments and the
trimming of blanks. Left out are arithmetic and the order of numbers, `in`, `~`, brackets in paths,
the variable `loop`, `set_global`, `break` and `continue`, `raw`, sections of filters, blocks and
inheritance; a template with them is malformed here. Of the filters, tests and functions that Tera
brings along there are those of `Template.filter?`, `Template.test?` and `Reference.random`. Runs of
the program take all of Tera as a parameter, `Reference.Engine`.
-/

set_option autoImplicit false

namespace ConfigReference

namespace Template

/-- A variable, and the members or indices that lead from its value to a part of it. -/
structure Variable where
  name : String
  path : List String := []
  deriving DecidableEq, Inhabited, Repr

def Variable.text (v : Variable) : String := ".".intercalate (v.name :: v.path)

inductive Expr where
  | text (s : String)
  | int (n : Int)
  | float (x : Float)
  | bool (b : Bool)
  | array (items : List Expr)
  | var (v : Variable)
  | call (function : String) (args : List (String × Expr))
  | macroCall (macroSpace name : String) (args : List (String × Expr))
  | filter (e : Expr) (name : String) (args : List (String × Expr))
  | test (v : Variable) (negated : Bool) (name : String) (args : List Expr)
  | not (e : Expr)
  | and (a b : Expr)
  | or (a b : Expr)
  | equal (a b : Expr)
  | unequal (a b : Expr)
  deriving Inhabited

def Expr.isVariable : Expr → Bool
  | var _ => true
  | filter e _ _ => e.isVariable
  | _ => false

def Expr.variable? : Expr → Option Variable
  | var v => some v
  | filter e _ _ => e.variable?
  | _ => none

inductive Part where
  | text (s : String)
  | output (e : Expr)
  | assign (name : String) (e : Expr)
  | branch (cond : Expr) (yes no : List Part)
  /-- The body once for each item of an array, or with `key` for each member of an object. -/
  | loop (key : Option String) (name : String) (container : Expr) (body : List Part)
  | insert (template : String)
  deriving Inhabited

/-- A parameter may have a value for calls that do not give one. -/
structure MacroDefinition where
  name : String
  params : List (String × Option Json)
  body : List Part
  deriving Inhabited

end Template

/-- An import makes the macros of another template known under a name of its own. -/
structure Template where
  body : List Template.Part := []
  macros : List Template.MacroDefinition := []
  /-- The templates whose macros are imported, with the names they get. -/
  imports : List (String × String) := []
  deriving Inhabited

end ConfigReference
