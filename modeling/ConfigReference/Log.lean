/-!
# Log

What a run tells about itself, besides what it gives.
-/

set_option autoImplicit false

namespace ConfigReference

namespace Log

/-- How much a record matters, and which records are wanted. -/
inductive Level where
  | error
  | warning
  | info
  | debug
  | trace
  deriving DecidableEq, Repr

def Level.rank : Level → Nat
  | error => 0
  | warning => 1
  | info => 2
  | debug => 3
  | trace => 4

def Level.label : Level → String
  | error => "ERROR"
  | warning => "WARN"
  | info => "INFO"
  | debug => "DEBUG"
  | trace => "TRACE"

def Level.ofName? : String → Option Level
  | "panic" | "fatal" | "error" => some error
  | "warn" | "warning" => some warning
  | "info" => some info
  | "debug" => some debug
  | "trace" => some trace
  | _ => none

structure Record where
  level : Level
  text : String
  deriving DecidableEq, Repr

def Record.line (r : Record) : String := r.level.label ++ " " ++ r.text

end Log

abbrev Log := List Log.Record

namespace Log

def upTo (level : Level) (log : Log) : Log := log.filter fun r => r.level.rank ≤ level.rank

end Log

end ConfigReference
