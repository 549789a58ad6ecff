/-!
# Crashes

How a program ends that does not get to end by itself.
-/

set_option autoImplicit false

namespace ConfigReference

/-- A thread of the program panics, or the whole process is aborted. -/
inductive Crash where
  | panicked
  | aborted
  deriving DecidableEq, Repr

def Crash.status : Crash → Nat
  | panicked => 101
  | aborted => 134

end ConfigReference
