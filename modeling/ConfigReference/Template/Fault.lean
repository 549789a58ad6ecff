import ConfigReference.Crash

/-!
# Template faults

What can go wrong with templates, and the texts that say so. Of a crash nothing is said: there is
nothing left that could say it.
-/

set_option autoImplicit false

namespace ConfigReference.Template

/-- What the value of a container in a loop can lack. -/
inductive LoopFault where
  | notAMapping
  | missingKey
  | notIterable
  deriving DecidableEq, Repr

inductive Cause where
  | unknownVariable (name template : String)
  | unknownFunction (name : String)
  | unknownFilter (name : String)
  | unknownTest (name : String)
  | functionFailed (name : String) (cause : Cause)
  | filterFailed (name : String) (cause : Cause)
  | testFailed (name : String) (cause : Cause)
  | expectsText (filter : String)
  | expectsTextArgument (function argument : String)
  | expectsNumber (function argument value : String)
  | missingEnd (function : String)
  | wrongSubject (filter value : String)
  | wrongArgument (filter argument value : String)
  | missingPattern (filter : String)
  | testArguments (test : String) (count most : Nat)
  | testUndefined (test : String)
  | testNotText (test part : String)
  | templateNotFound (names : List String)
  | unknownNamespace (macroSpace template : String)
  | unknownMacro (macroSpace name template : String)
  | missingArgument (macroName argument : String)
  | loop (container : String) (fault : LoopFault)
  | notABoolean (function : String)
  | crash (c : Crash)
  deriving DecidableEq, Repr

def quoted (s : String) : String := "`" ++ s ++ "`"

def LoopFault.message (container : String) : LoopFault → String
  | notAMapping =>
    "Tried to iterate using key value on variable " ++ quoted container
      ++ ", but it isn't an object/map"
  | missingKey =>
    "Tried to iterate using key value on variable " ++ quoted container
      ++ ", but it is missing a key"
  | notIterable =>
    "Tried to iterate on a container (" ++ quoted container ++ ") that has a unsupported type"

def Cause.message : Cause → String
  | unknownVariable name template =>
    "Variable " ++ quoted name ++ " not found in context while rendering '" ++ template ++ "'"
  | unknownFunction name => "Function '" ++ name ++ "' not found"
  | unknownFilter name => "Filter '" ++ name ++ "' not found"
  | unknownTest name => "Test '" ++ name ++ "' not found"
  | functionFailed name cause => "Function call '" ++ name ++ "' failed: " ++ cause.message
  | filterFailed name cause => "Filter call '" ++ name ++ "' failed: " ++ cause.message
  | testFailed name cause => "Test call '" ++ name ++ "' failed: " ++ cause.message
  | expectsText filter => filter ++ " filter expects a string"
  | expectsTextArgument function argument =>
    function ++ " expects a string " ++ quoted argument ++ " argument"
  | expectsNumber function argument value =>
    "Function " ++ quoted function ++ " received " ++ argument ++ "=" ++ value ++ " but "
      ++ quoted argument ++ " can only be a number"
  | missingEnd function =>
    "Function " ++ quoted function ++ " didn't receive an " ++ quoted "end" ++ " argument"
  | wrongSubject filter value =>
    "Filter " ++ quoted filter ++ " was called on an incorrect value: got " ++ quoted value
      ++ " but expected a String"
  | wrongArgument filter argument value =>
    "Filter " ++ quoted filter ++ " received an incorrect type for arg " ++ quoted argument
      ++ ": got " ++ quoted value ++ " but expected a String"
  | missingPattern filter =>
    "Filter " ++ quoted filter ++ " expected an arg called " ++ quoted "pat"
  | testArguments test count most =>
    "Tester " ++ quoted test ++ " was called with " ++ toString count
      ++ " args, the max number is " ++ toString most
  | testUndefined test => "Tester " ++ quoted test ++ " was called on an undefined variable"
  | testNotText test part =>
    "Tester " ++ quoted test ++ " was called " ++ part ++ " that isn't a string"
  | templateNotFound names => "Template '[" ++ ", ".intercalate names ++ "]' not found"
  | unknownNamespace macroSpace template =>
    "Macro namespace " ++ quoted macroSpace ++ " was not found in template " ++ quoted template
      ++ ". Have you maybe forgotten to import it, or misspelled it?"
  | unknownMacro macroSpace name template =>
    "Macro " ++ quoted (macroSpace ++ "::" ++ name) ++ " not found in template "
      ++ quoted template
  | missingArgument macroName argument =>
    "Macro " ++ quoted macroName ++ " is missing the argument " ++ quoted argument
  | loop container fault => fault.message container
  | notABoolean function =>
    "Function " ++ quoted function
      ++ " was used in a logic expression but is not returning a boolean"
  | crash _ => ""

/-- The crash behind a cause, whatever it happened in. -/
def Cause.crash? : Cause → Option Crash
  | crash c => some c
  | functionFailed _ cause | filterFailed _ cause | testFailed _ cause => cause.crash?
  | _ => none

structure MacroSite where
  macroSpace : String
  name : String
  deriving DecidableEq, Repr

inductive Fault where
  | malformed (template : String)
  | missingImport (template imported : String)
  | dataNotAMapping
  | stopped (template : String) (site : Option MacroSite) (cause : Cause)
  deriving DecidableEq, Repr

def Fault.message : Fault → String
  | malformed template => "Failed to parse '" ++ template ++ "'"
  | missingImport template imported =>
    "Template " ++ quoted template ++ " loads macros from " ++ quoted imported
      ++ " which isn't present in Tera"
  | dataNotAMapping => "Creating a Context from a Value/Serialize requires it being a JSON object"
  | stopped template site cause =>
    let place := match site with
      | some m => ": error while rendering macro " ++ quoted (m.macroSpace ++ "::" ++ m.name)
      | none => ""
    "Failed to render '" ++ template ++ "'" ++ place ++ ": " ++ cause.message

def Fault.crash? : Fault → Option Crash
  | stopped _ _ cause => cause.crash?
  | _ => none

end ConfigReference.Template
