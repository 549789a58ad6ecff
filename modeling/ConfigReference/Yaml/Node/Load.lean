import ConfigReference.Text.Line
import ConfigReference.Yaml.Event.Grammar
import ConfigReference.Yaml.Node.Build

/-!
# Loading a document
-/

set_option autoImplicit false

namespace ConfigReference.Yaml

inductive LoadError where
  | malformed (e : SyntaxError)
  | unresolvedAlias (e : UnresolvedAlias)
  deriving DecidableEq, Repr

def LoadError.message : LoadError → String
  | malformed e => e.message
  | unresolvedAlias e => e.message

def Node.load (source : String) : Except LoadError (Option Node) :=
  let text := Text.unifyLineEnds source.toList
  let stream := EventStream.ofText text
  match stream.error with
  | some e => .error (.malformed e)
  | none => (Node.ofEvents (Text.lines text) stream.events).mapError .unresolvedAlias

end ConfigReference.Yaml
