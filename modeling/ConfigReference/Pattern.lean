import ConfigReference.Pattern.CharSet

/-!
# Patterns

Regular patterns over texts, and when one occurs in a text. A pattern is run on sets of positions:
from each of a set of starts, it leads to the positions where a match of it can end.
-/

set_option autoImplicit false

namespace ConfigReference

namespace Pattern

/-- What can be asked of a position between characters. Words are those of Unicode, or of ASCII
where `ascii` is set. -/
inductive Assertion where
  | textStart
  | textEnd
  | lineStart (crlf : Bool)
  | lineEnd (crlf : Bool)
  | wordEdge (ascii : Bool)
  | noWordEdge (ascii : Bool)
  | wordStart (ascii : Bool)
  | wordEnd (ascii : Bool)
  /-- No word goes on to the left. -/
  | noWordBefore (ascii : Bool)
  /-- No word goes on to the right. -/
  | noWordAfter (ascii : Bool)
  deriving DecidableEq, Repr

namespace Assertion

def isWord (ascii : Bool) (c? : Option Char) : Bool :=
  c?.any fun c => if ascii then c.isAlphanum || c == '_' else Text.isWordChar c

def holds (before after : Option Char) : Assertion → Bool
  | textStart => before.isNone
  | textEnd => after.isNone
  | lineStart false => before.all (· == '\n')
  | lineEnd false => after.all (· == '\n')
  | lineStart true =>
    before.all (fun b => b == '\n' || (b == '\r' && after != some '\n'))
  | lineEnd true =>
    after.all (fun a => a == '\r' || (a == '\n' && before != some '\r'))
  | wordEdge ascii => isWord ascii before != isWord ascii after
  | noWordEdge ascii => isWord ascii before == isWord ascii after
  | wordStart ascii => !isWord ascii before && isWord ascii after
  | wordEnd ascii => isWord ascii before && !isWord ascii after
  | noWordBefore ascii => !isWord ascii before
  | noWordAfter ascii => !isWord ascii after

end Assertion

end Pattern

inductive Pattern where
  | empty
  | char (set : CharSet)
  | assertion (a : Pattern.Assertion)
  | seq (p q : Pattern)
  | alt (p q : Pattern)
  /-- At least `least` times in a row, and at most `least + extra` times if that is bounded. -/
  | times (p : Pattern) (least : Nat) (extra : Option Nat)

namespace Pattern

def joinPositions (s t : List Nat) : List Nat := s ++ t.filter (!s.contains ·)

/-- The positions reached from `s` by up to `n` rounds of `f`. A round that reaches nothing new is
the last. -/
def reach (f : List Nat → List Nat) : Nat → List Nat → List Nat
  | 0, s => s
  | n + 1, s =>
    let new := (f s).filter (!s.contains ·)
    if new.isEmpty then s else reach f n (s ++ new.eraseDups)

def rounds (f : List Nat → List Nat) : Nat → List Nat → List Nat
  | 0, s => s
  | n + 1, s =>
    let next := f s
    if next.isEmpty then [] else rounds f n next

def afterChar (text : Array Char) (set : CharSet) (s : List Nat) : List Nat :=
  s.filterMap fun i =>
    match text[i]? with
    | some c => if set.contains c then some (i + 1) else none
    | none => none

def neighbourBefore (text : Array Char) (i : Nat) : Option Char :=
  if i = 0 then none else text[i - 1]?

/-- Where a match of the pattern that starts in `s` can end. -/
def ends (text : Array Char) : Pattern → List Nat → List Nat
  | empty, s => s
  | char set, s => afterChar text set s
  | assertion a, s => s.filter fun i => a.holds (neighbourBefore text i) text[i]?
  | seq p q, s => q.ends text (p.ends text s)
  | alt p q, s => joinPositions (p.ends text s) (q.ends text s)
  | times p least extra, s =>
    reach (p.ends text) (extra.getD text.size) (rounds (p.ends text) least s)

def occursIn (p : Pattern) (text : String) : Bool :=
  let chars := text.toList.toArray
  !(p.ends chars (List.range (chars.size + 1))).isEmpty

def literal (cs : List Char) : Pattern := cs.foldr (fun c p => seq (char (.single c)) p) empty

/-- About how many states an automaton for the pattern has. -/
def states : Pattern → Nat
  | empty => 0
  | char set => set.steps
  | assertion _ => 1
  | seq p q => p.states + q.states
  | alt p q => p.states + q.states + 1
  | times p least none => p.states * max least 1 + 1
  | times p least (some extra) => p.states * (least + extra) + extra

end Pattern

end ConfigReference
