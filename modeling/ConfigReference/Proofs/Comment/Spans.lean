import ConfigReference.Comment.Block

/-!
# Spans of a block

The lines behind a header fall into spans: the bare lines up to the first directive, and each
directive with the bare lines up to the next one. Every field of the description has a value that
the spans which are its own give it.
-/

set_option autoImplicit false

namespace ConfigReference.Comment

inductive Field where
  | text
  | defaultText
  | notationType
  | sectionName
  | sectionText
  | exampleName
  | exampleText
  | exampleCode
  deriving DecidableEq, Repr

namespace Field

def get (d : Description) : Field → String
  | text => d.text
  | defaultText => d.defaultText
  | notationType => d.notationType
  | sectionName => d.sectionName
  | sectionText => d.sectionText
  | exampleName => d.exampleName
  | exampleText => d.exampleText
  | exampleCode => d.exampleCode

def set (value : String) (d : Description) : Field → Description
  | text => { d with text := value }
  | defaultText => { d with defaultText := value }
  | notationType => { d with notationType := value }
  | sectionName => { d with sectionName := value }
  | sectionText => { d with sectionText := value }
  | exampleName => { d with exampleName := value }
  | exampleText => { d with exampleText := value }
  | exampleCode => { d with exampleCode := value }

theorem get_set (f g : Field) (value : String) (d : Description) :
    f.get (g.set value d) = if f = g then value else f.get d := by
  cases f <;> cases g <;> rfl

end Field

/-- What a description has of its header alone: type label and flags. -/
def labels (d : Description) : String × Bool × Bool × Bool × Bool :=
  (d.typeLabel, d.hidden, d.required, d.deprecated, d.experimental)

theorem labels_set (f : Field) (value : String) (d : Description) :
    labels (f.set value d) = labels d := by
  cases f <;> rfl

/-! ## Joined texts -/

/-- Texts joined by blanks, empty ones being left out. -/
def joinWords (texts : List String) : String := " ".intercalate (texts.filter (· ≠ ""))

/-- Texts joined by line breaks, from the first one on that is not empty. -/
def joinLines (texts : List String) : String := "\n".intercalate (texts.dropWhile (· = ""))

def join (isRaw : Bool) (texts : List String) : String :=
  if isRaw then joinLines texts else joinWords texts

theorem join_append (isRaw : Bool) (field : String) (line : List Char) (rest : List String) :
    join isRaw (append field line isRaw :: rest) = join isRaw (field :: .ofList line :: rest) := by
  rw [append]
  by_cases hField : field = ""
  · subst hField
    cases isRaw <;> simp [join, joinWords, joinLines]
  · have hSome : field.isEmpty = false := by simpa using hField
    rw [hSome, if_neg Bool.false_ne_true]
    cases isRaw with
    | true => simp [join, joinLines, hField]
    | false =>
      by_cases hLine : line = []
      · simp [join, joinWords, hField, hLine]
      · have hText : String.ofList line ≠ "" := by simpa using hLine
        have hBoth : field ++ " " ++ String.ofList line ≠ "" := by simp [hField]
        simp [join, joinWords, hField, hLine, hText, hBoth]

theorem join_singleton (isRaw : Bool) (text : String) : join isRaw [text] = text := by
  by_cases hText : text = "" <;> cases isRaw <;> simp [join, joinWords, joinLines, hText]

theorem foldl_append_eq_join (isRaw : Bool) (texts : List String) (field : String) :
    texts.foldl (fun field text => append field text.toList isRaw) field =
      join isRaw (field :: texts) := by
  induction texts generalizing field with
  | nil => exact (join_singleton isRaw field).symm
  | cons text texts ih => rw [List.foldl_cons, ih, join_append, String.ofList_toList]

theorem join_join (isRaw : Bool) (first : String) (texts more : List String) :
    join isRaw (join isRaw (first :: texts) :: more) = join isRaw (first :: (texts ++ more)) := by
  rw [← foldl_append_eq_join, ← foldl_append_eq_join, ← foldl_append_eq_join, List.foldl_append]

theorem joinWords_joinWords (first : String) (texts more : List String) :
    joinWords (joinWords (first :: texts) :: more) = joinWords (first :: (texts ++ more)) :=
  join_join false first texts more

theorem joinLines_joinLines (first : String) (texts more : List String) :
    joinLines (joinLines (first :: texts) :: more) = joinLines (first :: (texts ++ more)) :=
  join_join true first texts more

/-! ## Spans -/

/-- The field that bare lines go to behind a directive; other lines open none. -/
def Line.opens? : Line → Option Field
  | bare _ => none
  | other => none
  | sectionText .. => some .sectionText
  | exampleText .. => some .exampleText
  | exampleName .. => some .exampleCode
  | _ => some .text

/-- A directive and the bare lines up to the next one. -/
structure Span where
  directive : Line
  texts : List String
  deriving DecidableEq, Repr

/-- The bare lines in front of the first directive, and the spans behind them. -/
def cut : List (List Char) → List String × List Span
  | [] => ([], [])
  | line :: rest =>
    match Line.read line with
    | .bare text => (.ofList text :: (cut rest).1, (cut rest).2)
    | .other => cut rest
    | directive => ([], ⟨directive, (cut rest).1⟩ :: (cut rest).2)

theorem cut_of_bare {line text : List Char} (h : Line.read line = .bare text)
    (rest : List (List Char)) : cut (line :: rest) = (.ofList text :: (cut rest).1, (cut rest).2) := by
  rw [cut, h]

theorem cut_of_other {line : List Char} (h : Line.read line = .other) (rest : List (List Char)) :
    cut (line :: rest) = cut rest := by
  rw [cut, h]

theorem cut_of_opens {line : List Char} (h : (Line.read line).opens?.isSome = true)
    (rest : List (List Char)) :
    cut (line :: rest) = ([], ⟨Line.read line, (cut rest).1⟩ :: (cut rest).2) := by
  rw [cut]
  cases hRead : Line.read line <;> first | rfl | (rw [hRead] at h; cases h)

namespace Span

def field (s : Span) : Field := s.directive.opens?.getD .text

def textsFor (f : Field) (s : Span) : List String := if s.field = f then s.texts else []

def offer? : Span → Option String
  | ⟨.exampleName _ text, _⟩ => some (.ofList text)
  | _ => none

end Span

/-- The part of a list from its last element with `p` on, or the whole list if there is none. -/
def fromLast {α : Type} (p : α → Bool) : List α → List α
  | [] => []
  | a :: rest => if rest.any p then fromLast p rest else a :: rest

theorem fromLast_of_not_any {α : Type} {p : α → Bool} {l : List α} (h : ¬l.any p = true) :
    fromLast p l = l := by
  cases l with
  | nil => rfl
  | cons a rest =>
    have hRest : ¬rest.any p = true := by
      intro hAny
      exact h (by rw [List.any_cons, hAny, Bool.or_true])
    rw [fromLast, if_neg hRest]

namespace Field

/-- What a span sets a field to, whatever it was before. -/
def given? : Field → Span → Option String
  | defaultText, ⟨.defaultText t, _⟩ => some (.ofList t)
  | notationType, ⟨.notationType t, _⟩ => some (.ofList t)
  | sectionName, ⟨.sectionName t, _⟩ => some (.ofList t)
  | sectionText, ⟨.sectionText isRaw t, texts⟩ => some (join isRaw (.ofList t :: texts))
  | exampleName, ⟨.exampleName name _, _⟩ => some (.ofList name)
  | exampleText, ⟨.exampleText isRaw t, texts⟩ => some (join isRaw (.ofList t :: texts))
  | exampleCode, ⟨.exampleName .., texts⟩ => some (joinLines texts)
  | _, _ => none

def lastGiven? (f : Field) (spans : List Span) : Option String :=
  (spans.filterMap f.given?).getLast?

/-- The text of the header and of the bare lines that go to the description's text: joined by blanks
up to the first `@raw`, and by line breaks from there on. -/
def textOf (header : String) (head : List String) (spans : List Span) : String :=
  let plain := spans.takeWhile (·.directive ≠ .raw)
  let raw := spans.dropWhile (·.directive ≠ .raw)
  joinLines (joinWords (header :: (head ++ plain.flatMap (·.textsFor text))) ::
    raw.flatMap (·.textsFor text))

def said? (s : Span) : Option String := (exampleText.given? s).or s.offer?

/-- What is said of an example from the last span on that sets its text. The first text that is not
empty counts. -/
def exampleTextOf (spans : List Span) : String :=
  let decisive := fromLast (fun s => (exampleText.given? s).isSome) spans
  ((decisive.filterMap said?).find? (· ≠ "")).getD ""

/-- What a field becomes behind a header with a text. -/
def value (header : String) (head : List String) (spans : List Span) : Field → String
  | text => textOf header head spans
  | exampleText => exampleTextOf spans
  | f => (f.lastGiven? spans).getD ""

theorem textOf_joinWords (header : String) (head more : List String) (spans : List Span) :
    textOf (joinWords (header :: head)) more spans = textOf header (head ++ more) spans := by
  rw [textOf, textOf, joinWords_joinWords, List.append_assoc]

theorem textOf_cons_of_ne {s : Span} (h : s.directive ≠ .raw) (header : String)
    (spans : List Span) :
    textOf header [] (s :: spans) =
      textOf (joinWords (header :: s.textsFor text)) [] spans := by
  rw [textOf_joinWords, textOf, textOf]
  simp [h]

theorem textOf_cons_of_raw {s : Span} (h : s.directive = .raw) (header : String)
    (spans : List Span) :
    textOf header [] (s :: spans) =
      joinLines (header :: (s.textsFor text ++ spans.flatMap (·.textsFor text))) := by
  have hHeader : joinWords [header] = header := join_singleton false header
  simp [textOf, h, hHeader]

end Field

end ConfigReference.Comment
