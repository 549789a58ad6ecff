import ConfigReference.Listing

/-!
# Sessions with listings

A run of questions to the listings made from one, between which files may be written and removed.
-/

set_option autoImplicit false

namespace ConfigReference.Listing

inductive Query where
  | text (name : String)
  | bytes (name : String)
  | lines (name : String)
  | names
  | size
  | config
  | secrets
  /-- The files that a pattern accepts, which are a listing from then on. -/
  | glob (pattern : String)
  deriving Repr

inductive Step where
  /-- A question to the listing with a number, the first one having zero. -/
  | ask (listing : Nat) (q : Query)
  | write (path content : String)
  | remove (path : String)
  deriving Repr

inductive Answer where
  | text (s : String)
  | texts (ss : List String)
  | bytes (bs : List UInt8)
  | size (n : Nat)
  | done
  deriving DecidableEq, Repr

/-- The listings in the order in which they were made, what was read through them, and the files. -/
structure Session where
  workspace : Workspace
  listings : List Listing
  kept : Contents := .empty

namespace Session

def start (w : Workspace) (base : String) : Session := ⟨w, [ofDirectory w base], .empty⟩

def ask (s : Session) (l : Listing) : Query → Answer × Session
  | .text name =>
    let (bytes, kept) := l.content s.workspace s.kept (l.keyOf name)
    (.text (Text.decode bytes), { s with kept })
  | .bytes name =>
    let (bytes, kept) := l.content s.workspace s.kept (l.keyOf name)
    (.bytes bytes, { s with kept })
  | .lines name =>
    let (lines, kept) := l.lines s.workspace s.kept name
    (.texts lines, { s with kept })
  | .names => (.texts l.names, s)
  | .size => (.size l.size, s)
  | .config =>
    let (text, kept) := l.configText s.workspace s.kept
    (.text text, { s with kept })
  | .secrets =>
    let (text, kept) := l.secretsText s.workspace s.kept
    (.text text, { s with kept })
  | .glob pattern =>
    let chosen := l.glob pattern
    (.texts chosen.names, { s with listings := s.listings ++ [chosen] })

/-- A step whose file or listing is missing does nothing. -/
def step (s : Session) : Step → Answer × Session
  | .ask listing q =>
    match s.listings[listing]? with
    | some l => s.ask l q
    | none => (.done, s)
  | .write path content =>
    match s.workspace.write path (Text.encode content) with
    | .ok workspace => (.done, { s with workspace })
    | .error _ => (.done, s)
  | .remove path => (.done, { s with workspace := s.workspace.remove path })

def run (s : Session) : List Step → List Answer
  | [] => []
  | step :: rest =>
    let (answer, s) := s.step step
    answer :: s.run rest

end Session

end ConfigReference.Listing
