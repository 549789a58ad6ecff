import ConfigReference.Listing.Session
import ConfigReference.Proofs.KeyedMap

/-!
# What a listing answers

The answer to a question is a function of the contents that the listing shows under its keys. A key
is shown with what is kept for it, if anything is, and otherwise with what its file holds on disk,
which is kept from then on if the question reads the key.
-/

set_option autoImplicit false

namespace ConfigReference.Listing

/-- What a file holds, which is nothing if it cannot be read. -/
def onDisk (w : Workspace) (path : String) : List UInt8 := (w.read path).toOption.getD []

def shown (l : Listing) (w : Workspace) (kept : Contents) (key : String) : List UInt8 :=
  (kept.get? key).getD ((l.found.get? key).elim [] (onDisk w))

/-! ## Reading keys -/

/-- After some keys were read through a listing, each of them that is listed is kept, with what it
had or else with what its file holds. -/
structure Reads (l : Listing) (w : Workspace) (keys : List String) (kept after : Contents) :
    Prop where
  get?_after : ∀ key, after.get? key =
    (kept.get? key).or (if key ∈ keys then (l.found.get? key).map (onDisk w) else none)

section

variable {l : Listing} {w : Workspace} {keys : List String} {kept after : Contents}

theorem Reads.nil (l : Listing) (w : Workspace) (kept : Contents) : l.Reads w [] kept kept := by
  constructor
  simp

theorem Reads.cons {key : String} {between : Contents} (h : l.Reads w [key] kept between)
    (hRest : l.Reads w keys between after) : l.Reads w (key :: keys) kept after := by
  refine ⟨fun other => ?_⟩
  rw [hRest.get?_after, h.get?_after, Option.or_assoc]
  congr 1
  by_cases hOther : other = key
  · subst hOther
    cases l.found.get? other <;> simp
  · simp [hOther]

theorem Reads.shown_eq (h : l.Reads w keys kept after) (key : String) :
    l.shown w after key = l.shown w kept key := by
  rw [shown, shown, h.get?_after]
  cases kept.get? key with
  | some bytes => rfl
  | none => by_cases hMem : key ∈ keys <;> cases l.found.get? key <;> simp [hMem]

theorem fst_content (l : Listing) (w : Workspace) (kept : Contents) (key : String) :
    (l.content w kept key).1 = l.shown w kept key := by
  rw [content, shown]
  cases kept.get? key with
  | some bytes => rfl
  | none => cases l.found.get? key <;> rfl

theorem reads_content (l : Listing) (w : Workspace) (kept : Contents) (key : String) :
    l.Reads w [key] kept (l.content w kept key).2 := by
  refine ⟨fun other => ?_⟩
  rw [content]
  simp only [List.mem_singleton]
  by_cases hOther : other = key
  · subst hOther
    cases hKept : kept.get? other with
    | some bytes => exact hKept
    | none =>
      cases l.found.get? other with
      | none => simp [hKept]
      | some path => simp [KeyedMap.get?_insert, onDisk]
  · rw [if_neg hOther, Option.or_none]
    cases kept.get? key with
    | some bytes => rfl
    | none =>
      cases l.found.get? key with
      | none => rfl
      | some path => simp [KeyedMap.get?_insert, hOther]

end

/-! ## Answers as functions of what is shown -/

def textsByName (l : Listing) (encode : List UInt8 → String) (view : String → List UInt8) :
    KeyedMap String :=
  .ofList (l.found.entries.map fun (key, path) =>
    ((Path.fileName? path).getD "", encode (view key)))

def mappingOf (l : Listing) (encode : List UInt8 → String) (view : String → List UInt8) : String :=
  if l.isEmpty then ""
  else (Yaml.Data.ofJson (.object ((l.textsByName encode view).entries.map fun (name, text) =>
    (name, Json.string text)))).renderTrimmed

def linesOf (text : String) : List String := (text.toList.splitOn '\n').map String.ofList

def Query.keys (l : Listing) : Query → List String
  | .text name | .bytes name | .lines name => [l.keyOf name]
  | .config | .secrets => l.found.keys
  | .names | .size | .glob _ => []

def Query.answer (l : Listing) (view : String → List UInt8) : Query → Answer
  | .text name => .text (Text.decode (view (l.keyOf name)))
  | .bytes name => .bytes (view (l.keyOf name))
  | .lines name => .texts
      (if l.found.contains (l.keyOf name) then linesOf (Text.decode (view (l.keyOf name))) else [])
  | .names => .texts l.names
  | .size => .size l.size
  | .config => .text (l.mappingOf Text.decode view)
  | .secrets => .text (l.mappingOf Text.base64 view)
  | .glob pattern => .texts (l.glob pattern).names

theorem Query.answer_congr {l : Listing} {q : Query} {view other : String → List UInt8}
    (h : ∀ key ∈ q.keys l, view key = other key) : q.answer l view = q.answer l other := by
  have hTexts (encode : List UInt8 → String) (hAll : ∀ key ∈ l.found.keys, view key = other key) :
      l.mappingOf encode view = l.mappingOf encode other := by
    have hEntries : l.textsByName encode view = l.textsByName encode other := by
      refine congrArg KeyedMap.ofList (List.map_congr_left fun e he => ?_)
      exact congrArg (fun bytes => (_, encode bytes)) (hAll e.1 (List.mem_map_of_mem he))
    rw [mappingOf, mappingOf, hEntries]
  cases q with
  | text name | bytes name | lines name =>
    rw [answer, answer, h _ (List.mem_singleton_self _)]
  | config | secrets => rw [answer, answer, hTexts _ h]
  | names | size | glob _ => rfl

/-! ## Asking -/

theorem contentsByName_eq (l : Listing) (w : Workspace) (kept : Contents)
    (encode : List UInt8 → String) :
    (contentsByName w kept encode l).1 = l.textsByName encode (l.shown w kept) ∧
      l.Reads w l.found.keys kept (contentsByName w kept encode l).2 := by
  rw [contentsByName, textsByName, KeyedMap.ofList, KeyedMap.keys]
  generalize l.found.entries = entries
  generalize KeyedMap.empty = texts
  induction entries generalizing texts kept with
  | nil => exact ⟨rfl, Reads.nil l w kept⟩
  | cons e rest ih =>
    obtain ⟨key, path⟩ := e
    have hRead := l.reads_content w kept key
    obtain ⟨hTexts, hRest⟩ := ih (l.content w kept key).2
      (texts.insert ((Path.fileName? path).getD "") (encode (l.content w kept key).1))
    refine ⟨?_, hRead.cons hRest⟩
    rw [List.map_cons, List.foldl_cons, List.foldl_cons, hTexts, fst_content,
      funext hRead.shown_eq]

theorem mappingText_eq (l : Listing) (w : Workspace) (kept : Contents)
    (encode : List UInt8 → String) :
    (mappingText w kept encode l).1 = l.mappingOf encode (l.shown w kept) ∧
      l.Reads w l.found.keys kept (mappingText w kept encode l).2 := by
  rw [mappingText, mappingOf]
  obtain ⟨hTexts, hRead⟩ := l.contentsByName_eq w kept encode
  split
  · rename_i hEmpty
    have hKeys : l.found.keys = [] := by
      rw [KeyedMap.keys, List.isEmpty_iff.mp hEmpty, List.map_nil]
    exact ⟨rfl, hKeys ▸ Reads.nil l w kept⟩
  · exact ⟨by rw [← hTexts], hRead⟩

theorem lines_eq (l : Listing) (w : Workspace) (kept : Contents) (name : String) :
    (l.lines w kept name).1 = (if l.found.contains (l.keyOf name)
        then linesOf (Text.decode (l.shown w kept (l.keyOf name))) else []) ∧
      l.Reads w [l.keyOf name] kept (l.lines w kept name).2 := by
  rw [lines]
  split
  · rw [← fst_content]
    exact ⟨rfl, l.reads_content w kept _⟩
  · rename_i hUnlisted
    refine ⟨rfl, ⟨fun key => ?_⟩⟩
    have hNone : l.found.get? (l.keyOf name) = none := by
      simpa [KeyedMap.contains] using hUnlisted
    by_cases hKey : key = l.keyOf name <;> simp [hKey, hNone]

namespace Session

variable (s : Session) (l : Listing) (q : Query)

theorem fst_ask : (s.ask l q).1 = q.answer l (l.shown s.workspace s.kept) := by
  cases q with
  | text name => exact congrArg (Answer.text ∘ Text.decode) (fst_content ..)
  | bytes name => exact congrArg Answer.bytes (fst_content ..)
  | lines name => exact congrArg Answer.texts (l.lines_eq ..).1
  | config => exact congrArg Answer.text (l.mappingText_eq ..).1
  | secrets => exact congrArg Answer.text (l.mappingText_eq ..).1
  | names | size | glob _ => rfl

theorem reads_ask : l.Reads s.workspace (q.keys l) s.kept (s.ask l q).2.kept := by
  cases q with
  | text name | bytes name => exact l.reads_content ..
  | lines name => exact (l.lines_eq ..).2
  | config | secrets => exact (l.mappingText_eq ..).2
  | names | size | glob _ => exact Reads.nil ..

/-- Only a glob makes a listing, which has some of the files of the one that was asked. -/
theorem listings_ask : ∃ made, (s.ask l q).2.listings = s.listings ++ made ∧
    ∀ chosen ∈ made, ∃ pattern, chosen = l.glob pattern := by
  cases q with
  | glob pattern => exact ⟨[l.glob pattern], rfl, by simp⟩
  | text _ | bytes _ | lines _ | config | secrets | names | size =>
    exact ⟨[], (List.append_nil _).symm, by simp⟩

end Session

end ConfigReference.Listing
