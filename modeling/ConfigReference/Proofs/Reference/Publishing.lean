import ConfigReference.Proofs.FileTree.Writing
import ConfigReference.Proofs.WorkerPool.Sharing
import ConfigReference.Reference.Publish

/-!
# Publishing turn by turn

A reference that is published alone is put in its place at once, in whatever pieces it is written.
Among others it comes to the same if none of them goes to its place.
-/

set_option autoImplicit false

namespace ConfigReference

namespace Reference

variable {engine : Engine} {cut : Cut}
  {options : RenderOptions} {version path text : String} {info : Documentation}

/-! ## Alone -/

theorem alone_writing (text : String) {w : Workspace} {written : List UInt8}
    (pieces : List (List UInt8)) {p : Published} (hWritten : w.write path written = .ok p.workspace) :
    ∃ after, w.write path (written ++ pieces.flatten) = .ok after ∧
      (writing path text written.length pieces).alone p =
        ({ p with workspace := after }, .ok (.ok text)) := by
  induction pieces generalizing written p with
  | nil => exact ⟨p.workspace, by rwa [List.flatten_nil, List.append_nil], rfl⟩
  | cons piece pieces ih =>
    have hNext : w.write path (written ++ piece) =
        .ok (p.workspace.writeAt path written.length piece) := by
      rw [← Workspace.write_write hWritten]
      exact Workspace.write_writeAt (Workspace.read_write_self hWritten) piece
    obtain ⟨after, hAfter, hAlone⟩ := ih
      (p := { p with workspace := p.workspace.writeAt path written.length piece }) hNext
    refine ⟨after, by rwa [List.flatten_cons, ← List.append_assoc], ?_⟩
    rw [List.length_append] at hAlone
    exact hAlone

theorem alone_storing {cut : List UInt8 → List (List UInt8)}
    (hCut : (cut (Text.encode text)).flatten = Text.encode text) (p : Published) :
    (storing cut path text).alone p =
      match p.workspace.write path (Text.encode text) with
      | .ok after => ({ p with workspace := after }, .ok (.ok text))
      | .error e => (p, .ok (.error (.unwritable path e.message))) := by
  rw [storing, Work.alone]
  cases hOpened : p.workspace.write path [] with
  | error e =>
    rw [Workspace.write_eq_error hOpened]
    rfl
  | ok opened =>
    obtain ⟨after, hAfter, hAlone⟩ := alone_writing text (cut (Text.encode text))
      (p := { p with workspace := opened }) hOpened
    rw [List.nil_append, hCut] at hAfter
    rw [hAfter]
    exact hAlone

theorem alone_publishing (w : Workspace) :
    (publishing engine cut options version info).alone { workspace := w } =
      match render w options version info engine with
      | .error f =>
        ({ workspace := w, log := [announcement info] },
          match f.crash? with
          | some c => .error c
          | none => .ok (.error f))
      | .ok text =>
        match put w options info.configPath text with
        | .ok p => ({ p with log := [announcement info] }, .ok (.ok text))
        | .error f => ({ workspace := w, log := [announcement info] }, .ok (.error f)) := by
  rw [publishing, Work.alone, Work.alone]
  dsimp only [id]
  cases render w options version info engine with
  | error f => cases hCrash : f.crash? <;> simp [hCrash, Work.alone]
  | ok text =>
    dsimp only
    rw [put]
    split
    · simp [Work.alone]
    · rw [alone_storing (cut.flatten_pieces _ _)]
      cases hWrite : w.write (options.outputPath info.configPath) (Text.encode text) <;>
        simp [hWrite]

/-! ## Among others -/

/-- All paths lead to the places to which they led before, files can be written where they could,
and what is read through `path` stays. -/
structure Spares (path : String) (before after : Workspace) : Prop where
  place? : ∀ other, after.place? other = before.place? other
  accepts : ∀ other, before.Accepts other → after.Accepts other
  read : ∀ content, before.read path = .ok content → after.read path = .ok content

theorem Spares.refl (path : String) (w : Workspace) : Spares path w w :=
  ⟨fun _ => rfl, fun _ h => h, fun _ h => h⟩

theorem Spares.trans {s t u : Workspace} (h : Spares path s t) (hNext : Spares path t u) :
    Spares path s u where
  place? other := (hNext.place? other).trans (h.place? other)
  accepts other hAccepts := hNext.accepts other (h.accepts other hAccepts)
  read content hRead := hNext.read content (h.read content hRead)

/-- What others may do that publish with all paths leading where they lead in `w`. -/
def Bears (w : Workspace) (path : String) (s t : Published) : Prop :=
  (∀ other, s.workspace.place? other = w.place? other) → Spares path s.workspace t.workspace

theorem Bears.refl (w : Workspace) (path : String) (s : Published) : Bears w path s s :=
  fun _ => .refl path s.workspace

theorem Bears.trans (w : Workspace) (path : String) (s t u : Published) (h : Bears w path s t)
    (hNext : Bears w path t u) : Bears w path s u := by
  intro hPlaces
  have hHere := h hPlaces
  exact hHere.trans (hNext fun other => (hHere.place? other).trans (hPlaces other))

section

variable {change : Published → Published → Prop}
  (hSame : ∀ s t, t.workspace = s.workspace → change s t)
  (hWrite : ∀ s t content, s.workspace.write path content = .ok t.workspace → change s t)

include hSame hWrite

end

theorem makes_publishing_dry (hDry : options.dryRun = true) :
    (publishing engine cut options version info).Makes fun s t => t.workspace = s.workspace := by
  intro s
  refine ⟨rfl, fun p => ⟨rfl, ?_⟩⟩
  dsimp only
  cases render p.workspace options version info engine with
  | error f =>
    dsimp only
    cases f.crash? <;> trivial
  | ok text =>
    dsimp only
    rw [if_pos hDry]
    exact fun q => ⟨rfl, trivial⟩

section

variable {occurs : Published → Prop} {w : Workspace} {s : Published}
  (hPath : options.outputPath info.configPath = path)
  (hPlaces : ∀ other, s.workspace.place? other = w.place? other)

include hPath hPlaces

end

end Reference

end ConfigReference
