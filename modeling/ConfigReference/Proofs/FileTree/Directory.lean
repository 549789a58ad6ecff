import Mathlib.Data.List.DropRight
import ConfigReference.Discovery
import ConfigReference.Proofs.FileTree.Following

/-!
# Paths to directories

Empty pieces and dots at the end of a path to a directory lead to the same directory. A path to a
file ends in a name, and the path to its directory leads where a dot in place of the name does.
-/

set_option autoImplicit false

namespace ConfigReference

namespace Path

/-- A piece of a path that leads nowhere else. -/
def IsStay (piece : String) : Prop := piece = "" ∨ piece = "."

theorem pieces_ofList (s : List Char) :
    pieces (.ofList s) = (s.splitOn '/').map String.ofList := by
  rw [pieces, String.toList_ofList]

theorem pieces_ofList_concat_slash (up last : List Char) (h : '/' ∉ last) :
    pieces (.ofList (up ++ '/' :: last)) = pieces (.ofList up) ++ [.ofList last] := by
  rw [pieces_ofList, pieces_ofList, List.splitOn_append_cons_self, List.splitOn_eq_singleton h,
    List.map_append, List.map_singleton]

theorem append_eq_ofList {front : String} {up : List Char} (h : front.toList = up ++ ['/'])
    (last : String) : front ++ last = .ofList (up ++ '/' :: last.toList) := by
  rw [← String.toList_inj, String.toList_append, String.toList_ofList, h, List.append_assoc]
  rfl

theorem pieces_append_of_slash {front last : String} {up : List Char}
    (h : front.toList = up ++ ['/']) (hLast : '/' ∉ last.toList) :
    pieces (front ++ last) = pieces (.ofList up) ++ [last] := by
  rw [append_eq_ofList h, pieces_ofList_concat_slash _ _ hLast, String.ofList_toList]

theorem exists_pieces_dropEndDots (reversed : List Char) :
    ∃ stays, (∀ piece ∈ stays, IsStay piece) ∧ pieces (.ofList reversed.reverse) =
      pieces (.ofList (dropEndDots reversed).reverse) ++ stays := by
  fun_induction dropEndDots reversed with
  | case1 rest ih =>
    obtain ⟨stays, hStays, hPieces⟩ := ih
    refine ⟨stays ++ [""], ?_, ?_⟩
    · simpa [or_imp, forall_and, IsStay] using hStays
    · rw [List.reverse_cons, pieces_ofList_concat_slash _ _ List.not_mem_nil, hPieces,
        List.append_assoc]
  | case2 => exact ⟨[], by simp, by rw [List.append_nil]⟩
  | case3 rest ih =>
    obtain ⟨stays, hStays, hPieces⟩ := ih
    refine ⟨stays ++ ["."], ?_, ?_⟩
    · simpa [or_imp, forall_and, IsStay] using hStays
    · rw [List.reverse_cons, List.reverse_cons, List.append_assoc, List.singleton_append,
        pieces_ofList_concat_slash _ _ (by decide), hPieces, List.append_assoc]
  | case4 => exact ⟨[], by simp, by rw [List.append_nil]⟩

theorem getLast?_dropEndDots (reversed : List Char) :
    (dropEndDots reversed).getLast?.getD '/' = reversed.getLast?.getD '/' := by
  fun_induction dropEndDots reversed with
  | case1 rest ih => cases rest <;> simp_all
  | case2 => rfl
  | case3 rest ih => cases rest <;> simp_all
  | case4 => rfl

theorem dropEndDots_of_isName {name : String} (h : IsName name) (rest : List Char) :
    dropEndDots (name.toList.reverse ++ rest) = name.toList.reverse ++ rest := by
  have hSlash : '/' ∉ name.toList.reverse := fun hMem => h.noSlash (List.mem_reverse.mp hMem)
  have hDots (n : Nat) (hn : n ≤ 2) : name.toList.reverse ≠ List.replicate n '.' := by
    intro hEq
    apply h.notDots n hn
    rw [← List.reverse_reverse name.toList, hEq, List.reverse_replicate]
  generalize name.toList.reverse = reversed at hSlash hDots ⊢
  have hNil := hDots 0 (by decide)
  have hDot := hDots 1 (by decide)
  rw [dropEndDots.eq_def]
  split
  · rename_i after hAll
    cases reversed with
    | nil => exact absurd rfl hNil
    | cons c reversed =>
      obtain ⟨rfl, -⟩ := List.cons.inj hAll
      exact absurd List.mem_cons_self hSlash
  · rename_i hAll
    exact hAll.symm
  · rename_i after hAll
    match reversed with
    | [] => exact absurd rfl hNil
    | [c] =>
      obtain ⟨rfl, -⟩ := List.cons.inj hAll
      exact absurd rfl hDot
    | c :: d :: reversed =>
      obtain ⟨-, hTail⟩ := List.cons.inj hAll
      obtain ⟨rfl, -⟩ := List.cons.inj hTail
      exact absurd (List.mem_cons_of_mem _ List.mem_cons_self) hSlash
  · rfl

theorem exists_front (path : String) :
    ∃ front last : String, path = front ++ last ∧ IsFront front ∧ '/' ∉ last.toList := by
  refine ⟨.ofList (path.toList.rdropWhile (· != '/')), .ofList (path.toList.rtakeWhile (· != '/')),
    ?_, ?_, ?_⟩
  · rw [← String.ofList_append, List.rdropWhile, List.rtakeWhile, ← List.reverse_append,
      List.takeWhile_append_dropWhile, List.reverse_reverse, String.ofList_toList]
  · by_cases hFront : path.toList.rdropWhile (· != '/') = []
    · exact Or.inl (by rw [hFront])
    · have hSlash := List.rdropWhile_last_not (· != '/') path.toList hFront
      refine Or.inr ?_
      rw [String.toList_ofList, List.getLast?_eq_getLast_of_ne_nil hFront]
      simpa using hSlash
  · rw [String.toList_ofList]
    intro hMem
    simpa using List.mem_rtakeWhile_imp hMem

theorem fileName?_append {front name : String} (hFront : IsFront front) (hName : IsName name) :
    fileName? (front ++ name) = some name := by
  obtain ⟨before, hPieces⟩ := hFront.exists_pieces
  have hLast : (parts (front ++ name)).getLast? = some name := by
    rw [parts, hPieces name hName.noSlash, List.filter_append]
    simp [hName.ne_empty, hName.ne_dot]
  rw [fileName?, hLast]
  exact if_neg hName.ne_dots

theorem parent?_append {up : List Char} {name : String} (hName : IsName name) :
    parent? (.ofList (up ++ '/' :: name.toList)) =
      some (.ofList (if dropEndDots up.reverse = [] then ['/']
        else (dropEndDots up.reverse).reverse)) := by
  have hReversed : (up ++ '/' :: name.toList).reverse =
      name.toList.reverse ++ '/' :: up.reverse := by simp
  have hBefore : (name.toList.reverse ++ '/' :: up.reverse).dropWhile (· != '/') =
      '/' :: up.reverse := by
    rw [List.dropWhile_append_of_pos, List.dropWhile_cons_of_neg (by simp)]
    intro c hc
    have hSlash : c ≠ '/' := by
      rintro rfl
      exact hName.noSlash (List.mem_reverse.mp hc)
    simpa using hSlash
  rw [parent?, String.toList_ofList, hReversed, dropEndDots_of_isName hName, hBefore]
  simp [dropEndDots]

theorem parent?_of_isName {name : String} (hName : IsName name) : parent? name = some "" := by
  have hDrop := dropEndDots_of_isName hName []
  have hBefore : name.toList.reverse.dropWhile (· != '/') = [] := by
    rw [List.dropWhile_eq_nil_iff]
    intro c hc
    have hSlash : c ≠ '/' := by
      rintro rfl
      exact hName.noSlash (List.mem_reverse.mp hc)
    simpa using hSlash
  rw [List.append_nil] at hDrop
  rw [parent?, hDrop, hBefore]
  simp [dropEndDots, hName.ne_empty]

end Path

namespace FileTree

/-! ## The end of a walk -/

section

variable {root : FileTree} {names : List String} {entries : List (String × FileTree)}

theorem walk_stay {follow : List String → List String → Except FileFault Spot} {piece : String}
    (hPiece : Path.IsStay piece) (hHere : root.at? names = some (directory entries)) :
    walk root true follow names [piece] = .ok (.node names (directory entries)) := by
  have hStay : (piece = "" || piece = ".") = true := by simpa [Path.IsStay] using hPiece
  rw [walk_cons_of_directory _ _ hHere, if_pos hStay, walk, hHere]

theorem walkLinks_concat_stay {piece : String} (hPiece : Path.IsStay piece) (links : Nat)
    (here pieces : List String) :
    walkLinks root true links here (pieces ++ [piece]) = .ok (.node names (directory entries)) ↔
      walkLinks root true links here pieces = .ok (.node names (directory entries)) := by
  cases goesOn_walkLinks true (List.cons_ne_nil piece []) links here pieces with
  | nowhere hSofar hWhole => exact iff_of_false (hWhole _) (hSofar _ _)
  | directory found below left hHere hSofar hWhole => rw [hWhole, hSofar, walk_stay hPiece hHere]

theorem walkLinks_append_stays {stays : List String} (hStays : ∀ piece ∈ stays, Path.IsStay piece)
    (links : Nat) (here pieces : List String) :
    walkLinks root true links here (pieces ++ stays) = .ok (.node names (directory entries)) ↔
      walkLinks root true links here pieces = .ok (.node names (directory entries)) := by
  induction stays using List.reverseRecOn with
  | nil => rw [List.append_nil]
  | append_singleton stays last ih =>
    rw [← List.append_assoc, walkLinks_concat_stay (hStays last (by simp))]
    exact ih fun piece hPiece => hStays piece (List.mem_append_left _ hPiece)

/-- A path that ends in no name leads to directories only. -/
theorem exists_directory_of_walkLinks_concat {piece : String} (hSlash : '/' ∉ piece.toList)
    (hPiece : ¬Path.IsName piece) (links : Nat) {here pieces : List String} {spot : Spot}
    (h : walkLinks root true links here (pieces ++ [piece]) = .ok spot) :
    ∃ names entries, spot = .node names (directory entries) := by
  cases goesOn_walkLinks true (List.cons_ne_nil piece []) links here pieces with
  | nowhere _ hWhole => exact absurd h (hWhole _)
  | directory found below left hHere hSofar hWhole =>
    by_cases hStay : Path.IsStay piece
    · rw [hWhole, walk_stay hStay hHere] at h
      exact ⟨found, below, (Except.ok.inj h).symm⟩
    · obtain ⟨hEmpty, hDot⟩ := not_or.mp hStay
      have hUp : piece = ".." := by
        by_contra hUp
        refine hPiece ⟨hSlash, fun n hn hDots => ?_⟩
        have hName : piece = String.ofList (List.replicate n '.') := by
          rw [← hDots, String.ofList_toList]
        obtain rfl | rfl | rfl : n = 0 ∨ n = 1 ∨ n = 2 := by omega
        all_goals simp_all
      subst hUp
      obtain ⟨above, hAbove⟩ := exists_directory_above hHere
      rw [hWhole, walk_cons_of_directory _ _ hHere, if_neg (by decide), if_pos rfl, walk,
        hAbove] at h
      exact ⟨_, above, (Except.ok.inj h).symm⟩

end

section

variable {root : FileTree} {follow follow' : List String → List String → Except FileFault Spot}

/-- What a walk that does not follow a link at its end leads to is that link, or what the walk that
follows it leads to. -/
theorem walk_false
    (hFollow : ∀ here pieces, follow' here pieces = follow here pieces ∨
      ∃ names target, follow' here pieces = .ok (.node names (link target)))
    (here pieces : List String) :
    walk root false follow' here pieces = walk root true follow here pieces ∨
      ∃ names target, walk root false follow' here pieces = .ok (.node names (link target)) := by
  induction pieces generalizing here with
  | nil => exact Or.inl rfl
  | cons first rest ih =>
    by_cases hNode : ∃ below, root.at? here = some (directory below)
    · obtain ⟨below, hNode⟩ := hNode
      rw [walk_cons_of_directory _ _ hNode, walk_cons_of_directory _ _ hNode]
      split
      · exact ih here
      · split
        · exact ih here.dropLast
        · cases root.at? (here ++ [first]) with
          | none => exact Or.inl rfl
          | some child =>
            cases child with
            | file content => exact ih _
            | directory inner => exact ih _
            | link target =>
              cases rest with
              | nil => exact Or.inr ⟨_, target, rfl⟩
              | cons next rest => exact hFollow _ _
    · refine Or.inl ?_
      rw [walk, walk]
      split
      · rename_i below hHere
        exact absurd ⟨below, hHere⟩ hNode
      · rfl
      · rfl

theorem walkLinks_false (links : Nat) (here pieces : List String) :
    walkLinks root false links here pieces = walkLinks root true links here pieces ∨
      ∃ names target, walkLinks root false links here pieces = .ok (.node names (link target)) := by
  induction links generalizing here pieces with
  | zero => exact Or.inl rfl
  | succ links ih => exact walk_false ih here pieces

end

end FileTree

namespace Workspace

variable {w : Workspace} {names : List String} {entries : List (String × FileTree)}

theorem find?_eq_some_iff {path : String} {t : FileTree} :
    w.find? path = some (names, t) ↔ w.locate true path = .ok (.node names t) := by
  refine ⟨locate_of_find?, fun h => ?_⟩
  rw [find?, h]

theorem locate_false (w : Workspace) (path : String) : w.locate false path = w.locate true path ∨
    ∃ names target, w.locate false path = .ok (.node names (.link target)) := by
  rw [locate, locate]
  split
  · exact Or.inl rfl
  · exact FileTree.walkLinks_false _ _ _

theorem ne_empty_of_find? {path : String} {t : FileTree} (h : w.find? path = some (names, t)) :
    path ≠ "" := by
  rintro rfl
  rw [find?_eq_some_iff, locate] at h
  cases h

theorem find?_of_pieces {path other : String} {pieces stays : List String}
    (others : List String) (hPath : Path.pieces path = pieces ++ stays)
    (hStays : ∀ piece ∈ stays, Path.IsStay piece)
    (hOther : Path.pieces other = pieces ++ others) (hOthers : ∀ piece ∈ others, Path.IsStay piece)
    (hEmpty : other ≠ "") (hStart : Path.isAbsolute other = Path.isAbsolute path)
    (h : w.find? path = some (names, .directory entries)) :
    w.find? other = some (names, .directory entries) := by
  have hNone := ne_empty_of_find? h
  rw [find?_eq_some_iff, locate, if_neg (by simpa using hNone), hPath,
    FileTree.walkLinks_append_stays hStays] at h
  rw [find?_eq_some_iff, locate, if_neg (by simpa using hEmpty), hOther, hStart,
    FileTree.walkLinks_append_stays hOthers]
  exact h

/-! ## What is in a directory -/

theorem exists_front_of_find? {path : String}
    (h : w.find? path = some (names, .directory entries)) :
    ∃ front, Path.IsFront front ∧ w.find? (front ++ ".") = some (names, .directory entries) ∧
      ∀ name, Path.IsName name → Path.join path name = front ++ name := by
  have hNone := ne_empty_of_find? h
  have hRelative (name : String) (hName : Path.IsName name) : Path.isAbsolute name = false := by
    have hHead : name.toList.head? ≠ some '/' :=
      fun hHead => hName.noSlash (List.mem_of_head? hHead)
    simpa [Path.isAbsolute] using hHead
  by_cases hSlash : path.toList.getLast? = some '/'
  · refine ⟨path, Or.inr hSlash, ?_, fun name hName => ?_⟩
    · obtain ⟨up, hUp⟩ := List.getLast?_eq_some_iff.mp hSlash
      have hPieces : Path.pieces (path ++ "") = Path.pieces (.ofList up) ++ [""] :=
        Path.pieces_append_of_slash hUp (by decide)
      have hDotted : Path.pieces (path ++ ".") = Path.pieces (.ofList up) ++ ["."] :=
        Path.pieces_append_of_slash hUp (by decide)
      rw [String.append_empty] at hPieces
      exact find?_of_pieces _ hPieces (by simp [Path.IsStay]) hDotted (by simp [Path.IsStay])
        (by simp) (Path.IsFront.isAbsolute_append (Or.inr hSlash) (by decide)) h
    · rw [Path.join, hRelative name hName]
      simp [hSlash]
  · refine ⟨path ++ "/", Or.inr (by simp), ?_, fun name hName => ?_⟩
    · have hDotted : Path.pieces (path ++ "/" ++ ".") = Path.pieces path ++ ["."] := by
        have hSlashed : (path ++ "/").toList = path.toList ++ ['/'] := String.toList_append
        rw [Path.pieces_append_of_slash hSlashed (by decide), String.ofList_toList]
      have hStart : Path.isAbsolute (path ++ "/" ++ ".") = Path.isAbsolute path := by
        have hSome : path.toList ≠ [] := by simpa using hNone
        obtain ⟨c, rest, hPath⟩ := List.exists_cons_of_ne_nil hSome
        simp [Path.isAbsolute, hPath]
      exact find?_of_pieces _ (List.append_nil _).symm (by simp) hDotted (by simp [Path.IsStay])
        (by simp) hStart h
    · rw [Path.join, hRelative name hName]
      simp [hSlash, hNone]

theorem fileName?_join {path name : String}
    (h : w.find? path = some (names, .directory entries)) (hName : Path.IsName name) :
    Path.fileName? (Path.join path name) = some name := by
  obtain ⟨front, hFront, -, hJoin⟩ := exists_front_of_find? h
  rw [hJoin name hName, Path.fileName?_append hFront hName]

/-! ## The directory of a file -/

theorem find?_directoryOf {front name : String} (hFront : Path.IsFront front)
    (hName : Path.IsName name) (h : w.find? (front ++ ".") = some (names, .directory entries)) :
    w.find? (directoryOf (front ++ name)) = some (names, .directory entries) := by
  rcases hFront with rfl | hSlash
  · rw [String.empty_append, directoryOf, Path.parent?_of_isName hName]
    exact h
  · obtain ⟨up, hUp⟩ := List.getLast?_eq_some_iff.mp hSlash
    obtain ⟨stays, hStays, hPieces⟩ := Path.exists_pieces_dropEndDots up.reverse
    rw [List.reverse_reverse] at hPieces
    have hDotted : Path.pieces (front ++ ".") = _ ++ ["."] :=
      Path.pieces_append_of_slash hUp (by decide)
    rw [hPieces, List.append_assoc] at hDotted
    have hStaysDotted : ∀ piece ∈ stays ++ ["."], Path.IsStay piece := by
      simpa [or_imp, forall_and, Path.IsStay] using hStays
    have hHead : (up ++ ['/']).head? = some ((Path.dropEndDots up.reverse).getLast?.getD '/') := by
      rw [Path.getLast?_dropEndDots, List.getLast?_reverse]
      cases up <;> rfl
    have hStart : Path.isAbsolute (front ++ ".") =
        decide ((Path.dropEndDots up.reverse).getLast?.getD '/' = '/') := by
      rw [Path.IsFront.isAbsolute_append (Or.inr hSlash) (by decide), Path.isAbsolute, hUp, hHead]
      simp
    rw [Path.append_eq_ofList hUp, directoryOf, Path.parent?_append hName]
    by_cases hTrimmed : Path.dropEndDots up.reverse = []
    · -- nothing is left of the front, which led to the root
      rw [hTrimmed] at hDotted hStart
      rw [if_pos hTrimmed]
      exact find?_of_pieces [""] hDotted hStaysDotted (by decide)
        (by simp [Path.IsStay]) (by decide) hStart.symm h
    · obtain ⟨c, trimmed, hTrimmed'⟩ := List.exists_cons_of_ne_nil
        (mt List.reverse_eq_nil_iff.mp hTrimmed)
      rw [← List.head?_reverse, hTrimmed'] at hStart
      rw [hTrimmed'] at hDotted
      rw [if_neg hTrimmed, hTrimmed']
      have hOther : (String.ofList (c :: trimmed)).isEmpty = false := by simp
      have hOtherStart : Path.isAbsolute (.ofList (c :: trimmed)) =
          decide ((c :: trimmed).head?.getD '/' = '/') := by
        rw [Path.isAbsolute, String.toList_ofList, decide_eq_decide]
        simp
      simp only [hOther, Bool.false_eq_true, if_false]
      exact find?_of_pieces [] hDotted hStaysDotted (List.append_nil _).symm
        (by simp) (by simp) (hOtherStart.trans hStart.symm) h

theorem exists_directory_of_isFile {path : String} (h : w.isFile path = true) :
    ∃ name names entries, Path.fileName? path = some name ∧ Path.IsName name ∧
      w.find? (directoryOf path) = some (names, .directory entries) ∧
      w.locate false path = .ok (.ofEntry names entries name) := by
  obtain ⟨front, name, rfl, hFront, hSlash⟩ := Path.exists_front path
  obtain ⟨before, hPieces⟩ := hFront.exists_pieces
  have hEmpty : ¬(front ++ name).isEmpty = true := by
    intro hEmpty
    rw [isFile, find?, locate, if_pos hEmpty] at h
    cases h
  have hDotEmpty : ¬(front ++ ".").isEmpty = true := by simp
  have hDot : '/' ∉ ".".toList := by decide
  obtain ⟨found, content, hFound⟩ : ∃ names content,
      w.locate true (front ++ name) = .ok (.node names (.file content)) := by
    rw [isFile] at h
    split at h
    · rename_i names content hFile
      exact ⟨names, content, locate_of_find? hFile⟩
    · cases h
  rw [locate, if_neg hEmpty, hPieces name hSlash, hFront.isAbsolute_append hSlash] at hFound
  have hName : Path.IsName name := by
    by_contra hName
    obtain ⟨_, _, hDirectory⟩ :=
      FileTree.exists_directory_of_walkLinks_concat hSlash hName _ hFound
    cases hDirectory
  cases FileTree.goesOn_walkLinks true (List.cons_ne_nil name []) _ _ before with
  | nowhere _ hWhole => exact absurd hFound (hWhole _)
  | directory names entries left hHere hSofar hWhole =>
    have hFind : w.find? (front ++ ".") = some (names, .directory entries) := by
      rw [find?_eq_some_iff, locate, if_neg hDotEmpty, hPieces _ hDot,
        hFront.isAbsolute_append hDot, FileTree.walkLinks_concat_stay (Or.inr rfl)]
      exact hSofar
    exact ⟨name, names, entries, Path.fileName?_append hFront hName, hName,
      find?_directoryOf hFront hName hFind, locate_append_name hFront hFind hName
        fun hLast => absurd hLast Bool.false_ne_true⟩

end Workspace

end ConfigReference
