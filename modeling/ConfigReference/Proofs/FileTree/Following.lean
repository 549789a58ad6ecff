import ConfigReference.FileTree

/-!
# Following paths

What a path leads to: a node of the tree that is no link, or a free name in a directory. A path that
ends in a name leads to the entry of that name in the directory that the path before it leads to.
-/

set_option autoImplicit false

namespace ConfigReference

/-! ## Names of files -/

namespace Path

/-- A name that a directory can have an entry for: no slash is in it, and it is not empty, a dot or
two dots. -/
structure IsName (name : String) : Prop where
  noSlash : '/' ∉ name.toList
  notDots : ∀ n ≤ 2, name.toList ≠ List.replicate n '.'

namespace IsName

variable {name : String}

theorem ne_empty (h : IsName name) : name ≠ "" := by
  rintro rfl
  exact h.notDots 0 (by decide) rfl

theorem ne_dot (h : IsName name) : name ≠ "." := by
  rintro rfl
  exact h.notDots 1 (by decide) (by simp)

theorem ne_dots (h : IsName name) : name ≠ ".." := by
  rintro rfl
  exact h.notDots 2 (by decide) (by simp)

end IsName

/-- What paths of entries of one directory begin with: nothing, or a text that ends in a slash. -/
def IsFront (front : String) : Prop := front = "" ∨ front.toList.getLast? = some '/'

theorem IsFront.exists_pieces {front : String} (h : IsFront front) :
    ∃ before, ∀ last : String, '/' ∉ last.toList → pieces (front ++ last) = before ++ [last] := by
  rcases h with rfl | hSlash
  · refine ⟨[], fun last hLast => ?_⟩
    rw [String.empty_append, pieces, List.splitOn_eq_singleton hLast, List.map_singleton,
      String.ofList_toList, List.nil_append]
  · obtain ⟨up, hUp⟩ := List.getLast?_eq_some_iff.mp hSlash
    refine ⟨(up.splitOn '/').map String.ofList, fun last hLast => ?_⟩
    rw [pieces, String.toList_append, hUp, List.append_assoc, List.singleton_append,
      List.splitOn_append_cons_self, List.splitOn_eq_singleton hLast, List.map_append,
      List.map_singleton, String.ofList_toList]

theorem IsFront.isAbsolute_append {front : String} (h : IsFront front) {last : String}
    (hLast : '/' ∉ last.toList) : isAbsolute (front ++ last) = isAbsolute front := by
  rcases h with rfl | hSlash
  · have hHead : last.toList.head? ≠ some '/' := fun hHead => hLast (List.mem_of_head? hHead)
    simp [isAbsolute, hHead]
  · obtain ⟨up, hUp⟩ := List.getLast?_eq_some_iff.mp hSlash
    rw [isAbsolute, isAbsolute, String.toList_append, hUp]
    cases up <;> rfl

end Path

namespace FileTree

/-! ## Nodes under names -/

theorem at?_directory_cons (entries : List (String × FileTree)) (name : String)
    (names : List String) :
    (directory entries).at? (name :: names) = (entries.lookup name).bind (·.at? names) := rfl

theorem at?_append (t : FileTree) (front back : List String) :
    t.at? (front ++ back) = (t.at? front).bind (·.at? back) := by
  induction front generalizing t with
  | nil => rfl
  | cons name front ih =>
    rw [List.cons_append, at?, at?]
    cases t.entry? name with
    | none => rfl
    | some child => exact ih child

theorem at?_concat {t : FileTree} {names : List String} {entries : List (String × FileTree)}
    (h : t.at? names = some (directory entries)) (piece : String) :
    t.at? (names ++ [piece]) = entries.lookup piece := by
  rw [at?_append, h, Option.bind_some, at?_directory_cons]
  cases entries.lookup piece <;> rfl

theorem exists_directory_dropLast {t child : FileTree} {names : List String}
    (h : t.at? names = some child) (hNames : names ≠ []) :
    ∃ entries, t.at? names.dropLast = some (directory entries) := by
  rw [← List.dropLast_concat_getLast hNames, at?_append] at h
  obtain ⟨above, hAbove, hChild⟩ := Option.bind_eq_some_iff.mp h
  cases above with
  | directory entries => exact ⟨entries, hAbove⟩
  | file content => cases hChild
  | link target => cases hChild

theorem exists_directory_above {t : FileTree} {names : List String}
    {entries : List (String × FileTree)} (h : t.at? names = some (directory entries)) :
    ∃ above, t.at? names.dropLast = some (directory above) := by
  cases names with
  | nil => exact ⟨entries, h⟩
  | cons name names => exact exists_directory_dropLast h (List.cons_ne_nil _ _)

/-! ## Following paths -/

def Spot.names : Spot → List String
  | node names _ => names
  | vacant names => names

def place? (result : Except FileFault Spot) : Option (List String) :=
  result.toOption.map Spot.names

/-- What a spot says of a tree: what is there, which is no link, or that a name in a directory is
free. -/
inductive Spot.IsIn (root : FileTree) : Spot → Prop where
  | node (names : List String) (t : FileTree) (h : root.at? names = some t)
    (hLink : ∀ target, t ≠ .link target) : IsIn root (.node names t)
  | vacant (names : List String) (entries : List (String × FileTree)) (h : root.at? names = none)
    (hAbove : root.at? names.dropLast = some (directory entries)) : IsIn root (.vacant names)

section

variable {root : FileTree} {last : Bool}
  {follow : List String → List String → Except FileFault Spot} {here : List String}

theorem walk_cons_of_directory {entries : List (String × FileTree)} (piece : String)
    (rest : List String) (h : root.at? here = some (directory entries)) :
    walk root last follow here (piece :: rest) =
      if piece = "" || piece = "." then walk root last follow here rest
      else if piece = ".." then walk root last follow here.dropLast rest
      else
        match root.at? (here ++ [piece]) with
        | none => if rest.isEmpty then .ok (.vacant (here ++ [piece])) else .error .notFound
        | some (link target) =>
          if rest.isEmpty && !last then .ok (.node (here ++ [piece]) (link target))
          else follow (if Path.isAbsolute target then [] else here) (Path.pieces target ++ rest)
        | some _ => walk root last follow (here ++ [piece]) rest := by
  rewrite [walk, at?_concat h, h]
  rfl

theorem place?_walk_cons (piece : String) (rest : List String)
    (h : ∀ entries, root.at? here ≠ some (directory entries)) :
    place? (walk root last follow here (piece :: rest)) = none := by
  rw [walk]
  split
  · rename_i entries hHere
    exact absurd hHere (h entries)
  · rfl
  · rfl

theorem exists_directory_of_walk_cons {piece : String} {rest : List String} {spot : Spot}
    (h : walk root last follow here (piece :: rest) = .ok spot) :
    ∃ entries, root.at? here = some (directory entries) := by
  rw [walk] at h
  split at h
  · rename_i entries hHere
    exact ⟨entries, hHere⟩
  · cases h
  · cases h

theorem isIn_of_walk
    (hFollow : ∀ here pieces spot, pieces ≠ [] → follow here pieces = .ok spot → spot.IsIn root)
    {pieces : List String} {spot : Spot} (h : walk root true follow here pieces = .ok spot)
    (hHere : pieces = [] → ∀ target, root.at? here ≠ some (link target)) : spot.IsIn root := by
  induction pieces generalizing here with
  | nil =>
    rw [walk] at h
    split at h
    · rename_i t hNode
      cases h
      exact .node here t hNode fun target hTarget => hHere rfl target (hTarget ▸ hNode)
    · cases h
  | cons piece rest ih =>
    obtain ⟨entries, hNode⟩ := exists_directory_of_walk_cons h
    have hStay : ∀ target, root.at? here ≠ some (link target) := by simp [hNode]
    rw [walk_cons_of_directory piece rest hNode] at h
    split at h
    · exact ih h fun _ => hStay
    · split at h
      · obtain ⟨above, hAbove⟩ := exists_directory_above hNode
        exact ih h fun _ => by simp [hAbove]
      · split at h
        · rename_i hFree
          split at h
          · cases h
            exact .vacant _ entries hFree (by rw [List.dropLast_concat]; exact hNode)
          · cases h
        · rename_i target hLink
          rw [Bool.not_true, Bool.and_false, if_neg Bool.false_ne_true] at h
          exact hFollow _ _ _ (by simp [Path.pieces]) h
        · rename_i child hChild hLink
          exact ih h fun _ target hTarget =>
            hChild target (Option.some.inj (hLink.symm.trans hTarget))

end

def Spot.ofEntry (names : List String) (entries : List (String × FileTree)) (name : String) :
    Spot :=
  match entries.lookup name with
  | some t => .node (names ++ [name]) t
  | none => .vacant (names ++ [name])

section

variable {root : FileTree} {last : Bool} {names : List String}
  {entries : List (String × FileTree)} {name : String}

theorem walk_name {follow : List String → List String → Except FileFault Spot}
    (hHere : root.at? names = some (directory entries)) (hName : Path.IsName name)
    (hLink : last = true → ∀ target, entries.lookup name ≠ some (link target)) :
    walk root last follow names [name] = .ok (.ofEntry names entries name) := by
  rw [walk_cons_of_directory _ _ hHere, at?_concat hHere, Spot.ofEntry]
  simp only [hName.ne_empty, hName.ne_dot, hName.ne_dots, decide_false, Bool.or_false,
    Bool.false_eq_true, if_false]
  cases hEntry : entries.lookup name with
  | none => rfl
  | some t =>
    have hNode := (at?_concat hHere name).trans hEntry
    cases t with
    | file content => simp [walk, hNode]
    | directory below => simp [walk, hNode]
    | link target =>
      cases last with
      | true => exact absurd hEntry (hLink rfl target)
      | false => rfl

theorem walk_dot {follow : List String → List String → Except FileFault Spot}
    (hHere : root.at? names = some (directory entries)) :
    walk root last follow names ["."] = .ok (.node names (directory entries)) := by
  simp [walk, hHere]

/-- A path that goes on with more pieces is followed from the directory that it leads to so far.
When it leads to no directory, it leads nowhere with them. -/
inductive GoesOn (root : FileTree) (last : Bool) (more : List String)
    (sofar whole : Except FileFault Spot) : Prop where
  | directory (names : List String) (entries : List (String × FileTree))
    (left : List String → List String → Except FileFault Spot)
    (hHere : root.at? names = some (directory entries))
    (hSofar : sofar = .ok (.node names (directory entries)))
    (hWhole : whole = walk root last left names more)
  | nowhere (hSofar : ∀ names entries, sofar ≠ .ok (.node names (directory entries)))
    (hWhole : ∀ spot, whole ≠ .ok spot)

theorem goesOn_walk {follow follow' : List String → List String → Except FileFault Spot}
    {more : List String} (hMore : more ≠ [])
    (hFollow : ∀ here pieces,
      GoesOn root last more (follow here pieces) (follow' here (pieces ++ more)))
    (here pieces : List String) :
    GoesOn root last more (walk root true follow here pieces)
      (walk root last follow' here (pieces ++ more)) := by
  induction pieces generalizing here with
  | nil =>
    by_cases hNode : ∃ below, root.at? here = some (directory below)
    · obtain ⟨below, hNode⟩ := hNode
      exact .directory here below follow' hNode (by simp [walk, hNode]) rfl
    · obtain ⟨next, others, rfl⟩ := List.exists_cons_of_ne_nil hMore
      refine .nowhere ?_ fun spot h => hNode (exists_directory_of_walk_cons h)
      intro names entries h
      rw [walk] at h
      split at h
      · rename_i t hHere
        cases h
        exact hNode ⟨entries, hHere⟩
      · cases h
  | cons piece rest ih =>
    by_cases hNode : ∃ below, root.at? here = some (directory below)
    · obtain ⟨below, hNode⟩ := hNode
      rw [List.cons_append, walk_cons_of_directory _ _ hNode, walk_cons_of_directory _ _ hNode]
      by_cases hStay : (piece = "" || piece = ".") = true
      · rw [if_pos hStay, if_pos hStay]
        exact ih here
      · rw [if_neg hStay, if_neg hStay]
        by_cases hUp : piece = ".."
        · rw [if_pos hUp, if_pos hUp]
          exact ih here.dropLast
        · rw [if_neg hUp, if_neg hUp]
          have hOn : (rest ++ more).isEmpty = false := by simp [hMore]
          cases root.at? (here ++ [piece]) with
          | none => exact .nowhere (by cases rest <;> simp) (by simp [hOn])
          | some child =>
            cases child with
            | file content => exact ih _
            | directory inner => exact ih _
            | link target =>
              -- more follows behind the link, so it is followed also where a last link is not
              simp only [hOn, Bool.not_true, Bool.and_false, Bool.false_and, Bool.false_eq_true,
                if_false]
              rw [← List.append_assoc]
              exact hFollow _ _
    · exact .nowhere (fun names entries h => hNode (exists_directory_of_walk_cons h))
        fun spot h => hNode (exists_directory_of_walk_cons h)

theorem goesOn_walkLinks (last : Bool) {more : List String} (hMore : more ≠ []) (links : Nat)
    (here pieces : List String) :
    GoesOn root last more (walkLinks root true links here pieces)
      (walkLinks root last links here (pieces ++ more)) := by
  induction links generalizing here pieces with
  | zero => exact .nowhere (fun _ _ h => by cases h) (fun _ h => by cases h)
  | succ links ih => exact goesOn_walk hMore ih here pieces

theorem walkLinks_of_concat_dot (links : Nat) {here pieces : List String}
    (h : walkLinks root true links here (pieces ++ ["."]) = .ok (.node names (directory entries))) :
    walkLinks root true links here pieces = .ok (.node names (directory entries)) := by
  cases goesOn_walkLinks true (List.cons_ne_nil "." []) links here pieces with
  | nowhere _ hWhole => exact absurd h (hWhole _)
  | directory found below left hHere hSofar hWhole =>
    rw [hWhole, walk_dot hHere] at h
    rw [hSofar, h]

theorem walkLinks_concat_name (hName : Path.IsName name)
    (hLink : last = true → ∀ target, entries.lookup name ≠ some (link target)) (links : Nat)
    {here pieces : List String}
    (h : walkLinks root true links here pieces = .ok (.node names (directory entries))) :
    walkLinks root last links here (pieces ++ [name]) = .ok (.ofEntry names entries name) := by
  cases goesOn_walkLinks last (List.cons_ne_nil name []) links here pieces with
  | nowhere hSofar _ => exact absurd h (hSofar _ _)
  | directory found below left hHere hSofar hWhole =>
    cases hSofar.symm.trans h
    rw [hWhole, walk_name hHere hName hLink]

end

theorem isIn_of_walkLinks {root : FileTree} {links : Nat} {here pieces : List String} {spot : Spot}
    (h : walkLinks root true links here pieces = .ok spot) (hPieces : pieces ≠ []) :
    spot.IsIn root := by
  induction links generalizing here pieces spot with
  | zero => cases h
  | succ links ih =>
    exact isIn_of_walk (fun here pieces spot hPieces h => ih h hPieces) h
      fun hNil => absurd hNil hPieces

end FileTree

namespace Workspace

/-- The names of the place to which a path leads, if it leads anywhere: to a node, or to a free name
in a directory. -/
def place? (w : Workspace) (path : String) : Option (List String) :=
  FileTree.place? (w.locate true path)

theorem isIn_of_locate {w : Workspace} {path : String} {spot : FileTree.Spot}
    (h : w.locate true path = .ok spot) : spot.IsIn w.root := by
  rw [locate] at h
  split at h
  · cases h
  · exact FileTree.isIn_of_walkLinks h (by simp [Path.pieces])

theorem locate_of_find? {w : Workspace} {path : String} {names : List String} {t : FileTree}
    (h : w.find? path = some (names, t)) : w.locate true path = .ok (.node names t) := by
  rw [find?] at h
  split at h
  · rename_i found node hFound
    cases h
    exact hFound
  · cases h

def isLink (w : Workspace) (path : String) : Bool :=
  match w.locate false path with
  | .ok (.node _ (.link _)) => true
  | _ => false

section

variable {w : Workspace} {front name : String} {names : List String}
  {entries : List (String × FileTree)}

theorem locate_append_name (hFront : Path.IsFront front)
    (hDirectory : w.find? (front ++ ".") = some (names, .directory entries))
    (hName : Path.IsName name) {last : Bool}
    (hLink : last = true → ∀ target, entries.lookup name ≠ some (.link target)) :
    w.locate last (front ++ name) = .ok (.ofEntry names entries name) := by
  obtain ⟨before, hPieces⟩ := hFront.exists_pieces
  have hDot : '/' ∉ ".".toList := by decide
  have hNotEmpty : ¬(front ++ name).isEmpty = true := by
    simp [hName.ne_empty]
  have hDotNotEmpty : ¬(front ++ ".").isEmpty = true := by simp
  have hLocate := locate_of_find? hDirectory
  rw [locate, if_neg hDotNotEmpty, hPieces _ hDot, hFront.isAbsolute_append hDot] at hLocate
  rw [locate, if_neg hNotEmpty, hPieces _ hName.noSlash, hFront.isAbsolute_append hName.noSlash]
  exact FileTree.walkLinks_concat_name hName hLink _ (FileTree.walkLinks_of_concat_dot _ hLocate)

end

end Workspace

end ConfigReference
