import Detour.File.Tree
import Detour.Proofs.Text.Split
/-!
# Where paths lead

The place of a node is the row of names that lead to it from the root, with no name among them that stands
for a directory itself or for the one above it. Main statements: what is read by a path is the file at the
place of the path, and a path that never leads above the directory where it starts leads to what this
directory holds, whatever else there is in the tree.
-/

namespace Detour.File

/-- A name that stands for an entry, and neither for the directory itself nor for the one above it. -/
def IsEntryName (name : List Char) : Prop := name ≠ ['.'] ∧ name ≠ ['.', '.']

/-- The place that a name leads to from another place. Nothing is above the root. -/
def enter (place : List (List Char)) (name : List Char) : List (List Char) :=
  if name = ['.'] then place
  else if name = ['.', '.'] then place.dropLast
  else place ++ [name]

/-- The place that a path leads to. -/
def Tree.place (t : Tree) (p : Path) : List (List Char) :=
  (if p.isAbsolute then p.names else t.here ++ p.names).foldl enter []

/-- Whether names never lead above a place that is some steps above the one where they start. -/
def staysBelow : Nat → List (List Char) → Bool
  | _, [] => true
  | depth, name :: rest =>
    if name = ['.'] then staysBelow depth rest
    else if name = ['.', '.'] then depth ≠ 0 && staysBelow (depth - 1) rest
    else staysBelow (depth + 1) rest

/-- A path that never leads above the directory where it starts. -/
structure Path.StaysBelow (p : Path) : Prop where
  /-- It starts where one is, and not at the root. -/
  relative : p.isAbsolute = false
  /-- Its names do not lead above. -/
  below : staysBelow 0 p.names = true

/-- The node at a place below a node. -/
def Node.at? : Node → List (List Char) → Option Node
  | node, [] => some node
  | .file _ _, _ :: _ => none
  | .directory _ entries, name :: rest => (entries.lookup name).bind (·.at? rest)

/-- The nodes on the way from a place up to the root. -/
inductive Leads (root : Node) : List (List Char) → List Node → Prop where
  /-- The way from the root has no other nodes. -/
  | root : Leads root [] [root]
  /-- The way from an entry goes on with its directory. -/
  | entry {place : List (List Char)} {mode : Nat} {entries : List (List Char × Node)} {above : List Node}
      {name : List Char} {node : Node} (h : Leads root place (.directory mode entries :: above))
      (found : entries.lookup name = some node) :
      Leads root (place ++ [name]) (node :: .directory mode entries :: above)

/-- The nodes on the way from where a path leads up to the root. -/
def Tree.reach (t : Tree) (p : Path) : Except Fault (List Node) :=
  (if p.isAbsolute then .ok [t.root] else follow false [t.root] t.here).bind
    (follow t.restricted · p.names)

/-- What is found at the end of a path that leads to a node, if it leads to one. -/
def Path.ending (p : Path) : Option Node → Except Fault Node
  | none => .error .notFound
  | some (.file mode data) => if p.endsInSlash then .error .notDirectory else .ok (.file mode data)
  | some (.directory mode entries) => .ok (.directory mode entries)

/-- Two trees in which a program finds the same by a path. -/
structure Tree.AgreeAt (a b : Tree) (p : Path) : Prop where
  /-- The same bits hold for it. -/
  restricted : a.restricted = b.restricted
  /-- It comes to the same node, or meets the same fault on the way. -/
  node : (a.reach p).map List.head? = (b.reach p).map List.head?

variable {root node : Node} {place names : List (List Char)} {above nodes result : List Node}
  {name : List Char} {restricted : Bool}

section Places

/-- A name of more than two characters is that of an entry. -/
theorem isEntryName_of_length (h : 2 < name.length) : IsEntryName name := by
  constructor <;>
  · rintro rfl
    exact absurd h (by decide)

/-- A name stands for the directory itself, for the one above it, or for an entry. -/
theorem name_cases (name : List Char) : name = ['.'] ∨ name = ['.', '.'] ∨ IsEntryName name := by
  by_cases here : name = ['.']
  · exact .inl here
  · by_cases up : name = ['.', '.']
    · exact .inr (.inl up)
    · exact .inr (.inr ⟨here, up⟩)

/-- The name of the directory itself leads nowhere else. -/
theorem enter_here (place : List (List Char)) : enter place ['.'] = place := if_pos rfl

/-- The name of the directory above takes the last name away. -/
theorem enter_up (place : List (List Char)) : enter place ['.', '.'] = place.dropLast := rfl

/-- A name of an entry leads to the entry. -/
theorem enter_of_isEntryName (h : IsEntryName name) (place : List (List Char)) :
    enter place name = place ++ [name] := by
  rw [enter, if_neg h.1, if_neg h.2]

/-- Behind the name of an entry, names may lead above once more. -/
theorem staysBelow_cons_of_isEntryName (h : IsEntryName name) (depth : Nat) (rest : List (List Char)) :
    staysBelow depth (name :: rest) = staysBelow (depth + 1) rest := by
  rw [staysBelow, if_neg h.1, if_neg h.2]

/-- Names lead above if the first one does, or else if those behind it do so earlier by one step. -/
theorem staysBelow_cons_up (depth : Nat) (rest : List (List Char)) :
    staysBelow depth (['.', '.'] :: rest) = true ↔ depth ≠ 0 ∧ staysBelow (depth - 1) rest = true := by
  rw [← decide_eq_true_iff (p := depth ≠ 0), ← Bool.and_eq_true_iff]
  rfl

/-- Names of entries lead from one entry to the next. -/
theorem foldl_enter_of_isEntryName (h : ∀ name ∈ names, IsEntryName name) (place : List (List Char)) :
    names.foldl enter place = place ++ names := by
  induction names generalizing place with
  | nil => exact (List.append_nil place).symm
  | cons name rest ih =>
    obtain ⟨own, others⟩ := List.forall_mem_cons.1 h
    rw [List.foldl_cons, enter_of_isEntryName own, ih others, List.append_assoc, List.singleton_append]

/-- Names of entries never lead above. -/
theorem staysBelow_of_isEntryName (h : ∀ name ∈ names, IsEntryName name) (depth : Nat) :
    staysBelow depth names = true := by
  induction names generalizing depth with
  | nil => rfl
  | cons name rest ih =>
    obtain ⟨own, others⟩ := List.forall_mem_cons.1 h
    rw [staysBelow_cons_of_isEntryName own]
    exact ih others _

/-- What is on the way to a place was there before, or is a name of an entry among those that lead there. -/
theorem mem_foldl_enter (h : name ∈ names.foldl enter place) :
    name ∈ place ∨ name ∈ names ∧ IsEntryName name := by
  induction names generalizing place with
  | nil => exact .inl h
  | cons first rest ih =>
    rcases ih h with there | ⟨later, own⟩
    · rcases name_cases first with rfl | rfl | entry
      · rw [enter_here] at there
        exact .inl there
      · exact .inl (List.dropLast_subset _ there)
      · rw [enter_of_isEntryName entry, List.mem_append, List.mem_singleton] at there
        rcases there with before | rfl
        · exact .inl before
        · exact .inr ⟨List.mem_cons_self, entry⟩
    · exact .inr ⟨List.mem_cons_of_mem first later, own⟩

/-- Names that never lead above a place make the same way from there, whatever this place is. -/
theorem foldl_enter_append (place inner : List (List Char)) (h : staysBelow inner.length names = true) :
    names.foldl enter (place ++ inner) = place ++ names.foldl enter inner := by
  induction names generalizing inner with
  | nil => rfl
  | cons name rest ih =>
    rw [List.foldl_cons, List.foldl_cons]
    rcases name_cases name with rfl | rfl | entry
    · rw [enter_here, enter_here]
      exact ih inner h
    · obtain ⟨deep, later⟩ := (staysBelow_cons_up _ rest).1 h
      have some : inner ≠ [] := fun none => deep (List.length_eq_zero_iff.2 none)
      rw [enter_up, enter_up, List.dropLast_append_of_ne_nil some]
      exact ih _ (by rwa [List.length_dropLast])
    · rw [staysBelow_cons_of_isEntryName entry] at h
      rw [enter_of_isEntryName entry, enter_of_isEntryName entry, List.append_assoc]
      exact ih _ (by rwa [List.length_append, List.length_singleton])

/-- Names that lead above a place do not come back to it if they do not name it. -/
theorem not_mem_foldl_enter {top : List Char} (inner : List (List Char))
    (h : staysBelow inner.length names = false) (own : top ∉ inner) (new : top ∉ names) :
    top ∉ names.foldl enter (top :: inner) := by
  induction names generalizing inner with
  | nil => cases h
  | cons name rest ih =>
    obtain ⟨other, later⟩ := not_or.1 (mt List.mem_cons.2 new)
    rw [List.foldl_cons]
    rcases name_cases name with rfl | rfl | entry
    · rw [enter_here]
      exact ih inner h own later
    · rw [enter_up]
      by_cases none : inner = []
      -- From the place itself the way leads above it, and only names follow.
      · rw [none]
        intro found
        rcases mem_foldl_enter found with start | ⟨named, -⟩
        · cases start
        · exact later named
      · rw [List.dropLast_cons_of_ne_nil none]
        refine ih _ ?_ (fun found => own (List.dropLast_subset _ found)) later
        rw [List.length_dropLast, ← Bool.not_eq_true]
        intro below
        have deep : inner.length ≠ 0 := fun none' => none (List.length_eq_zero_iff.1 none')
        rw [(staysBelow_cons_up _ rest).2 ⟨deep, below⟩] at h
        cases h
    · rw [enter_of_isEntryName entry]
      refine ih (inner ++ [name]) ?_ ?_ later
      · rwa [List.length_append, List.length_singleton, ← staysBelow_cons_of_isEntryName entry]
      · rw [List.mem_append, List.mem_singleton]
        exact not_or.2 ⟨own, other⟩

end Places

section Ways

/-- A row of names is followed one after another. -/
theorem Node.at?_append (node : Node) (front back : List (List Char)) :
    node.at? (front ++ back) = (node.at? front).bind (·.at? back) := by
  induction front generalizing node with
  | nil => rfl
  | cons name rest ih =>
    cases node with
    | file mode data => rfl
    | directory mode entries =>
      rw [List.cons_append, at?, at?, Option.bind_assoc]
      exact congrArg _ (funext fun next => ih next)

/-- There is a node on every way. -/
theorem Leads.ne_nil (h : Leads root place nodes) : nodes ≠ [] := by
  cases h <;> exact List.cons_ne_nil _ _

/-- The first node on the way is the one at the place. -/
theorem Leads.at? (h : Leads root place (node :: above)) : root.at? place = some node := by
  generalize way : node :: above = nodes at h
  induction h generalizing node above with
  | root =>
    cases way
    rfl
  | entry h found ih =>
    cases way
    rw [Node.at?_append, ih rfl, Option.bind_some, Node.at?, found]
    rfl

/-- The way from the directory above is shorter by one node, except from the root. -/
theorem Leads.up (h : Leads root place (node :: above)) :
    Leads root place.dropLast (if above.isEmpty then node :: above else above) := by
  cases h with
  | root => exact .root
  | entry h found =>
    rw [List.dropLast_concat]
    exact h

variable {mode : Nat} {entries : List (List Char × Node)}

/-- In a directory that may not be passed no name is followed. -/
theorem follow_denied (h : (restricted && !permits mode passBit) = true) (name : List Char)
    (rest : List (List Char)) :
    follow restricted (.directory mode entries :: above) (name :: rest) = .error .denied := by
  rw [follow, if_pos h]

/-- The name of the directory itself is left out. -/
theorem follow_here (h : ¬(restricted && !permits mode passBit) = true) (rest : List (List Char)) :
    follow restricted (.directory mode entries :: above) (['.'] :: rest) =
      follow restricted (.directory mode entries :: above) rest := by
  rw [follow, if_neg h, if_pos rfl]

/-- The name of the directory above is followed to this directory, except from the root. -/
theorem follow_up (h : ¬(restricted && !permits mode passBit) = true) (rest : List (List Char)) :
    follow restricted (.directory mode entries :: above) (['.', '.'] :: rest) =
      follow restricted (if above.isEmpty then .directory mode entries :: above else above) rest := by
  rw [follow, if_neg h, if_neg (by decide), if_pos rfl]

/-- The name of an entry is followed to the entry. -/
theorem follow_entry (h : ¬(restricted && !permits mode passBit) = true) (entry : IsEntryName name)
    (rest : List (List Char)) :
    follow restricted (.directory mode entries :: above) (name :: rest) =
      if longestName < (Text.Utf8.encode name).length then .error .nameTooLong
      else (entries.lookup name).elim (.error .notFound) fun node =>
        follow restricted (node :: .directory mode entries :: above) rest := by
  rw [follow, if_neg h, if_neg entry.1, if_neg entry.2]
  cases entries.lookup name <;> rfl

/-- Names are followed one after another. -/
theorem follow_cons (nodes : List Node) (name : List Char) (rest : List (List Char)) :
    follow restricted nodes (name :: rest) =
      (follow restricted nodes [name]).bind (follow restricted · rest) := by
  cases nodes with
  | nil => rfl
  | cons node above =>
    cases node with
    | file mode data => rfl
    | directory mode entries =>
      by_cases h : (restricted && !permits mode passBit) = true
      · rw [follow_denied h, follow_denied h]
        rfl
      rcases name_cases name with rfl | rfl | entry
      · rw [follow_here h, follow_here h]
        rfl
      · rw [follow_up h, follow_up h]
        cases above <;> rfl
      · rw [follow_entry h entry, follow_entry h entry]
        split
        · rfl
        · cases entries.lookup name <;> rfl

/-- Rows of names are followed one after another. -/
theorem follow_append (nodes : List Node) (front back : List (List Char)) :
    follow restricted nodes (front ++ back) =
      (follow restricted nodes front).bind (follow restricted · back) := by
  induction front generalizing nodes with
  | nil =>
    cases nodes with
    | nil => cases back <;> rfl
    | cons node above => rfl
  | cons name rest ih =>
    rw [List.cons_append, follow_cons, follow_cons nodes name rest]
    cases follow restricted nodes [name] with
    | error fault => rfl
    | ok nodes => exact ih nodes

/-- A name that is followed leads to the place that it makes. -/
theorem Leads.step (h : Leads root place nodes)
    (found : follow restricted nodes [name] = .ok result) : Leads root (enter place name) result := by
  cases nodes with
  | nil => cases found
  | cons node above =>
    cases node with
    | file mode data => cases found
    | directory mode entries =>
      by_cases passes : (restricted && !permits mode passBit) = true
      · rw [follow_denied passes] at found
        cases found
      rcases name_cases name with rfl | rfl | entry
      · rw [follow_here passes] at found
        cases found
        rw [enter_here]
        exact h
      · rw [follow_up passes] at found
        rw [enter_up]
        cases above <;> cases found <;> exact h.up
      · rw [follow_entry passes entry] at found
        rw [enter_of_isEntryName entry]
        split at found
        · cases found
        · cases held : entries.lookup name with
          | none =>
            rw [held] at found
            cases found
          | some next =>
            rw [held] at found
            cases found
            exact .entry h held

/-- Names that are followed lead to the place that they make. -/
theorem Leads.of_follow (h : Leads root place nodes)
    (found : follow restricted nodes names = .ok result) :
    Leads root (names.foldl enter place) result := by
  induction names generalizing place nodes with
  | nil =>
    cases nodes <;> cases found
    exact h
  | cons name rest ih =>
    rw [follow_cons] at found
    cases next : follow restricted nodes [name] with
    | error fault =>
      rw [next] at found
      cases found
    | ok nodes =>
      rw [next] at found
      exact ih (h.step next) found

/-- What is above a directory does not matter for names that never lead above it. The nodes in `back` are
those from the directory down to the first node. -/
theorem follow_below (back above : List Node) (h : staysBelow back.length names = true) :
    follow restricted (node :: (back ++ above)) names =
      (follow restricted (node :: back) names).map (· ++ above) := by
  induction names generalizing node back with
  | nil => rfl
  | cons name rest ih =>
    cases node with
    | file mode data => rfl
    | directory mode entries =>
      by_cases passes : (restricted && !permits mode passBit) = true
      · rw [follow_denied passes, follow_denied passes]
        rfl
      rcases name_cases name with rfl | rfl | entry
      · rw [follow_here passes, follow_here passes]
        exact ih back h
      · obtain ⟨deep, later⟩ := (staysBelow_cons_up _ rest).1 h
        rw [follow_up passes, follow_up passes]
        cases back with
        | nil => exact absurd rfl deep
        | cons next back => exact ih back later
      · rw [staysBelow_cons_of_isEntryName entry] at h
        rw [follow_entry passes entry, follow_entry passes entry]
        split
        · rfl
        · cases entries.lookup name with
          | none => rfl
          | some next => exact ih (.directory mode entries :: back) h

/-- Names that never lead above a directory lead to the same node whatever is above it. -/
theorem head?_follow_below (h : staysBelow 0 names = true) (node : Node) (above : List Node) :
    (follow restricted (node :: above) names).map List.head? =
      (follow restricted [node] names).map List.head? := by
  have alone : follow restricted (node :: above) names =
      (follow restricted [node] names).map (· ++ above) := follow_below [] above h
  rw [alone]
  cases way : follow restricted [node] names with
  | error fault => rfl
  | ok nodes =>
    obtain ⟨first, more, rfl⟩ := List.exists_cons_of_ne_nil (Leads.root.of_follow way).ne_nil
    rfl

end Ways

section Paths

variable {a b t : Tree} {directory p : Path} {bytes : List UInt8}

/-- The names of two paths with a slash between them follow each other. -/
theorem Path.names_append_cons (front back : Path) :
    Path.names (front ++ '/' :: back) = front.names ++ back.names := by
  rw [names, Text.splitOn_append_cons, List.filter_append]
  rfl

/-- A relative path that leads on from a directory adds its names to those of the directory. -/
theorem Path.names_join (relative : p.isAbsolute = false) :
    (join directory p).names = directory.names ++ p.names := by
  rw [join, relative, Bool.false_or]
  split
  · rename_i none
    rw [List.isEmpty_iff.1 none]
    rfl
  split
  · rename_i slash
    obtain ⟨front, rfl⟩ := List.getLast?_eq_some_iff.1 (of_decide_eq_true slash)
    rw [List.append_assoc, List.singleton_append, names_append_cons, names_append_cons]
    simp [names, Text.splitOn, Text.splitFrom]
  · exact names_append_cons directory p

/-- A relative path that leads on from a directory starts where the path of the directory does. -/
theorem Path.isAbsolute_join (relative : p.isAbsolute = false) :
    (join directory p).isAbsolute = directory.isAbsolute := by
  cases directory with
  | nil => simpa [join, isAbsolute] using relative
  | cons c rest =>
    rw [join, relative, Bool.false_or]
    split
    · contradiction
    · split <;> rfl

/-- A relative path leads on from the place of a directory. -/
theorem Tree.place_join (relative : p.isAbsolute = false) (t : Tree) (directory : Path) :
    t.place (Path.join directory p) = p.names.foldl enter (t.place directory) := by
  rw [place, place, Path.isAbsolute_join relative, Path.names_join relative, ← List.foldl_append]
  split
  · rfl
  · rw [List.append_assoc]

/-- A path that never leads above where it starts leads from a directory to what is below the directory. -/
theorem Path.StaysBelow.place_join (h : p.StaysBelow) (t : Tree) (directory : Path) :
    t.place (Path.join directory p) = t.place directory ++ p.names.foldl enter [] := by
  have below := foldl_enter_append (t.place directory) [] h.below
  rwa [List.append_nil, ← t.place_join h.relative] at below

/-- A relative path is followed from where the path of a directory leads. -/
theorem Tree.reach_join (relative : p.isAbsolute = false) (t : Tree) (directory : Path) :
    t.reach (Path.join directory p) = (t.reach directory).bind (follow t.restricted · p.names) := by
  rw [reach, reach, Path.isAbsolute_join relative, Path.names_join relative]
  generalize (if directory.isAbsolute then Except.ok [t.root] else follow false [t.root] t.here) = start
  cases start with
  | error fault => rfl
  | ok nodes => exact follow_append nodes directory.names p.names

/-- What is found by a path that may be followed is the first node on the way from where it leads. -/
theorem Tree.find_eq (t : Tree) (p : Path) :
    t.find p =
      if '\x00' ∈ p then .error .nullInName
      else if p.isEmpty then .error .notFound
      else if longestPath < p.size then .error .nameTooLong
      else ((t.reach p).map List.head?).bind p.ending := by
  unfold find reach
  dsimp only
  split
  · rfl
  split
  · rfl
  split
  · rfl
  -- Both starts go on in the same way, to the first node if there is one.
  split
  · dsimp only [bind, Except.bind]
    rcases follow t.restricted [t.root] p.names with fault | _ | ⟨node, above⟩
    · rfl
    · rfl
    · cases node <;> rfl
  · rcases follow false [t.root] t.here with fault | start
    · rfl
    · dsimp only [bind, Except.bind]
      rcases follow t.restricted start p.names with fault | _ | ⟨node, above⟩
      · rfl
      · rfl
      · cases node <;> rfl

/-- What is found by a path depends on the first node on the way from where it leads. -/
theorem Tree.find_congr (same : (a.reach p).map List.head? = (b.reach p).map List.head?) :
    a.find p = b.find p := by
  rw [find_eq, find_eq, same]

/-- What is read by a path depends on the first node on the way from where it leads, and on whether bits
hold. -/
theorem Tree.read_congr (restricted : a.restricted = b.restricted)
    (same : (a.reach p).map List.head? = (b.reach p).map List.head?) : a.read p = b.read p := by
  rw [read, read, find_congr same, restricted]

/-- A path leads to its place. -/
theorem Tree.leads_of_reach (h : t.reach p = .ok nodes) : Leads t.root (t.place p) nodes := by
  rw [reach] at h
  rw [place]
  split at h
  · rename_i absolute
    rw [if_pos absolute]
    exact Leads.root.of_follow h
  · rename_i relative
    rw [if_neg relative, List.foldl_append]
    cases here : follow false [t.root] t.here with
    | error fault =>
      rw [here] at h
      cases h
    | ok start =>
      rw [here] at h
      exact (Leads.root.of_follow here).of_follow h

/-- What is found at the end of a path is the node that it leads to. -/
theorem Path.eq_some_of_ending {last : Option Node} (h : p.ending last = .ok node) :
    last = some node := by
  unfold ending at h
  split at h
  · cases h
  · split at h <;> cases h
    rfl
  · cases h
    rfl

/-- What is found by a path is the node at the place of the path. -/
theorem Tree.at?_of_find (h : t.find p = .ok node) : t.root.at? (t.place p) = some node := by
  rw [find_eq] at h
  split at h
  · cases h
  split at h
  · cases h
  split at h
  · cases h
  cases way : t.reach p with
  | error fault =>
    rw [way] at h
    cases h
  | ok nodes =>
    rw [way] at h
    obtain ⟨above, rfl⟩ := List.head?_eq_some_iff.1 (Path.eq_some_of_ending h)
    exact (leads_of_reach way).at?

/-- What is read by a path are the bytes of the file at the place of the path. -/
theorem Tree.at?_of_read (h : t.read p = .ok bytes) :
    ∃ mode, t.root.at? (t.place p) = some (.file mode bytes) := by
  unfold read at h
  split at h
  · cases h
  · rename_i mode data found
    split at h
    · cases h
    · cases h
      exact ⟨mode, at?_of_find found⟩
  · split at h <;> cases h

/-- A path that never leads above where it starts leads from a directory to what this directory holds: what
is read does not depend on anything else in the tree. -/
theorem Tree.AgreeAt.read_join {directory : Path} (h : AgreeAt a b directory) (below : p.StaysBelow) :
    a.read (Path.join directory p) = b.read (Path.join directory p) := by
  have first (t : Tree) : (t.reach (Path.join directory p)).map List.head? =
      ((t.reach directory).map List.head?).bind fun node =>
        node.elim (.error .notFound) fun node =>
          (follow t.restricted [node] p.names).map List.head? := by
    rw [t.reach_join below.relative]
    cases t.reach directory with
    | error fault => rfl
    | ok nodes =>
      cases nodes with
      | nil => cases p.names <;> rfl
      | cons node above => exact head?_follow_below below.below node above
  refine read_congr h.restricted ?_
  rw [first, first, h.node, h.restricted]

end Paths

end Detour.File
