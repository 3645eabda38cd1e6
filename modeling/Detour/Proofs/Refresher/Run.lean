import Detour.Proofs.Store.History
import Detour.Refresher
import Detour.Settings
/-!
# Runs of a refresher

While files change in any way, a refresher loads its list again and again, and clients ask its store. A
run is the list of all these steps in the order in which they take effect. Main statement: the active
rule set is always the whole list that the last successful load found, and a load that fails changes
neither the active rule set nor any snapshot.
-/

namespace Detour.Refresher

/-- The refresher that settings describe. -/
def ofSettings (settings : Settings) (usual : File.Path) : Refresher :=
  start (settings.source usual) settings.encoding settings.rules

/-- The rules that files hold for a refresher: those of the list that is read from its source and
decoded, followed by the rules of its own, line by line. -/
def listIn (r : Refresher) (files : File.Tree) : Option RuleSet :=
  match files.read r.source.path with
  | .error _ => none
  | .ok payload =>
    match Payload.decode r.encoding payload with
    | .error _ => none
    | .ok text => some (r.extraRules.foldl Feed.line (Feed.empty.text text)).ruleSet

/-- Files hold a list exactly if the source can be read and what is read can be decoded. -/
theorem isSome_listIn_iff {r : Refresher} {files : File.Tree} :
    (r.listIn files).isSome ↔ ∃ payload text, files.read r.source.path = .ok payload ∧
      Payload.decode r.encoding payload = .ok text := by
  unfold listIn
  cases files.read r.source.path with
  | error fault => simp
  | ok payload => cases decoded : Payload.decode r.encoding payload <;> simp [decoded]

/-- What a refresh can do: install the list that the files hold, or leave the rules and say why. -/
theorem refresh_cases (r : Refresher) (files : File.Tree) :
    (∃ rules store, r.listIn files = some rules ∧
      r.refresh files = (.ok (), { r with store := store }) ∧ store.active = rules) ∨
    ∃ fault store, r.listIn files = none ∧
      r.refresh files = (.error fault, { r with store := store }) ∧
        store.active = r.store.active := by
  unfold listIn refresh refreshWith load Source.accept feed
  cases files.read r.source.path with
  | error fault => exact .inr ⟨_, _, rfl, rfl, rfl⟩
  | ok payload =>
    dsimp only
    cases Payload.decode r.encoding payload with
    | error fault => exact .inr ⟨_, _, rfl, rfl, rfl⟩
    | ok text => exact .inl ⟨_, _, rfl, rfl, rfl⟩

/-- Files, a refresher that reads them, and the snapshots that were taken of its store. -/
structure Scene where
  /-- The files. -/
  files : File.Tree
  /-- The refresher. -/
  refresher : Refresher
  /-- The snapshots, first one first. -/
  snapshots : List RuleSet

/-- What can happen. -/
inductive Step where
  /-- The files change, in whatever way. -/
  | change (files : File.Tree)
  /-- The list is loaded for the first time. -/
  | load
  /-- The list is loaded again. -/
  | refresh
  /-- Something is asked of the store or of a snapshot. -/
  | request (r : Store.Request)

/-- What comes of a step. -/
inductive Reply where
  /-- The files have changed. -/
  | changed
  /-- The list was loaded, or not. -/
  | loaded (outcome : Except Source.Fault Unit)
  /-- A request was answered. -/
  | answered (r : Store.Reply)

namespace Scene

/-- A refresher among files. No snapshot was taken. -/
def start (r : Refresher) (files : File.Tree) : Scene := ⟨files, r, []⟩

/-- The active rule set. -/
def active (s : Scene) : RuleSet := s.refresher.store.active

/-- Load the list. -/
def load (s : Scene) : Reply × Scene :=
  let (outcome, refresher) := s.refresher.refresh s.files
  (.loaded outcome, { s with refresher := refresher })

/-- Answer a request. -/
def answer (s : Scene) (r : Store.Request) : Reply × Scene :=
  let (reply, shared) := Store.Shared.answer ⟨s.refresher.store, s.snapshots⟩ r
  (.answered reply,
    { s with
      refresher := { s.refresher with store := shared.store }
      snapshots := shared.snapshots })

/-- Take a step. -/
def step (s : Scene) : Step → Reply × Scene
  | .change files => (.changed, { s with files := files })
  | .load | .refresh => s.load
  | .request r => s.answer r

/-- What a load can do: install the list that the files hold, or leave the rules and say why. The files
and the snapshots stay. -/
theorem load_cases (s : Scene) :
    (∃ rules store, s.refresher.listIn s.files = some rules ∧
      s.load = (.loaded (.ok ()), { s with refresher := { s.refresher with store := store } }) ∧
        store.active = rules) ∨
    ∃ fault store, s.refresher.listIn s.files = none ∧
      s.load = (.loaded (.error fault),
        { s with refresher := { s.refresher with store := store } }) ∧
        store.active = s.active := by
  rcases refresh_cases s.refresher s.files with
    ⟨rules, store, list, refreshed, installed⟩ | ⟨fault, store, list, refreshed, left⟩
  · refine .inl ⟨rules, store, list, ?_, installed⟩
    rw [load, refreshed]
  · refine .inr ⟨fault, store, list, ?_, left⟩
    rw [load, refreshed]

/-- A load succeeds exactly if the files hold a list. -/
theorem fst_load_eq_ok_iff (s : Scene) :
    s.load.1 = .loaded (.ok ()) ↔ (s.refresher.listIn s.files).isSome := by
  rcases load_cases s with ⟨rules, store, list, loaded, -⟩ | ⟨fault, store, list, loaded, -⟩
  · simp [loaded, list]
  · simp [loaded, list]

/-- A load that fails leaves the active rules and the snapshots. -/
theorem snd_load_of_error {s : Scene} {fault : Source.Fault}
    (failed : s.load.1 = .loaded (.error fault)) :
    s.load.2.active = s.active ∧ s.load.2.snapshots = s.snapshots := by
  rcases load_cases s with ⟨rules, store, -, loaded, -⟩ | ⟨fault', store, -, loaded, left⟩
  · rw [loaded] at failed
    cases failed
  · rw [loaded]
    exact ⟨left, rfl⟩

/-- What is left when steps were taken in turn. -/
def after (s : Scene) (steps : List Step) : Scene := steps.foldl (fun s x => (s.step x).2) s

/-- What a run led to that started with some refresher among some files. -/
def reached (r : Refresher) (files : File.Tree) (steps : List Step) : Scene :=
  (start r files).after steps

/-- The files that a step found if it loaded the list. -/
def found? (s : Scene) (x : Step) : Option File.Tree :=
  match (s.step x).1 with
  | .loaded (.ok _) => some s.files
  | _ => none

/-- The files that the successful loads among some steps found, first load first. -/
def found (s : Scene) : List Step → List File.Tree
  | [] => []
  | x :: rest => (s.found? x).toList ++ found (s.step x).2 rest

/-- One more step is taken where the others led to. -/
theorem after_concat (s : Scene) (steps : List Step) (x : Step) :
    s.after (steps ++ [x]) = ((s.after steps).step x).2 := by
  simp [after]

/-- One more step finds what the others led to. -/
theorem found_concat (s : Scene) (steps : List Step) (x : Step) :
    s.found (steps ++ [x]) = s.found steps ++ ((s.after steps).found? x).toList := by
  induction steps generalizing s with
  | nil => exact List.append_nil _
  | cons y rest ih =>
    rw [List.cons_append, found, found, ih, List.append_assoc]
    rfl

/-- What a scene is like after some steps. -/
structure Follows (r : Refresher) (files : File.Tree) (steps : List Step) (s : Scene) : Prop where
  /-- Only the store of the refresher changes. -/
  refresher : s.refresher = { r with store := s.refresher.store }
  /-- The list that the last successful load found is active. -/
  active : some s.active =
    ((start r files).found steps).getLast?.elim (some r.store.active) r.listIn

variable {r : Refresher} {files : File.Tree} {steps : List Step}

/-- With any store the refresher of a scene is the one it started with. -/
theorem Follows.with_store {s : Scene} (h : Follows r files steps s) (store : Store) :
    { s.refresher with store := store } = { r with store := store } :=
  congrArg (fun r : Refresher => { r with store := store }) h.refresher

/-- The files hold the same list for the refresher of a scene as for the one it started with. -/
theorem Follows.listIn_eq {s : Scene} (h : Follows r files steps s) (other : File.Tree) :
    s.refresher.listIn other = r.listIn other := by
  rw [h.refresher]
  rfl

/-- A step that does not load the list, or fails to, leaves the active rules. -/
theorem Follows.quiet (h : Follows r files steps (reached r files steps)) {x : Step} {s : Scene}
    (nothing : (reached r files steps).found? x = none)
    (refresher : s.refresher = { r with store := s.refresher.store })
    (same : s.active = (reached r files steps).active) : Follows r files (steps ++ [x]) s where
  refresher := refresher
  active := by
    rw [found_concat, ← reached, nothing, Option.toList_none, List.append_nil, same, h.active]

/-- A load installs the list that it finds, or leaves the active rules. -/
theorem Follows.load (h : Follows r files steps (reached r files steps)) {x : Step}
    (loads : (reached r files steps).step x = (reached r files steps).load) :
    Follows r files (steps ++ [x]) (reached r files steps).load.2 := by
  rcases load_cases (reached r files steps) with
    ⟨rules, store, list, loaded, installed⟩ | ⟨fault, store, list, loaded, left⟩
  · have found : (reached r files steps).found? x = some (reached r files steps).files := by
      rw [found?, loads, loaded]
    rw [loaded]
    constructor
    · exact h.with_store store
    -- What is found now is found last, whatever was found before.
    · rw [found_concat, ← reached, found, Option.toList_some, List.getLast?_concat,
        Option.elim_some, ← h.listIn_eq, list, ← installed]
      rfl
  · have nothing : (reached r files steps).found? x = none := by
      rw [found?, loads, loaded]
    rw [loaded]
    exact h.quiet nothing (h.with_store store) left

/-- One more step keeps what a scene is like. -/
theorem Follows.step (h : Follows r files steps (reached r files steps)) (x : Step) :
    Follows r files (steps ++ [x]) (reached r files (steps ++ [x])) := by
  rw [reached, after_concat, ← reached]
  cases x with
  | change files => exact h.quiet rfl h.refresher rfl
  | load => exact h.load rfl
  | refresh => exact h.load rfl
  | request asked =>
    exact h.quiet rfl (h.with_store _) (Store.Shared.active_answer _ asked)

/-- What a scene is like, whatever happened. -/
theorem follows_reached (r : Refresher) (files : File.Tree) (steps : List Step) :
    Follows r files steps (reached r files steps) := by
  induction steps using List.reverseRecOn with
  | nil => exact ⟨rfl, rfl⟩
  | append_singleton steps x ih => exact ih.step x

/-- Loading is atomic over whole runs, among files that change in any way. The active rule set is the
list that the files held when it was last loaded with success, read, decoded and followed by the rules
of the settings, and empty before that. A load succeeds exactly if the source can be read and what
is read can be decoded, and one that fails leaves the active rule set and all snapshots. -/
theorem loading_atomic (settings : Settings) (usual : File.Path) (files : File.Tree)
    (steps : List Step) :
    let r := ofSettings settings usual
    let scene := reached r files steps
    (some scene.active = match ((start r files).found steps).getLast? with
      | none => some .empty
      | some files => r.listIn files) ∧
      ∀ x, x = .load ∨ x = .refresh →
        ((scene.step x).1 = .loaded (.ok ()) ↔
          ∃ payload text, scene.files.read (settings.source usual).path = .ok payload ∧
            Payload.decode settings.encoding payload = .ok text) ∧
        ∀ fault, (scene.step x).1 = .loaded (.error fault) →
          (scene.step x).2.active = scene.active ∧ (scene.step x).2.snapshots = scene.snapshots := by
  have follows := follows_reached (ofSettings settings usual) files steps
  refine ⟨?_, ?_⟩
  · rw [follows.active]
    cases ((start (ofSettings settings usual) files).found steps).getLast? <;> rfl
  · intro x loads
    have same : (reached (ofSettings settings usual) files steps).step x =
        (reached (ofSettings settings usual) files steps).load := by
      rcases loads with rfl | rfl <;> rfl
    rw [same, fst_load_eq_ok_iff, follows.listIn_eq]
    exact ⟨isSome_listIn_iff, fun fault failed => snd_load_of_error failed⟩

end Scene

end Detour.Refresher
