import Detour.Proofs.Refresher.Run
/-!
# Remote lists without a network

While every request fails, a remote list is read from its cached copy. Main statement: among files that
change in any way, a refresher with a remote source is at every point like one with that copy as its
file. Both have the same rules active and give the same answers, their loads succeed and fail together
and for the same reason, and neither changes a file.
-/

namespace Detour.Store.Shared

/-- What is answered, and which snapshots there are then, depends on the active rules and on the snapshots
only. -/
theorem answer_congr {a b : Shared} (active : a.store.active = b.store.active)
    (snapshots : a.snapshots = b.snapshots) (asked : Request) :
    (a.answer asked).1 = (b.answer asked).1 ∧
      (a.answer asked).2.snapshots = (b.answer asked).2.snapshots := by
  cases asked with
  | query query => exact ⟨by simp only [answer, fst_query, active], snapshots⟩
  | size => exact ⟨by simp only [answer, active], snapshots⟩
  | snapshot => simp only [answer, snapshots, active, and_self]
  | lookBack number query =>
    rw [answer, answer, snapshots]
    cases b.snapshots[number]? with
    | some rules => exact ⟨rfl, rfl⟩
    | none => exact ⟨rfl, snapshots⟩

end Detour.Store.Shared

namespace Detour.Refresher

/-- What a refresh comes to: the first stage that fails says why. -/
def outcome (r : Refresher) (files : File.Tree) : Except Source.Fault Unit :=
  match files.read r.source.path with
  | .error fault => .error (r.source.faultOf fault)
  | .ok payload =>
    match Payload.decode r.encoding payload with
    | .error fault => .error (.decode fault)
    | .ok _ => .ok ()

/-- A refresh comes to its outcome and installs the list that the files hold, if they hold one. -/
theorem refresh_eq (r : Refresher) (files : File.Tree) :
    ∃ store, r.refresh files = (r.outcome files, { r with store := store }) ∧
      store.active = (r.listIn files).getD r.store.active := by
  unfold outcome listIn refresh refreshWith load Source.accept feed
  cases files.read r.source.path with
  | error fault => exact ⟨_, rfl, rfl⟩
  | ok payload =>
    dsimp only
    cases Payload.decode r.encoding payload with
    | error fault => exact ⟨_, rfl, rfl⟩
    | ok text => exact ⟨_, rfl, rfl⟩

/-- The file in a cache directory that holds the copy of the list. -/
def cachedCopy (cache : File.Path) : File.Path := File.Path.join cache "gfwlist.cache".toList

/-- How what a remote source and what a file source comes to belong together. -/
inductive Corresponds (path : File.Path) :
    Except Source.Fault Unit → Except Source.Fault Unit → Prop where
  /-- Both succeed. -/
  | ok : Corresponds path (.ok ()) (.ok ())
  /-- What was read cannot be decoded. -/
  | decode (fault : Payload.Fault) :
    Corresponds path (.error (.decode fault)) (.error (.decode fault))
  /-- There is no file. -/
  | missing :
    Corresponds path (.error (.remote (.cacheUnavailable path))) (.error (.file (.notFound path)))
  /-- The file may not be read. -/
  | denied :
    Corresponds path (.error (.remote (.cacheIo path .denied))) (.error (.file (.denied path)))
  /-- Something else is wrong with the file. -/
  | io (fault : File.Fault) :
    Corresponds path (.error (.remote (.cacheIo path fault))) (.error (.file (.io path fault)))

/-- What reading the cached copy led to is told in corresponding words. -/
theorem corresponds_faultOf (url : List Char) (cache : File.Path) (fault : File.Fault) :
    Corresponds (cachedCopy cache) (.error ((Source.remote url cache).faultOf fault))
      (.error ((Source.file (cachedCopy cache)).faultOf fault)) := by
  cases fault with
  | notFound => exact .missing
  | denied => exact .denied
  | notDirectory => exact .io .notDirectory
  | isDirectory => exact .io .isDirectory
  | nameTooLong => exact .io .nameTooLong
  | nullInName => exact .io .nullInName
  | other message => exact .io (.other message)

/-- Two refreshers that read the same file, one as the cached copy of a remote list. -/
structure Twins (url : List Char) (cache : File.Path) (remote direct : Refresher) : Prop where
  /-- One has a remote source. -/
  source_remote : remote.source = .remote url cache
  /-- The other one has the cached copy as its source. -/
  source_direct : direct.source = .file (cachedCopy cache)
  /-- Both decode in the same way. -/
  encoding : remote.encoding = direct.encoding
  /-- Both add the same rules. -/
  extraRules : remote.extraRules = direct.extraRules
  /-- Both have the same rules active. -/
  active : remote.store.active = direct.store.active

variable {url : List Char} {cache : File.Path} {remote direct : Refresher}

/-- The sources of twins have the same path. -/
theorem Twins.path_eq (h : Twins url cache remote direct) :
    remote.source.path = direct.source.path := by
  rw [h.source_remote, h.source_direct]
  rfl

/-- Files hold the same list for twins. -/
theorem Twins.listIn_eq (h : Twins url cache remote direct) (files : File.Tree) :
    remote.listIn files = direct.listIn files := by
  rw [listIn, listIn, h.path_eq, h.encoding, h.extraRules]

/-- Refreshes of twins come to corresponding outcomes. -/
theorem Twins.corresponds (h : Twins url cache remote direct) (files : File.Tree) :
    Corresponds (cachedCopy cache) (remote.outcome files) (direct.outcome files) := by
  rw [outcome, outcome, h.path_eq, h.encoding, h.source_remote]
  cases files.read direct.source.path with
  | error fault =>
    rw [h.source_direct]
    exact corresponds_faultOf url cache fault
  | ok payload =>
    dsimp only
    cases Payload.decode direct.encoding payload with
    | error fault => exact .decode fault
    | ok text => exact .ok

/-- Stores may change as long as the same rules are active. -/
theorem Twins.with_stores (h : Twins url cache remote direct) {a b : Store}
    (active : a.active = b.active) :
    Twins url cache { remote with store := a } { direct with store := b } :=
  ⟨h.source_remote, h.source_direct, h.encoding, h.extraRules, active⟩

namespace Scene

/-- Twins among the same files, of which the same snapshots were taken. -/
structure Paired (url : List Char) (cache : File.Path) (a b : Scene) : Prop where
  /-- The refreshers are twins. -/
  twins : Twins url cache a.refresher b.refresher
  /-- The files are the same. -/
  files : a.files = b.files
  /-- The snapshots are the same. -/
  snapshots : a.snapshots = b.snapshots

variable {a b : Scene}

/-- A load comes to the outcome of a refresh, and leaves the files and the snapshots. -/
theorem load_eq (s : Scene) :
    ∃ store, s.load = (.loaded (s.refresher.outcome s.files),
        { s with refresher := { s.refresher with store := store } }) ∧
      store.active = (s.refresher.listIn s.files).getD s.active := by
  obtain ⟨store, refreshed, active⟩ := refresh_eq s.refresher s.files
  refine ⟨store, ?_, active⟩
  rw [load, refreshed]

/-- Paired scenes stay so when both load. -/
theorem Paired.load (h : Paired url cache a b) : Paired url cache a.load.2 b.load.2 := by
  obtain ⟨storeA, loadedA, activeA⟩ := load_eq a
  obtain ⟨storeB, loadedB, activeB⟩ := load_eq b
  have same : storeA.active = storeB.active := by
    rw [activeA, activeB, h.files, h.twins.listIn_eq, active, active, h.twins.active]
  rw [loadedA, loadedB]
  exact ⟨h.twins.with_stores same, h.files, h.snapshots⟩

/-- Requests to paired scenes get the same answer, and leave them paired. -/
theorem Paired.answer (h : Paired url cache a b) (asked : Store.Request) :
    (a.answer asked).1 = (b.answer asked).1 ∧
      Paired url cache (a.answer asked).2 (b.answer asked).2 := by
  have active : (Store.Shared.answer ⟨a.refresher.store, a.snapshots⟩ asked).2.store.active =
      (Store.Shared.answer ⟨b.refresher.store, b.snapshots⟩ asked).2.store.active := by
    rw [Store.Shared.active_answer, Store.Shared.active_answer]
    exact h.twins.active
  obtain ⟨reply, snapshots⟩ := Store.Shared.answer_congr
    (a := ⟨a.refresher.store, a.snapshots⟩) (b := ⟨b.refresher.store, b.snapshots⟩)
    h.twins.active h.snapshots asked
  exact ⟨congrArg Reply.answered reply, h.twins.with_stores active, h.files, snapshots⟩

/-- Paired scenes stay so with every step. -/
theorem Paired.step (h : Paired url cache a b) (x : Step) :
    Paired url cache (a.step x).2 (b.step x).2 := by
  cases x with
  | change files => exact ⟨h.twins, rfl, h.snapshots⟩
  | load => exact h.load
  | refresh => exact h.load
  | request asked => exact (h.answer asked).2

/-- Paired scenes stay so with every run. -/
theorem Paired.after (h : Paired url cache a b) (steps : List Step) :
    Paired url cache (a.after steps) (b.after steps) := by
  induction steps generalizing a b with
  | nil => exact h
  | cons x rest ih => exact ih (h.step x)

/-- Without a network, a remote source is at every point of every run like its cached copy as a file. The
same rules are active and requests are answered alike. A load succeeds for one exactly if it succeeds
for the other; what cannot be decoded is refused for the same reason; the cached copy is unavailable
exactly where the file is not found, and cannot be read exactly where the file is found but cannot be
read. No load changes a file. -/
theorem remote_like_cached_copy (url : List Char) (cache : File.Path) (encoding : Encoding)
    (rules : List (List Char)) (files : File.Tree) (steps : List Step) :
    let path := File.Path.join cache "gfwlist.cache".toList
    let remote := reached (.start (.remote url cache) encoding rules) files steps
    let direct := reached (.start (.file path) encoding rules) files steps
    remote.active = direct.active ∧
      (∀ asked, (remote.step (.request asked)).1 = (direct.step (.request asked)).1) ∧
      ∀ x, x = .load ∨ x = .refresh →
        ((remote.step x).1 = .loaded (.ok ()) ↔ (direct.step x).1 = .loaded (.ok ())) ∧
        (∀ fault, (remote.step x).1 = .loaded (.error (.decode fault)) ↔
          (direct.step x).1 = .loaded (.error (.decode fault))) ∧
        ((remote.step x).1 = .loaded (.error (.remote (.cacheUnavailable path))) ↔
          (direct.step x).1 = .loaded (.error (.file (.notFound path)))) ∧
        ((∃ fault, (remote.step x).1 = .loaded (.error (.remote (.cacheIo path fault)))) ↔
          (direct.step x).1 = .loaded (.error (.file (.denied path))) ∨
            ∃ fault, (direct.step x).1 = .loaded (.error (.file (.io path fault)))) ∧
        (remote.step x).2.files = remote.files ∧ (direct.step x).2.files = direct.files := by
  intro path remote direct
  have started : Paired url cache (start (.start (.remote url cache) encoding rules) files)
      (start (.start (.file path) encoding rules) files) :=
    ⟨⟨rfl, rfl, rfl, rfl, rfl⟩, rfl, rfl⟩
  have paired : Paired url cache remote direct := started.after steps
  refine ⟨paired.twins.active, fun asked => (paired.answer asked).1, ?_⟩
  intro x loads
  have loadsRemote : remote.step x = remote.load := by rcases loads with rfl | rfl <;> rfl
  have loadsDirect : direct.step x = direct.load := by rcases loads with rfl | rfl <;> rfl
  obtain ⟨storeRemote, loadedRemote, -⟩ := load_eq remote
  obtain ⟨storeDirect, loadedDirect, -⟩ := load_eq direct
  have outcomes : Corresponds path (remote.refresher.outcome remote.files)
      (direct.refresher.outcome direct.files) := by
    rw [paired.files]
    exact paired.twins.corresponds direct.files
  rw [loadsRemote, loadsDirect, loadedRemote, loadedDirect]
  generalize remote.refresher.outcome remote.files = outcomeRemote at outcomes
  generalize direct.refresher.outcome direct.files = outcomeDirect at outcomes
  cases outcomes <;> simp

end Scene

end Detour.Refresher
