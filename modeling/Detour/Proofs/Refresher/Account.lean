import Detour.Proofs.Refresher.Run
/-!
# The account that a run gives of itself

A refresher counts its refreshes, shows the size of the rules and notes what happens, and three of its
layers do so apart: the feed, the store and the refresher itself. Here requests for remote lists may
be answered, too. Main statement: over a whole run the counters are the numbers of refreshes that
succeeded and failed, and the notes of each refresh tell once, in order, what came of it.
-/

namespace Detour

/-- Whether an event tells what came of a refresh. -/
def Event.isAccount : Event → Bool
  | .parsed .. | .replaced .. | .refreshed _ | .refreshFailed _ => true
  | _ => false

/-- The sizes that a replacement of rules is told with. -/
def Event.replacement? : Event → Option (Nat × Nat)
  | .replaced previous current => some (previous, current)
  | _ => none

/-- Whether every replacement starts from the size that the one before it led to, and the first one from
the given size. -/
def Event.Linked (size : Nat) : List (Nat × Nat) → Prop
  | [] => True
  | (previous, current) :: rest => previous = size ∧ Linked current rest

namespace Refresher

/-- What happens before anything comes of a refresh. -/
theorem loadingEvents_not_account (source : Source) (ok : Bool) :
    ∀ e ∈ loadingEvents source ok, e.isAccount = false := by
  cases source with
  | file path => simp [loadingEvents, Event.isAccount]
  | remote url cache => cases ok <;> simp [loadingEvents, fetchEvents, Event.isAccount]

/-- What happens before anything comes of a download. -/
theorem downloadEvents_not_account (url : List Char) (copy : File.Path) (d : Source.Download) :
    ∀ e ∈ downloadEvents url copy d, e.isAccount = false := by
  unfold downloadEvents
  cases d.copyFault <;> simp [Event.isAccount]

/-- What a refresh can do behind events that tell nothing of it: install what was fed, or give up. -/
theorem refreshOnline_cases (r : Refresher) (download : Option Source.Download)
    (read : Except File.Fault (List UInt8)) :
    ∃ events, (∀ e ∈ events, e.isAccount = false) ∧
      ((∃ f, r.refreshOnline download read =
          (.ok (), { r with store := install (r.store.noteAll events) f })) ∨
        ∃ fault, r.refreshOnline download read =
          (.error fault, { r with store := giveUp (r.store.noteAll events) fault })) := by
  unfold refreshOnline
  split
  · rename_i url cache d source
    refine ⟨_, downloadEvents_not_account url (Source.cachePath cache Source.listName) d, ?_⟩
    unfold refreshFrom
    cases r.feed d.payload with
    | ok f => exact .inl ⟨f, rfl⟩
    | error fault => exact .inr ⟨.decode fault, rfl⟩
  · refine ⟨_, loadingEvents_not_account r.source read.isOk, ?_⟩
    unfold refreshWith
    cases r.load read with
    | ok f => exact .inl ⟨f, rfl⟩
    | error fault => exact .inr ⟨fault, rfl⟩

/-- What can happen where requests may be answered. -/
inductive Act where
  /-- The files change, in whatever way. -/
  | change (files : File.Tree)
  /-- The list is loaded, for the first time or again. A request for it brought something, or nothing. -/
  | refresh (download : Option Source.Download)
  /-- Something is asked of the store or of a snapshot. -/
  | request (r : Store.Request)

/-- A refresh that took place. -/
structure Reload where
  /-- The store before it. -/
  before : Store
  /-- What it came to. -/
  outcome : Except Source.Fault Unit
  /-- The store behind it. -/
  after : Store

/-- What was noted in the course of a refresh, first event first. -/
def Reload.events (l : Reload) : List Event :=
  (l.after.log.take (l.after.log.length - l.before.log.length)).reverse

/-- What a refresh is told to have come to. -/
def Reload.account (l : Reload) : List Event := l.events.filter Event.isAccount

/-- Whether the notes of a refresh and the size that is shown tell what came of it. -/
inductive Reload.IsTold (l : Reload) : Prop where
  /-- The list was read, and its rules replaced the others. -/
  | refreshed (rules skipped indexed ordered : Nat) (outcome : l.outcome = .ok ())
    (account : l.account = [.parsed rules skipped indexed ordered,
      .replaced l.before.active.size l.after.active.size, .refreshed l.after.active.size])
    (sum : indexed + ordered = l.after.active.size)
    (shown : l.after.metrics.rules = some l.after.active.size)
  /-- The rules were left as they are. -/
  | failed (fault : Source.Fault) (outcome : l.outcome = .error fault)
    (account : l.account = [.refreshFailed fault])
    (active : l.after.active = l.before.active)
    (shown : l.after.metrics.rules = l.before.metrics.rules)

/-- The events of a feed that has come to its end tell only that it has. -/
theorem filter_events (f : Feed) :
    f.events.filter Event.isAccount =
      [.parsed f.rules f.skipped f.ruleSet.indexedSize f.ruleSet.orderedSize] := by
  have silent : (f.unreadable.reverse.map Event.unreadable).filter Event.isAccount = [] := by
    simp [Event.isAccount]
  rw [Feed.events, List.filter_append, silent]
  rfl

/-- What is noted behind the notes of a store are the events of a refresh. -/
theorem Reload.events_eq {l : Reload} {events : List Event}
    (log : l.after.log = events.reverse ++ l.before.log) : l.events = events := by
  rw [Reload.events, log, List.length_append, Nat.add_sub_cancel, List.take_left,
    List.reverse_reverse]

namespace Scene

/-- The files once a list was downloaded: a copy was kept, or the files are as they were. -/
def copied (source : Source) (download : Option Source.Download) (files : File.Tree) : File.Tree :=
  match source, download with
  | .remote _ cache, some ⟨payload, none⟩ =>
    files.write (Source.cachePath cache Source.listName) payload
  | _, _ => files

/-- Load the list. -/
def loadOnline (s : Scene) (download : Option Source.Download) : Except Source.Fault Unit × Scene :=
  let read := s.files.read s.refresher.source.path
  let (outcome, refresher) := s.refresher.refreshOnline download read
  (outcome,
    { s with files := copied s.refresher.source download s.files, refresher := refresher })

/-- Let something happen. -/
def act (s : Scene) : Act → Scene
  | .change files => { s with files := files }
  | .refresh download => (s.loadOnline download).2
  | .request r => (s.answer r).2

/-- What is left when things happened in turn. -/
def afterActs (s : Scene) (acts : List Act) : Scene := acts.foldl act s

/-- The store. -/
def store (s : Scene) : Store := s.refresher.store

/-- What was noted, first event first. -/
def log (s : Scene) : List Event := s.store.log.reverse

/-- The refresh that takes place, if one does. -/
def reload? (s : Scene) : Act → Option Reload
  | .refresh download =>
    some ⟨s.store, (s.loadOnline download).1, (s.loadOnline download).2.store⟩
  | _ => none

/-- The refreshes that take place, first one first. -/
def reloads (s : Scene) : List Act → List Reload
  | [] => []
  | a :: rest => (s.reload? a).toList ++ reloads (s.act a) rest

end Scene

/-- A refresh that is told and counted, and forgets nothing that was noted before. -/
structure Reload.IsFair (l : Reload) : Prop where
  /-- It is told. -/
  told : l.IsTold
  /-- It adds to what was noted. -/
  log : l.after.log = l.events.reverse ++ l.before.log
  /-- It is counted if it succeeds. -/
  reloaded : l.after.metrics.reloaded =
    l.before.metrics.reloaded + if l.outcome.isOk then 1 else 0
  /-- It is counted apart if it fails. -/
  failed : l.after.metrics.failed = l.before.metrics.failed + if !l.outcome.isOk then 1 else 0

/-- Installing what was fed is told and counted, behind events that tell nothing of it. -/
theorem Reload.isFair_install (s : Store) {events : List Event}
    (silent : ∀ e ∈ events, e.isAccount = false) (f : Feed) :
    (Reload.mk s (.ok ()) (install (s.noteAll events) f)).IsFair := by
  have log : (install (s.noteAll events) f).log = (events ++ (f.events ++
      [Event.replaced s.active.size f.ruleSet.size, Event.refreshed f.ruleSet.size])).reverse ++
        s.log := by
    simp [install, Store.noteAll, Store.replace, Store.note]
  have same : (Reload.mk s (.ok ()) (install (s.noteAll events) f)).events = _ :=
    Reload.events_eq log
  have before : events.filter Event.isAccount = [] := by simpa using silent
  refine ⟨?_, by rw [same]; exact log, rfl, rfl⟩
  refine .refreshed f.rules f.skipped f.ruleSet.indexedSize f.ruleSet.orderedSize rfl ?_ rfl rfl
  rw [account, same, List.filter_append, List.filter_append, before, filter_events]
  rfl

/-- Giving up is told and counted, behind events that tell nothing of it. -/
theorem Reload.isFair_giveUp (s : Store) {events : List Event}
    (silent : ∀ e ∈ events, e.isAccount = false) (fault : Source.Fault) :
    (Reload.mk s (.error fault) (giveUp (s.noteAll events) fault)).IsFair := by
  have log : (giveUp (s.noteAll events) fault).log =
      (events ++ [Event.refreshFailed fault]).reverse ++ s.log := by
    simp [giveUp, Store.noteAll, Store.note]
  have same : (Reload.mk s (.error fault) (giveUp (s.noteAll events) fault)).events = _ :=
    Reload.events_eq log
  have before : events.filter Event.isAccount = [] := by simpa using silent
  refine ⟨?_, by rw [same]; exact log, rfl, rfl⟩
  refine .failed fault rfl ?_ rfl rfl
  rw [account, same, List.filter_append, before]
  rfl

/-- Every refresh is told and counted. -/
theorem isFair_refreshOnline (r : Refresher) (download : Option Source.Download)
    (read : Except File.Fault (List UInt8)) :
    (Reload.mk r.store (r.refreshOnline download read).1
      (r.refreshOnline download read).2.store).IsFair := by
  obtain ⟨events, silent, ⟨f, refreshed⟩ | ⟨fault, refreshed⟩⟩ := refreshOnline_cases r download read
  · rw [refreshed]
    exact Reload.isFair_install r.store silent f
  · rw [refreshed]
    exact Reload.isFair_giveUp r.store silent fault

/-- The sizes that a refresh is told to have replaced start from the size before it, and lead to the size
behind it. -/
theorem Reload.IsTold.linked {l : Reload} (h : l.IsTold) {rest : List (Nat × Nat)}
    (more : Event.Linked l.after.active.size rest) :
    Event.Linked l.before.active.size (l.account.filterMap Event.replacement? ++ rest) := by
  cases h with
  | refreshed rules skipped indexed ordered outcome account sum shown =>
    rw [account]
    exact ⟨rfl, more⟩
  | failed fault outcome account active shown =>
    rw [account, ← active]
    exact more

end Refresher

/-- Requests tell nothing of a refresh, and are not counted as one. -/
theorem Store.Shared.quiet_answer (s : Shared) (r : Request) :
    (s.answer r).2.store.log.filter Event.isAccount = s.store.log.filter Event.isAccount ∧
      (s.answer r).2.store.metrics.reloaded = s.store.metrics.reloaded ∧
      (s.answer r).2.store.metrics.failed = s.store.metrics.failed := by
  have asked (rules : RuleSet) (query : List Char) :
      (s.store.ask rules query).2.log.filter Event.isAccount =
        s.store.log.filter Event.isAccount := by
    unfold ask
    dsimp only
    split
    · rfl
    · exact List.filter_cons_of_neg Bool.false_ne_true
  cases r with
  | query query =>
    refine ⟨asked s.store.active query, ?_, ?_⟩
    · simp [answer]
    · simp [answer]
  | size => exact ⟨rfl, rfl, rfl⟩
  | snapshot => exact ⟨rfl, rfl, rfl⟩
  | lookBack number query =>
    unfold answer
    dsimp only
    split
    · rename_i rules found
      exact ⟨asked rules query, congrArg Metrics.reloaded (metrics_ask s.store rules query),
        congrArg Metrics.failed (metrics_ask s.store rules query)⟩
    · exact ⟨rfl, rfl, rfl⟩

namespace Refresher.Scene

/-- What is counted and told of an act. -/
structure Told (s : Scene) (a : Act) : Prop where
  /-- A refresh is told. -/
  fair : ∀ l ∈ s.reload? a, l.IsFair
  /-- A refresh that succeeds is counted. -/
  reloaded : (s.act a).store.metrics.reloaded =
    s.store.metrics.reloaded + (s.reload? a).toList.countP (·.outcome.isOk)
  /-- A refresh that fails is counted. -/
  failed : (s.act a).store.metrics.failed =
    s.store.metrics.failed + (s.reload? a).toList.countP (!·.outcome.isOk)
  /-- Nothing else is told. -/
  log : (s.act a).log.filter Event.isAccount =
    s.log.filter Event.isAccount ++ (s.reload? a).toList.flatMap Reload.account
  /-- Without a refresh the rules stay. -/
  active : s.reload? a = none → (s.act a).store.active = s.store.active

/-- Every refresh is counted and told. -/
theorem told_refresh (s : Scene) (download : Option Source.Download) :
    s.Told (.refresh download) := by
  have fair := isFair_refreshOnline s.refresher download (s.files.read s.refresher.source.path)
  refine ⟨?_, ?_, ?_, ?_, nofun⟩
  · rintro l ⟨⟩
    exact fair
  · rw [reload?, Option.toList_some, List.countP_singleton]
    exact fair.reloaded
  · rw [reload?, Option.toList_some, List.countP_singleton]
    exact fair.failed
  · have log : (s.act (.refresh download)).store.log = _ := fair.log
    rw [Scene.log, log, List.reverse_append, List.reverse_reverse, List.filter_append, reload?,
      Option.toList_some, List.flatMap_singleton]
    rfl

/-- Every act is counted and told. -/
theorem told_act (s : Scene) (a : Act) : s.Told a := by
  cases a with
  | change files => exact ⟨nofun, rfl, rfl, (List.append_nil _).symm, fun _ => rfl⟩
  | request r =>
    obtain ⟨log, reloaded, failed⟩ := Store.Shared.quiet_answer ⟨s.store, s.snapshots⟩ r
    refine ⟨nofun, reloaded, failed, ?_, fun _ => Store.Shared.active_answer _ r⟩
    have same := congrArg List.reverse log
    rw [← List.filter_reverse, ← List.filter_reverse] at same
    exact same.trans (List.append_nil _).symm
  | refresh download => exact s.told_refresh download

/-- What is counted and told of a run. -/
structure ToldAll (s : Scene) (acts : List Act) : Prop where
  /-- Every refresh is told. -/
  fair : ∀ l ∈ s.reloads acts, l.IsFair
  /-- The refreshes that succeed are counted. -/
  reloaded : (s.afterActs acts).store.metrics.reloaded =
    s.store.metrics.reloaded + (s.reloads acts).countP (·.outcome.isOk)
  /-- The refreshes that fail are counted. -/
  failed : (s.afterActs acts).store.metrics.failed =
    s.store.metrics.failed + (s.reloads acts).countP (!·.outcome.isOk)
  /-- Nothing else is told. -/
  log : (s.afterActs acts).log.filter Event.isAccount =
    s.log.filter Event.isAccount ++ (s.reloads acts).flatMap Reload.account
  /-- Each replacement starts from where the one before it led to. -/
  linked : Event.Linked s.store.active.size
    (((s.reloads acts).flatMap Reload.account).filterMap Event.replacement?)

/-- One more act in front of a run is counted and told with it. -/
theorem ToldAll.cons {s : Scene} {a : Act} {rest : List Act} (first : s.Told a)
    (later : (s.act a).ToldAll rest) : s.ToldAll (a :: rest) where
  fair l found := by
    rcases List.mem_append.1 found with own | other
    · exact first.fair l (Option.mem_toList.1 own)
    · exact later.fair l other
  reloaded := by
    rw [reloads, List.countP_append, ← Nat.add_assoc, ← first.reloaded]
    exact later.reloaded
  failed := by
    rw [reloads, List.countP_append, ← Nat.add_assoc, ← first.failed]
    exact later.failed
  log := by
    rw [reloads, List.flatMap_append, ← List.append_assoc, ← first.log]
    exact later.log
  linked := by
    rw [reloads, List.flatMap_append, List.filterMap_append]
    cases own : s.reload? a with
    | none =>
      rw [← first.active own]
      exact later.linked
    | some l =>
      have start : l.before = s.store ∧ l.after = (s.act a).store := by
        cases a with
        | refresh download =>
          cases own
          exact ⟨rfl, rfl⟩
        | _ => cases own
      rw [Option.toList_some, List.flatMap_singleton, ← start.1]
      refine (first.fair l own).told.linked ?_
      rw [start.2]
      exact later.linked

/-- Every run is counted and told. -/
theorem toldAll (s : Scene) (acts : List Act) : s.ToldAll acts := by
  induction acts generalizing s with
  | nil => exact ⟨nofun, rfl, rfl, (List.append_nil _).symm, trivial⟩
  | cons a rest ih => exact .cons (s.told_act a) (ih (s.act a))

/-- Replacements are told among what is told of refreshes. -/
theorem filterMap_replacement (events : List Event) :
    (events.filter Event.isAccount).filterMap Event.replacement? =
      events.filterMap Event.replacement? := by
  rw [List.filterMap_filter]
  congr 1
  funext e
  cases e <;> rfl

/-- The counters and the notes of a refresher tell the truth over whole runs, among files that change in
any way and with requests that are answered or not. The refreshes that succeeded and those that failed
are counted. A refresh that succeeded tells once, in order, what was parsed, that the rules were
replaced and that they were refreshed, with the sizes that the store had before and has behind it,
and the new size is shown. One that failed tells only that it did, and the size that is shown stays.
Nothing else tells of refreshes, and each replacement starts from the size that the one before it
led to, the first one from none. -/
theorem account_of_run (settings : Settings) (usual : File.Path) (files : File.Tree)
    (acts : List Act) :
    let start := Scene.start (ofSettings settings usual) files
    let scene := start.afterActs acts
    let loads := start.reloads acts
    scene.store.metrics.reloaded = loads.countP (·.outcome.isOk) ∧
      scene.store.metrics.failed = loads.countP (!·.outcome.isOk) ∧
      (∀ l ∈ loads, l.IsFair) ∧
      scene.log.filter Event.isAccount = loads.flatMap Reload.account ∧
      Event.Linked 0 (scene.log.filterMap Event.replacement?) := by
  intro start scene loads
  have all := start.toldAll acts
  have log : scene.log.filter Event.isAccount = loads.flatMap Reload.account := all.log
  refine ⟨all.reloaded.trans (Nat.zero_add _), all.failed.trans (Nat.zero_add _), all.fair, log, ?_⟩
  rw [← filterMap_replacement, log]
  exact all.linked

end Refresher.Scene

end Detour
