import Detour.Store
import Mathlib.Data.List.Induction
/-!
# Histories of a store

The clients of a store ask it, ask snapshots of it, and install rule sets, in any order. A step of
any of them is a step of the store, so that a history is the list of the steps in the order in
which they take effect. Main statement: whatever came before, each step is answered by the rule
set that was installed last, a snapshot by the one that was active when it was taken, and
the metrics are the counts of the answers.
-/

namespace Detour.Store

/-- A store that clients share, and the snapshots that they took of it, first one first. -/
structure Shared where
  /-- The store. -/
  store : Store
  /-- The snapshots. -/
  snapshots : List RuleSet

/-- What clients can ask without changing the rules. -/
inductive Request where
  /-- Ask the active rule set. -/
  | query (query : List Char)
  /-- Ask how many rules there are, and whether there are any. -/
  | size
  /-- Take a snapshot. -/
  | snapshot
  /-- Ask a snapshot, which is known by how many were taken before it. -/
  | lookBack (number : Nat) (query : List Char)

/-- What clients can do. -/
inductive Step where
  /-- Ask something. -/
  | request (r : Request)
  /-- Install a rule set, however it was made. -/
  | replace (rules : RuleSet)
  /-- Install the rules of a list in some encoding. -/
  | load (encoding : Encoding) (payload : List UInt8)

/-- What a step gives back. -/
inductive Reply where
  /-- Whether a query is blocked. -/
  | verdict (blocked : Bool)
  /-- How many rules there are, and whether there are none. -/
  | size (rules : Nat) (isEmpty : Bool)
  /-- A snapshot was taken; so many were taken before. -/
  | taken (number : Nat)
  /-- There is no such snapshot. -/
  | unknown
  /-- The rule set that was active before another one was installed. -/
  | previous (rules : RuleSet)
  /-- A list could not be read. -/
  | refused (fault : Payload.Fault)

namespace Shared

/-- A store with a first rule set and no snapshots. -/
def start (initial : RuleSet) : Shared := ⟨.ofRuleSet initial, []⟩

/-- Answer a request. -/
def answer (s : Shared) : Request → Reply × Shared
  | .query query =>
    let (blocked, store) := s.store.query query
    (.verdict blocked, { s with store := store })
  | .size => (.size s.store.active.size s.store.active.isEmpty, s)
  | .snapshot =>
    (.taken s.snapshots.length, { s with snapshots := s.snapshots ++ [s.store.active] })
  | .lookBack number query =>
    match s.snapshots[number]? with
    | some rules =>
      let (blocked, store) := s.store.ask rules query
      (.verdict blocked, { s with store := store })
    | none => (.unknown, s)

/-- Take a step. -/
def step (s : Shared) : Step → Reply × Shared
  | .request r => s.answer r
  | .replace rules =>
    let (previous, store) := s.store.swap rules
    (.previous previous, { s with store := store })
  | .load encoding payload =>
    match s.store.load encoding payload with
    | (.ok previous, store) => (.previous previous, { s with store := store })
    | (.error fault, store) => (.refused fault, { s with store := store })

/-- Requests change no rules. -/
theorem active_answer (s : Shared) (r : Request) : (s.answer r).2.store.active = s.store.active := by
  cases r with
  | query query => exact active_query s.store query
  | size => rfl
  | snapshot => rfl
  | lookBack number query =>
    cases found : s.snapshots[number]? with
    | some rules =>
      simp only [answer, found]
      exact active_ask s.store rules query
    | none => simp only [answer, found]

/-- A list that can be read is installed. -/
theorem step_load_of_ok (s : Shared) {encoding : Encoding} {payload : List UInt8} {rules : RuleSet}
    (read : RuleSet.ofPayload encoding payload = .ok rules) :
    s.step (.load encoding payload) =
      (.previous s.store.active, { s with store := s.store.replace rules }) := by
  simp only [step, Store.load, read]

/-- A list that cannot be read changes nothing. -/
theorem step_load_of_error (s : Shared) {encoding : Encoding} {payload : List UInt8}
    {fault : Payload.Fault} (read : RuleSet.ofPayload encoding payload = .error fault) :
    s.step (.load encoding payload) = (.refused fault, s) := by
  simp only [step, Store.load, read]

/-- What is left when steps were taken in turn. -/
def after (s : Shared) (steps : List Step) : Shared := steps.foldl (fun s x => (s.step x).2) s

/-- The steps with what they gave back. -/
def transcript (s : Shared) : List Step → List (Step × Reply)
  | [] => []
  | x :: rest => (x, (s.step x).1) :: transcript (s.step x).2 rest

/-- What a history led to that started with some rule set. -/
def reached (initial : RuleSet) (steps : List Step) : Shared := (start initial).after steps

/-- One more step is taken where the others led to. -/
theorem after_concat (s : Shared) (steps : List Step) (x : Step) :
    s.after (steps ++ [x]) = ((s.after steps).step x).2 := by
  simp [after]

/-- One more step is answered where the others led to. -/
theorem transcript_concat (s : Shared) (steps : List Step) (x : Step) :
    s.transcript (steps ++ [x]) = s.transcript steps ++ [(x, ((s.after steps).step x).1)] := by
  induction steps generalizing s with
  | nil => rfl
  | cons y rest ih => exact congrArg _ (ih (s.step y).2)

end Shared

/-- The rule set that a step installs, if it installs one. -/
def Step.installs : Step → Option RuleSet
  | .request _ => none
  | .replace rules => some rules
  | .load encoding payload => (RuleSet.ofPayload encoding payload).toOption

/-- Whether a step takes a snapshot. -/
def Step.isSnapshot : Step → Bool
  | .request .snapshot => true
  | _ => false

/-- The rule set that was installed last. -/
def lastInstalled (steps : List Step) : Option RuleSet := (steps.filterMap Step.installs).getLast?

/-- The rule set that is active after some steps: the one that was installed last. -/
def activeAfter (initial : RuleSet) (steps : List Step) : RuleSet :=
  (lastInstalled steps).getD initial

/-- The answer to a query of the active rule set; queries of snapshots do not count. -/
def activeVerdict? : Step × Reply → Option Bool
  | (.request (.query _), .verdict blocked) => some blocked
  | _ => none

/-- The answers to the queries of the active rule set. -/
def verdicts (initial : RuleSet) (steps : List Step) : List Bool :=
  ((Shared.start initial).transcript steps).filterMap activeVerdict?

/-- The rule set installed by one more step is the last one. -/
theorem lastInstalled_concat (steps : List Step) (x : Step) :
    lastInstalled (steps ++ [x]) = x.installs.or (lastInstalled steps) := by
  unfold lastInstalled
  rw [List.filterMap_append, List.getLast?_append]
  cases h : x.installs <;> simp [h]

/-- A step that installs nothing leaves the active rule set. -/
theorem activeAfter_concat (initial : RuleSet) (steps : List Step) (x : Step) :
    activeAfter initial (steps ++ [x]) = x.installs.getD (activeAfter initial steps) := by
  rw [activeAfter, lastInstalled_concat]
  cases x.installs <;> rfl

/-- The answers when one more step is taken. -/
theorem verdicts_concat (initial : RuleSet) (steps : List Step) (x : Step) :
    verdicts initial (steps ++ [x]) = verdicts initial steps ++
      (activeVerdict? (x, ((Shared.reached initial steps).step x).1)).toList := by
  unfold verdicts
  rw [Shared.transcript_concat, List.filterMap_append, List.filterMap_cons, ← Shared.reached]
  cases activeVerdict? (x, ((Shared.reached initial steps).step x).1) <;> rfl

/-- A step that does not query the active rule set adds no answer. -/
theorem verdicts_silent {initial : RuleSet} {steps : List Step} {x : Step}
    (silent : activeVerdict? (x, ((Shared.reached initial steps).step x).1) = none) :
    verdicts initial (steps ++ [x]) = verdicts initial steps := by
  rw [verdicts_concat, silent, Option.toList_none, List.append_nil]

/-- A query of the active rule set is answered by it. -/
theorem verdicts_query (initial : RuleSet) (steps : List Step) (query : List Char) :
    verdicts initial (steps ++ [.request (.query query)]) =
      verdicts initial steps ++ [(Shared.reached initial steps).store.active.isBlocked query] :=
  verdicts_concat initial steps _

/-- What a store and its snapshots are like after some steps. -/
structure Follows (initial : RuleSet) (steps : List Step) (s : Shared) : Prop where
  /-- The rule set that was installed last is active. -/
  active : s.store.active = activeAfter initial steps
  /-- Every snapshot is there. -/
  count : s.snapshots.length = steps.countP Step.isSnapshot
  /-- A snapshot is the rule set that was active when it was taken. -/
  snapshot : ∀ front back, steps = front ++ .request .snapshot :: back →
    s.snapshots[front.countP Step.isSnapshot]? = some (activeAfter initial front)
  /-- The metrics count what was blocked. -/
  blocked : s.store.metrics.blocked = (verdicts initial steps).count true
  /-- The metrics count what was not blocked. -/
  direct : s.store.metrics.direct = (verdicts initial steps).count false
  /-- The metrics show the size of the rule set that was installed last. -/
  rules : s.store.metrics.rules = (lastInstalled steps).map RuleSet.size

/-- A step that takes no snapshot leaves those that were taken. -/
theorem Follows.snapshot_concat {initial : RuleSet} {steps : List Step} {s : Shared} {x : Step}
    (h : Follows initial steps s) (other : x.isSnapshot = false) (front back : List Step)
    (e : steps ++ [x] = front ++ .request .snapshot :: back) :
    s.snapshots[front.countP Step.isSnapshot]? = some (activeAfter initial front) := by
  -- If nothing followed the snapshot, it would be the new step.
  rcases List.eq_nil_or_concat back with rfl | ⟨rest, y, rfl⟩
  · obtain ⟨-, last⟩ := List.append_inj' e rfl
    cases last
    cases other
  · have parts : steps ++ [x] = (front ++ .request .snapshot :: rest) ++ [y] := by simpa using e
    exact h.snapshot front rest (List.append_inj' parts rfl).1

/-- A new snapshot is the active rule set, and the others stay. -/
theorem Follows.snapshot_taken {initial : RuleSet} {steps : List Step} {s : Shared}
    (h : Follows initial steps s) (front back : List Step)
    (e : steps ++ [.request .snapshot] = front ++ .request .snapshot :: back) :
    (s.snapshots ++ [s.store.active])[front.countP Step.isSnapshot]? =
      some (activeAfter initial front) := by
  rcases List.eq_nil_or_concat back with rfl | ⟨rest, y, rfl⟩
  · obtain ⟨rfl, -⟩ := List.append_inj' e rfl
    rw [← h.count, List.getElem?_concat_length, h.active]
  · have parts : steps ++ [.request .snapshot] = (front ++ .request .snapshot :: rest) ++ [y] := by
      simpa using e
    have old := h.snapshot front rest (List.append_inj' parts rfl).1
    rw [List.getElem?_append_left (List.getElem?_eq_some_iff.1 old).1]
    exact old

/-- Nothing has happened to a store that was just started. -/
theorem follows_start (initial : RuleSet) : Follows initial [] (.start initial) where
  active := rfl
  count := rfl
  snapshot front back e := absurd e (by simp)
  blocked := rfl
  direct := rfl
  rules := rfl

variable {initial : RuleSet} {steps : List Step} {x : Step}

/-- A step that installs nothing, takes no snapshot and does not query the active rule set leaves all as
it is. -/
theorem Follows.quiet (h : Follows initial steps (.reached initial steps))
    (installs : x.installs = none) (other : x.isSnapshot = false)
    (silent : activeVerdict? (x, ((Shared.reached initial steps).step x).1) = none) {s : Shared}
    (active : s.store.active = (Shared.reached initial steps).store.active)
    (metrics : s.store.metrics = (Shared.reached initial steps).store.metrics)
    (snapshots : s.snapshots = (Shared.reached initial steps).snapshots) :
    Follows initial (steps ++ [x]) s where
  active := by rw [active, h.active, activeAfter_concat, installs, Option.getD_none]
  count := by simp [snapshots, h.count, other]
  snapshot front back e := by
    rw [snapshots]
    exact h.snapshot_concat other front back e
  blocked := by rw [metrics, h.blocked, verdicts_silent silent]
  direct := by rw [metrics, h.direct, verdicts_silent silent]
  rules := by rw [metrics, h.rules, lastInstalled_concat, installs, Option.none_or]

/-- A query of the active rule set is counted. -/
theorem Follows.query (h : Follows initial steps (.reached initial steps)) (query : List Char) :
    Follows initial (steps ++ [.request (.query query)])
      ((Shared.reached initial steps).answer (.query query)).2 where
  active := by
    rw [activeAfter_concat]
    exact (active_query _ _).trans h.active
  count := by simp [Shared.answer, Step.isSnapshot, h.count]
  snapshot := h.snapshot_concat rfl
  blocked := by
    have counted := congrArg Metrics.blocked (metrics_query (Shared.reached initial steps).store query)
    rw [Metrics.blocked_countQuery, h.blocked] at counted
    rw [verdicts_query, List.count_append, List.count_singleton]
    refine counted.trans ?_
    cases (Shared.reached initial steps).store.active.isBlocked query <;> rfl
  direct := by
    have counted := congrArg Metrics.direct (metrics_query (Shared.reached initial steps).store query)
    rw [Metrics.direct_countQuery, h.direct] at counted
    rw [verdicts_query, List.count_append, List.count_singleton]
    refine counted.trans ?_
    cases (Shared.reached initial steps).store.active.isBlocked query <;> rfl
  rules := by
    have counted := congrArg Metrics.rules (metrics_query (Shared.reached initial steps).store query)
    rw [Metrics.rules_countQuery, h.rules] at counted
    rw [lastInstalled_concat]
    exact counted

/-- A rule set that is installed is active from then on, and its size is shown. -/
theorem Follows.replaced (h : Follows initial steps (.reached initial steps)) {rules : RuleSet}
    (installs : x.installs = some rules) (other : x.isSnapshot = false)
    (silent : activeVerdict? (x, ((Shared.reached initial steps).step x).1) = none) :
    Follows initial (steps ++ [x]) { Shared.reached initial steps with
      store := (Shared.reached initial steps).store.replace rules } where
  active := by rw [activeAfter_concat, installs, Option.getD_some, active_replace]
  count := by simp [h.count, other]
  snapshot := h.snapshot_concat other
  blocked := by
    rw [verdicts_silent silent]
    exact h.blocked
  direct := by
    rw [verdicts_silent silent]
    exact h.direct
  rules := by
    rw [lastInstalled_concat, installs]
    rfl

/-- A snapshot is taken, and nothing else changes. -/
theorem Follows.taken (h : Follows initial steps (.reached initial steps)) :
    Follows initial (steps ++ [.request .snapshot])
      ((Shared.reached initial steps).answer .snapshot).2 where
  active := by
    rw [activeAfter_concat]
    exact h.active
  count := by simp [Shared.answer, Step.isSnapshot, h.count]
  snapshot := h.snapshot_taken
  blocked := by
    rw [verdicts_silent rfl]
    exact h.blocked
  direct := by
    rw [verdicts_silent rfl]
    exact h.direct
  rules := by
    rw [lastInstalled_concat]
    exact h.rules

/-- One more step keeps what a store is like. -/
theorem Follows.step (h : Follows initial steps (.reached initial steps)) (x : Step) :
    Follows initial (steps ++ [x]) (.reached initial (steps ++ [x])) := by
  rw [Shared.reached, Shared.after_concat, ← Shared.reached]
  cases x with
  | request r =>
    cases r with
    | query query => exact h.query query
    | size => exact h.quiet rfl rfl rfl rfl rfl rfl
    | snapshot => exact h.taken
    | lookBack number query =>
      cases found : (Shared.reached initial steps).snapshots[number]? with
      | some rules =>
        refine h.quiet rfl rfl rfl ?_ ?_ ?_
        all_goals simp [Shared.step, Shared.answer, found]
      | none =>
        refine h.quiet rfl rfl rfl ?_ ?_ ?_
        all_goals simp [Shared.step, Shared.answer, found]
  | replace rules => exact h.replaced rfl rfl rfl
  | load encoding payload =>
    cases read : RuleSet.ofPayload encoding payload with
    | ok rules =>
      have installs : (Step.load encoding payload).installs = some rules :=
        congrArg Except.toOption read
      have taken := Shared.step_load_of_ok (.reached initial steps) read
      rw [taken]
      refine h.replaced installs rfl ?_
      rw [taken]
      rfl
    | error fault =>
      have installs : (Step.load encoding payload).installs = none := congrArg Except.toOption read
      have taken := Shared.step_load_of_error (.reached initial steps) read
      rw [taken]
      refine h.quiet installs rfl ?_ rfl rfl rfl
      rw [taken]
      rfl

/-- What a store and its snapshots are like, whatever was done with them. -/
theorem follows_reached (initial : RuleSet) (steps : List Step) :
    Follows initial steps (.reached initial steps) := by
  induction steps using List.reverseRecOn with
  | nil => exact follows_start initial
  | append_singleton steps x ih => exact ih.step x

/-- The history of a store is linear. Whatever came before, a query is answered by the rule set that was
installed last, and a query of a snapshot by the one that was active when it was taken; installing
a rule set gives back the one that was active, and a list that cannot be read changes nothing. The
metrics count the answers of the active rule set and show the size of the one installed last. -/
theorem history_linear (initial : RuleSet) (before : List Step) :
    let shared := Shared.reached initial before
    let active := activeAfter initial before
    (∀ query, (shared.step (.request (.query query))).1 = .verdict (active.isBlocked query)) ∧
      (shared.step (.request .size)).1 = .size active.size active.isEmpty ∧
      (shared.step (.request .snapshot)).1 = .taken (before.countP Step.isSnapshot) ∧
      (∀ front back query, before = front ++ .request .snapshot :: back →
        (shared.step (.request (.lookBack (front.countP Step.isSnapshot) query))).1 =
          .verdict ((activeAfter initial front).isBlocked query)) ∧
      (∀ rules, (shared.step (.replace rules)).1 = .previous active) ∧
      (∀ encoding payload rules, RuleSet.ofPayload encoding payload = .ok rules →
        (shared.step (.load encoding payload)).1 = .previous active) ∧
      (∀ encoding payload fault, RuleSet.ofPayload encoding payload = .error fault →
        shared.step (.load encoding payload) = (.refused fault, shared)) ∧
      shared.store.metrics.blocked = (verdicts initial before).count true ∧
      shared.store.metrics.direct = (verdicts initial before).count false ∧
      shared.store.metrics.rules =
        if (lastInstalled before).isSome then some active.size else none := by
  have follows := follows_reached initial before
  refine ⟨?_, ?_, ?_, ?_, ?_, ?_, ?_, follows.blocked, follows.direct, ?_⟩
  · intro query
    rw [← follows.active]
    rfl
  · rw [← follows.active]
    rfl
  · rw [← follows.count]
    rfl
  · intro front back query e
    have found := follows.snapshot front back e
    simp only [Shared.step, Shared.answer, found]
    rfl
  · intro rules
    rw [← follows.active]
    rfl
  · intro encoding payload rules read
    rw [Shared.step_load_of_ok _ read, follows.active]
  · intro encoding payload fault read
    exact Shared.step_load_of_error _ read
  · rw [follows.rules, activeAfter]
    cases lastInstalled before <;> rfl

end Detour.Store
