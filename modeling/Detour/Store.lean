import Detour.Event
import Detour.Feed
import Detour.Metrics
/-!
# The active rule set

A store holds the rule set that answers queries, counts them, and notes what happens. A set that was
active stays as it is for whoever holds it, so that a snapshot is nothing but the set.
-/

namespace Detour

/-- The events of a feed that has come to its end. -/
def Feed.events (f : Feed) : List Event :=
  f.unreadable.reverse.map .unreadable ++
    [.parsed f.rules f.skipped f.ruleSet.indexedSize f.ruleSet.orderedSize]

/-- The active rule set, what was counted, and what happened. -/
structure Store where
  /-- The active rule set. -/
  active : RuleSet
  /-- What was counted. -/
  metrics : Metrics
  /-- What happened, last event first. -/
  log : List Event

namespace Store

/-- A store with a first rule set. Nothing has been counted. -/
def ofRuleSet (s : RuleSet) : Store := ⟨s, .zero, []⟩

/-- The store without rules. -/
def empty : Store := ofRuleSet .empty

/-- Note an event. -/
def note (s : Store) (e : Event) : Store := { s with log := e :: s.log }

/-- Note several events in turn. -/
def noteAll (s : Store) (events : List Event) : Store := { s with log := events.reverse ++ s.log }

/-- Install a rule set. -/
def replace (s : Store) (rules : RuleSet) : Store :=
  { active := rules
    metrics := { s.metrics with rules := some rules.size }
    log := .replaced s.active.size rules.size :: s.log }

/-- Install a rule set and give back the one that was active until then. -/
def swap (s : Store) (rules : RuleSet) : RuleSet × Store := (s.active, s.replace rules)

/-- Install the rules of a list in some encoding and give back those that were active until then. A
list that cannot be read is not installed. -/
def load (s : Store) (encoding : Encoding) (payload : List UInt8) :
    Except Payload.Fault RuleSet × Store :=
  match RuleSet.ofPayload encoding payload with
  | .ok rules => (.ok s.active, s.replace rules)
  | .error fault => (.error fault, s)

/-- Ask any rule set; a query without a target is noted. -/
def ask (s : Store) (rules : RuleSet) (query : List Char) : Bool × Store :=
  (rules.isBlocked query, if (Target.parse query).isSome then s else s.note (.noTarget query))

/-- Ask the active rule set and count the answer. -/
def query (s : Store) (query : List Char) : Bool × Store :=
  let (blocked, s) := s.ask s.active query
  (blocked, { s with metrics := s.metrics.countQuery blocked })

@[simp] theorem active_note (s : Store) (e : Event) : (s.note e).active = s.active := rfl

@[simp] theorem active_noteAll (s : Store) (events : List Event) :
    (s.noteAll events).active = s.active := rfl

@[simp] theorem active_replace (s : Store) (rules : RuleSet) : (s.replace rules).active = rules := rfl

/-- Asking changes no rules. -/
@[simp] theorem active_ask (s : Store) (rules : RuleSet) (query : List Char) :
    (s.ask rules query).2.active = s.active := by
  unfold ask
  split <;> simp_all

/-- Asking counts nothing. -/
@[simp] theorem metrics_ask (s : Store) (rules : RuleSet) (query : List Char) :
    (s.ask rules query).2.metrics = s.metrics := by
  unfold ask
  split <;> rfl

/-- A query is counted by its answer. -/
@[simp] theorem metrics_query (s : Store) (query : List Char) :
    (s.query query).2.metrics = s.metrics.countQuery (s.active.isBlocked query) :=
  congrArg (Metrics.countQuery · _) (metrics_ask s s.active query)

/-- A query is answered by the active rule set. -/
@[simp] theorem fst_query (s : Store) (query : List Char) :
    (s.query query).1 = s.active.isBlocked query := rfl

/-- A query changes no rules. -/
@[simp] theorem active_query (s : Store) (query : List Char) :
    (s.query query).2.active = s.active := by
  simp [Store.query]

end Store

end Detour
