/-!
# Metrics

Counts of queries and reloads, and the size of the active rule set. Only what has been counted or set is
shown.
-/

namespace Detour

/-- What is counted. -/
structure Metrics where
  /-- Queries that were blocked. -/
  blocked : Nat
  /-- Queries that were not. -/
  direct : Nat
  /-- Reloads that succeeded. -/
  reloaded : Nat
  /-- Reloads that failed. -/
  failed : Nat
  /-- The size of the active rule set, once one has been installed. -/
  rules : Option Nat
  deriving DecidableEq, Repr

namespace Metrics

/-- Nothing has been counted. -/
def zero : Metrics := ⟨0, 0, 0, 0, none⟩

/-- Count a query. -/
def countQuery (m : Metrics) (blocked : Bool) : Metrics :=
  if blocked then { m with blocked := m.blocked + 1 } else { m with direct := m.direct + 1 }

/-- Count a reload. -/
def countReload (m : Metrics) (ok : Bool) : Metrics :=
  if ok then { m with reloaded := m.reloaded + 1 } else { m with failed := m.failed + 1 }

/-- Blocked queries are counted. -/
@[simp] theorem blocked_countQuery (m : Metrics) (blocked : Bool) :
    (m.countQuery blocked).blocked = m.blocked + if blocked then 1 else 0 := by
  cases blocked <;> rfl

/-- Queries that are not blocked are counted apart. -/
@[simp] theorem direct_countQuery (m : Metrics) (blocked : Bool) :
    (m.countQuery blocked).direct = m.direct + if blocked then 0 else 1 := by
  cases blocked <;> rfl

/-- Counting a query does not touch the size of the active rule set. -/
@[simp] theorem rules_countQuery (m : Metrics) (blocked : Bool) :
    (m.countQuery blocked).rules = m.rules := by
  cases blocked <;> rfl

/-- Counting a query does not touch the count of reloads. -/
@[simp] theorem reloaded_countQuery (m : Metrics) (blocked : Bool) :
    (m.countQuery blocked).reloaded = m.reloaded := by
  cases blocked <;> rfl

/-- Counting a query does not touch the count of failed reloads. -/
@[simp] theorem failed_countQuery (m : Metrics) (blocked : Bool) :
    (m.countQuery blocked).failed = m.failed := by
  cases blocked <;> rfl

/-- A count with its label, unless it is zero. -/
def sample (name label value : String) (n : Nat) : List String :=
  if n = 0 then []
  else [name ++ "\x7b" ++ label ++ "=\"" ++ value ++ "\"\x7d " ++ toString n]

/-- The samples that are shown, in alphabetical order. -/
def samples (m : Metrics) : List String :=
  sample "gfwlist_queries_total" "verdict" "blocked" m.blocked ++
    sample "gfwlist_queries_total" "verdict" "direct" m.direct ++
    sample "gfwlist_reloads_total" "result" "error" m.failed ++
    sample "gfwlist_reloads_total" "result" "ok" m.reloaded ++
    (m.rules.map fun n => "gfwlist_rules " ++ toString n).toList

end Metrics

end Detour
