import Detour.RootDomain
import Detour.Rule
import Std.Data.TreeMap
/-!
# Rule sets

A rule set keeps some rules in an index, under domains, and the others in order. It decides whether a
target takes the detour: the rule under the host of the target or, if there is none, the one under
its root domain decides alone. Without such a rule the first rule in the order that matches the target
decides, and without that the target goes straight.
-/

namespace Detour

/-- A set of rules. -/
structure RuleSet where
  /-- The rules kept under a domain. -/
  index : Std.TreeMap (List Char) Rule
  /-- The other rules, in order. -/
  ordered : List Rule

namespace RuleSet

/-- The set without rules. -/
def empty : RuleSet := ⟨{}, []⟩

instance : Inhabited RuleSet := ⟨empty⟩

/-- The rule kept under a domain. -/
def lookup (s : RuleSet) (key : List Char) : Option Rule := s.index[key]?

/-- How many rules are kept under domains. -/
def indexedSize (s : RuleSet) : Nat := s.index.size

/-- How many rules are kept in order. -/
def orderedSize (s : RuleSet) : Nat := s.ordered.length

/-- How many rules there are. -/
def size (s : RuleSet) : Nat := s.indexedSize + s.orderedSize

/-- Whether there are no rules. -/
def isEmpty (s : RuleSet) : Bool := s.index.isEmpty && s.ordered.isEmpty

/-- The rule kept under a host or, if there is none, under its root domain. -/
def hostRule (s : RuleSet) (host : List Char) : Option Rule :=
  s.lookup host <|> s.lookup (rootDomain host)

/-- What the rules in order decide: the first that matches blocks the target unless it is an
exception. -/
def orderedVerdict (rules : List Rule) (t : Target) : Bool :=
  (rules.find? (·.fits t)).any (!·.isException)

/-- Whether a target is blocked. -/
def blocks (s : RuleSet) (t : Target) : Bool :=
  match s.hostRule t.host with
  | some rule => rule.blocks t
  | none => orderedVerdict s.ordered t

/-- Whether a query is blocked; one that has no target is not. -/
def isBlocked (s : RuleSet) (query : List Char) : Bool := (Target.parse query).any s.blocks

@[simp] theorem lookup_empty (key : List Char) : empty.lookup key = none := by
  simp [empty, lookup]

/-- The empty set blocks nothing. -/
@[simp] theorem isBlocked_empty (query : List Char) : empty.isBlocked query = false := by
  cases h : Target.parse query <;>
    simp [isBlocked, blocks, hostRule, orderedVerdict, h, show empty.ordered = [] from rfl]

end RuleSet

end Detour
