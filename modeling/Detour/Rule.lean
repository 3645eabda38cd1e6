import Detour.Expression
import Detour.Target
import Detour.Text.Search
/-!
# Rules

A rule says which targets it matches, by their host or by their whole URL. A target that a rule
matches takes the detour, unless the rule is an exception.
-/

namespace Detour

/-- What a rule compares with a target. -/
inductive Rule.Kind where
  /-- The host, with its port if it shows one, contains the text. -/
  | hostPart (text : List Char)
  /-- The URL starts with the text. -/
  | urlStart (text : List Char)
  /-- The URL contains the text. -/
  | urlPart (text : List Char)
  /-- An expression matches some part of the URL. -/
  | expression (e : Expression)
  deriving DecidableEq

/-- A rule. -/
structure Rule where
  /-- What it compares with a target. -/
  kind : Rule.Kind
  /-- Whether it exempts the targets that it matches. -/
  isException : Bool
  deriving DecidableEq

namespace Rule

/-- What was written for the pattern of a rule. -/
def Kind.pattern : Kind → List Char
  | .hostPart text | .urlStart text | .urlPart text => text
  | .expression e => e.source

/-- Whether a target fits what a rule compares it with. -/
def Kind.fits (k : Kind) (t : Target) : Bool :=
  match k with
  | .hostPart text => Text.isIn text t.authority
  | .urlStart text => text.isPrefixOf t.text
  | .urlPart text => Text.isIn text t.text
  | .expression e => e.isIn t.text

/-- Whether a rule matches a target. -/
def fits (r : Rule) (t : Target) : Bool := r.kind.fits t

/-- What a rule decides about a target on its own: a plain rule blocks what it matches, and an
exception blocks what it does not match. -/
def blocks (r : Rule) (t : Target) : Bool := r.fits t != r.isException

/-- The same rule with the opposite meaning. -/
def turned (r : Rule) : Rule := { r with isException := !r.isException }

@[simp] theorem fits_turned (r : Rule) (t : Target) : r.turned.fits t = r.fits t := rfl

/-- Turning a rule turns what it decides. -/
@[simp] theorem blocks_turned (r : Rule) (t : Target) : r.turned.blocks t = !r.blocks t := by
  cases h : r.fits t <;> cases e : r.isException <;> simp_all [blocks, turned, fits]

end Rule

end Detour
