import Detour.Event
import Detour.Text.Search
import Detour.Text.Split
/-!
# Choosing events

A filter says which events are written. It is a list of directives with commas between them: a level,
a place, or a place with a level. Of the directives whose place an event's place starts with, the one
with the longest place decides; without any directive only errors are written.
-/

namespace Detour.Event

/-- The greatest rank of the events from some places that are written. -/
structure Directive where
  /-- What the places start with. -/
  place : List Char
  /-- The greatest rank, zero for none. -/
  rank : Nat
  deriving DecidableEq, Repr

/-- The rank that the name or the number of a level stands for. -/
def rankOf (s : List Char) : Option Nat :=
  match String.ofList (s.map Char.toLower) with
  | "off" | "0" => some 0
  | "error" | "1" => some 1
  | "warn" | "2" => some 2
  | "info" | "3" => some 3
  | "debug" | "4" => some 4
  | "trace" | "5" => some 5
  | _ => none

/-- Whether a text may be a place. -/
def isPlace (s : List Char) : Bool :=
  !s.isEmpty && s.all fun c => c.isAlphanum || c = '_' || c = ':' || c = '-'

/-- The rank of trace events, which is that of a place without a level. -/
def lastRank : Nat := Level.trace.rank

/-- The directive that a text writes. -/
def readDirective (s : List Char) : Option Directive :=
  match rankOf s with
  | some rank => some ⟨[], rank⟩
  | none =>
    let place := s.takeWhile (· ≠ '=')
    if isPlace place then
      match s.dropWhile (· ≠ '=') with
      | [] | [_] => some ⟨place, lastRank⟩
      | _ :: level => (rankOf level).map fun rank => ⟨place, rank⟩
    else none

/-- A list of directives. -/
abbrev Filter := List Directive

/-- The filter that a text writes. Texts that are no directives are left out. -/
def Filter.ofText (s : List Char) : Filter :=
  match (Text.splitOn ',' s).filterMap readDirective with
  | [] => [⟨[], Level.error.rank⟩]
  | directives => directives

/-- Choose the directive for a place; of two with places of one length the later one. -/
def Filter.choose (place : List Char) (best : Option Directive) (d : Directive) :
    Option Directive :=
  if d.place.isPrefixOf place && best.all (·.place.length ≤ d.place.length) then some d else best

/-- Whether events of a level from a place are written. -/
def Filter.admits (f : Filter) (e : Event) : Bool :=
  (f.foldl (choose e.place.toList) none).any (e.level.rank ≤ ·.rank)

end Detour.Event
