import Detour.Payload
import Detour.Rule.Line
import Detour.RuleSet
import Detour.Text.Line
/-!
# Feeding rule lists

A rule set is built from lines, fed one after another. Several texts may be fed in turn; they make one
list. Of two rules under one domain the later one stays.
-/

namespace Detour

/-- What has been fed so far. -/
structure Feed where
  /-- The rules kept under a domain. -/
  index : Std.TreeMap (List Char) Rule
  /-- The other rules, last one first. -/
  reversed : List Rule
  /-- How many lines made a rule. -/
  rules : Nat
  /-- How many lines made none. -/
  skipped : Nat
  /-- The expressions that could not be read, last one first. -/
  unreadable : List (List Char)

namespace Feed

/-- Nothing has been fed. -/
def empty : Feed := ⟨{}, [], 0, 0, []⟩

/-- The expression of a rule, if it cannot be read. -/
def unreadable? (r : Rule) : Option (List Char) :=
  match r.kind with
  | .expression e => if e.isValid then none else some e.source
  | _ => none

/-- Keep a rule. -/
def put (f : Feed) (e : Rule.Entry) : Feed :=
  match e.place with
  | .indexed key => { f with index := f.index.insert key e.rule }
  | .ordered => { f with reversed := e.rule :: f.reversed }

/-- Note an expression that cannot be read. -/
def note (f : Feed) (r : Rule) : Feed :=
  match unreadable? r with
  | some source => { f with unreadable := source :: f.unreadable }
  | none => f

/-- Feed one line, even if it holds line ends. -/
def line (f : Feed) (line : List Char) : Feed :=
  match Rule.readLine line with
  | some entry => let f := (f.note entry.rule).put entry; { f with rules := f.rules + 1 }
  | none => { f with skipped := f.skipped + 1 }

/-- Feed lines. -/
def lines (f : Feed) (lines : List (List Char)) : Feed := lines.foldl line f

/-- Feed the lines of a text. -/
def text (f : Feed) (text : List Char) : Feed := f.lines (Text.lines text)

/-- The set of the rules that were fed. -/
def ruleSet (f : Feed) : RuleSet := ⟨f.index, f.reversed.reverse⟩

end Feed

namespace RuleSet

/-- The rules of a list. -/
def ofText (text : List Char) : RuleSet := (Feed.empty.text text).ruleSet

/-- The rules of a list in some encoding. -/
def ofPayload (encoding : Encoding) (payload : List UInt8) : Except Payload.Fault RuleSet :=
  (Payload.decode encoding payload).map ofText

end RuleSet

end Detour
