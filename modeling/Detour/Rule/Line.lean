import Detour.Rule
import Detour.Text.Blank
/-!
# Lines of a rule list

A line of a list is a remark or a rule. A rule is either kept in an index, under a domain, or in the
order of the list. `readLine` reads a line, and `Entry.line` writes the line of an entry.
-/

namespace Detour.Rule

/-- Where a rule of a list is kept. -/
inductive Place where
  /-- In the index, under a domain. -/
  | indexed (key : List Char)
  /-- In the order of the list. -/
  | ordered
  deriving DecidableEq

/-- A rule of a list and where it is kept. -/
structure Entry where
  /-- The rule. -/
  rule : Rule
  /-- Where it is kept. -/
  place : Place
  deriving DecidableEq

/-- What an exception starts with. -/
def exceptionMark : List Char := ['@', '@']

/-- Whether a line without blanks at its ends is a remark: an empty line, a comment or a header. -/
def isRemark (line : List Char) : Bool :=
  match line with
  | [] => true
  | c :: _ => c = '!' || c = '['

/-- What an exception mark precedes, and whether there is one. -/
def splitException (line : List Char) : Bool × List Char :=
  match line with
  | '@' :: '@' :: rest => (true, rest)
  | rest => (false, rest)

/-- The text between two slashes at the ends of a text. -/
def betweenSlashes (s : List Char) : Option (List Char) :=
  match s with
  | '/' :: rest => if rest.getLast? = some '/' then some rest.dropLast else none
  | _ => none

/-- The domain under which a text is kept: the text without one point in front. -/
def keyOf (text : List Char) : List Char :=
  match text with
  | '.' :: rest => rest
  | rest => rest

/-- What the text of a rule compares, and where the rule is kept. -/
def readText (s : List Char) : Kind × Place :=
  match betweenSlashes s with
  | some source => (.expression (.ofSource source), .ordered)
  | none =>
    match s with
    | '|' :: '|' :: domain => (.hostPart domain, .indexed domain)
    | '|' :: start => (.urlStart start, .ordered)
    | s => if '/' ∈ s then (.urlPart s, .ordered) else (.hostPart s, .indexed (keyOf s))

/-- The entry of a line without blanks at its ends that is no remark. -/
def readTrimmed (line : List Char) : Entry :=
  let (isException, text) := splitException line
  let (kind, place) := readText text
  ⟨⟨kind, isException⟩, place⟩

/-- The entry of a line, unless it is a remark. -/
def readLine (line : List Char) : Option Entry :=
  let line := Text.trim line
  if isRemark line then none else some (readTrimmed line)

/-- The line for what a rule compares, without a mark for exceptions. -/
def Kind.line (k : Kind) : List Char :=
  match k with
  | .hostPart text => '|' :: '|' :: text
  | .urlStart text => '|' :: text
  | .urlPart text => text
  | .expression e => '/' :: e.source ++ ['/']

/-- The line for a rule. -/
def line (r : Rule) : List Char := (if r.isException then exceptionMark else []) ++ r.kind.line

end Detour.Rule
