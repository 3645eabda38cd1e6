import Detour.Pattern.CharSet
/-!
# Patterns and where they match

A pattern is built from sets of characters and conditions on a place in a text. Laid over a text, each
set becomes the set of the places where one of its members stands, and each condition the set of the
places where it holds. `Overlay.ends` then finds all places where a match ends, given all places
where it may start, for all places at once. A pattern matches a text if it does so anywhere in it.
-/

namespace Detour

/-- A condition on a place in a text. -/
inductive Pattern.Look where
  /-- The start of the text. -/
  | start
  /-- The end of the text. -/
  | finish
  /-- The start of a line, or the end of one. -/
  | lineStart
  | lineFinish
  /-- The same where a carriage return ends a line, too. -/
  | returnStart
  | returnFinish
  /-- The start or the end of a word, or neither. -/
  | word
  | noWord
  /-- The start of a word, or its end. -/
  | wordStart
  | wordFinish
  /-- A place with no word before it, or none behind it. -/
  | noWordBefore
  | noWordAfter
  deriving DecidableEq, Repr

/-- What a text is compared with. -/
inductive Pattern where
  /-- Nothing. -/
  | empty
  /-- A member of a set. -/
  | set (s : Pattern.CharSet)
  /-- A condition. -/
  | look (l : Pattern.Look)
  /-- One pattern and then another. -/
  | cat (p q : Pattern)
  /-- Either of two patterns. -/
  | alt (p q : Pattern)
  /-- A pattern several times, at least `min` and at most `max` times. -/
  | rep (p : Pattern) (min : Nat) (max : Option Nat)
  deriving DecidableEq, Repr

namespace Pattern

/-- Whether a character is part of a word. -/
def isWord (c : Char) : Bool := c.isAlphanum || c = '_'

/-- Whether a condition holds between two characters; at an end of the text one is missing. -/
def Look.holds (l : Look) (before after : Option Char) : Bool :=
  let wordBefore := before.any isWord
  let wordAfter := after.any isWord
  match l with
  | start => before.isNone
  | finish => after.isNone
  | lineStart => before.all (· = '\n')
  | lineFinish => after.all (· = '\n')
  | returnStart => before.all fun c => c = '\n' || (c = '\r' && after ≠ some '\n')
  | returnFinish => after.all fun c => c = '\r' || (c = '\n' && before ≠ some '\r')
  | word => wordBefore != wordAfter
  | noWord => wordBefore == wordAfter
  | wordStart => !wordBefore && wordAfter
  | wordFinish => wordBefore && !wordAfter
  | noWordBefore => !wordBefore
  | noWordAfter => !wordAfter

/-- A pattern laid over a text. -/
inductive Overlay where
  /-- Nothing. -/
  | empty
  /-- A character at one of the given places. -/
  | set (places : Nat)
  /-- One of the given places. -/
  | look (places : Nat)
  /-- One pattern and then another. -/
  | cat (p q : Overlay)
  /-- Either of two patterns. -/
  | alt (p q : Overlay)
  /-- A pattern at least `min` times, and up to `more` times more. -/
  | rep (p : Overlay) (min more : Nat)

/-- The neighbours of each place in a text, from the one before its first character on. -/
def neighboursFrom (before : Option Char) : List Char → List (Option Char × Option Char)
  | [] => [(before, none)]
  | c :: rest => (before, some c) :: neighboursFrom (some c) rest

/-- The neighbours of each place in a text. -/
def neighbours (text : List Char) : List (Option Char × Option Char) := neighboursFrom none text

/-- Lay a pattern over a text. A match that goes on visits a new place each time, so that no more
repetitions count than there are places. -/
def overlay (text : List Char) : Pattern → Overlay
  | .empty => .empty
  | .set s => .set (Bits.ofList s.has text)
  | .look l => .look (Bits.ofList (fun n => l.holds n.1 n.2) (neighbours text))
  | .cat p q => .cat (p.overlay text) (q.overlay text)
  | .alt p q => .alt (p.overlay text) (q.overlay text)
  | .rep p min max =>
    let places := text.length + 1
    .rep (p.overlay text) min (match max with
      | some max => Nat.min (max - min) places
      | none => places)

/-- The places where a match ends that starts at one of the places given. -/
def Overlay.ends : Overlay → Nat → Nat
  | .empty, places => places
  | .set at', places => (places &&& at') <<< 1
  | .look at', places => places &&& at'
  | .cat p q, places => q.ends (p.ends places)
  | .alt p q, places => p.ends places ||| q.ends places
  | .rep p min more, places =>
    let first := Bits.advance p.ends min places
    Bits.reach p.ends more first first

/-- Whether a pattern matches some part of a text. -/
def isIn (p : Pattern) (text : List Char) : Bool :=
  (p.overlay text).ends (Bits.below (text.length + 1)) ≠ 0

end Pattern

end Detour
