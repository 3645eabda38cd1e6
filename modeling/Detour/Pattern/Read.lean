import Detour.Pattern.Bracket
import Detour.Unicode.Letter
/-!
# Reading patterns

A pattern is read from left to right. What is open, groups and alternatives, is kept on a stack, so
that nesting costs nothing but the stack's length. A pattern is refused if it is nested too deeply or
if the automaton for it would take too much room.
-/

namespace Detour.Pattern

/-- A part of a pattern. -/
structure Item where
  /-- The pattern that it stands for. -/
  pattern : Pattern
  /-- How deep its parts are nested. -/
  depth : Nat
  /-- The room that an automaton for it takes. -/
  size : Nat
  /-- Whether it matches no characters at all, only places. -/
  bare : Bool
  /-- Whether it may be repeated. -/
  repeatable : Bool

/-- The room of one state of an automaton. -/
def stateSize : Nat := 32

/-- The part that matches nothing. -/
def Item.nothing : Item := ⟨.empty, 0, stateSize, true, false⟩

/-- Put two parts one behind the other. -/
def Item.then (a b : Item) : Item :=
  ⟨.cat a.pattern b.pattern, max a.depth b.depth, a.size + b.size, a.bare && b.bare, true⟩

/-- Put two parts beside each other. -/
def Item.or (a b : Item) : Item :=
  ⟨.alt a.pattern b.pattern, max a.depth b.depth, a.size + b.size + stateSize, a.bare && b.bare, true⟩

/-- One part from several, the last one given first; several are one level deeper than they are. -/
def Item.join (combine : Item → Item → Item) : List Item → Item
  | [] => .nothing
  | [item] => item
  | last :: before =>
    let whole := before.foldl (fun after item => combine item after) last
    { whole with depth := whole.depth + 1 }

/-- The room of a part that is repeated. A part without characters is repeated once at most. -/
def Item.repeatedSize (item : Item) (min : Nat) (max : Option Nat) : Nat :=
  let (min, max) := if item.bare then (Nat.min min 1, some (Nat.min (max.getD 1) 1)) else (min, max)
  let first := if min = 0 then stateSize else min * item.size
  match max with
  | none => first + stateSize + (if min = 0 then item.size else 0)
  | some max => first + (max - min) * (stateSize + item.size)

/-- A part repeated. -/
def Item.repeated (item : Item) (min : Nat) (max : Option Nat) : Item :=
  ⟨.rep item.pattern min max, item.depth + 1, item.repeatedSize min max, item.bare, true⟩

/-- A group that is open, with what stands around it. -/
structure Group where
  /-- The parts in front of it, last one first. -/
  items : List Item
  /-- The alternatives before those parts, last one first. -/
  alternatives : List Item
  /-- The flags in force around it. -/
  flags : Flags
  /-- The room for remembering where it matched. -/
  size : Nat

/-- How far a pattern has been read. -/
structure Reader where
  /-- The flags in force. -/
  flags : Flags
  /-- The parts of the open alternative, last one first. -/
  items : List Item
  /-- The alternatives before it, last one first. -/
  alternatives : List Item
  /-- The groups that are open, innermost first. -/
  groups : List Group
  /-- The names of groups. -/
  names : List (List Char)

/-- The reader at the start of a pattern. -/
def Reader.start : Reader := ⟨.initial, [], [], [], []⟩

/-- Add a part. -/
def Reader.push (r : Reader) (item : Item) : Reader := { r with items := item :: r.items }

/-- End an alternative. -/
def Reader.nextAlternative (r : Reader) : Reader :=
  { r with items := [], alternatives := Item.join .then r.items :: r.alternatives }

/-- All that was read in the innermost group. -/
def Reader.whole (r : Reader) : Item :=
  Item.join .or (Item.join .then r.items :: r.alternatives)

/-- Open a group. -/
def Reader.openGroup (r : Reader) (flags : Flags) (size : Nat) : Reader :=
  { r with
    flags := flags
    items := []
    alternatives := []
    groups := ⟨r.items, r.alternatives, r.flags, size⟩ :: r.groups }

/-- Close the innermost group. -/
def Reader.closeGroup (r : Reader) : Option Reader :=
  match r.groups with
  | [] => none
  | group :: groups =>
    let whole := r.whole
    let item : Item := ⟨whole.pattern, whole.depth + 1, whole.size + group.size, whole.bare, true⟩
    some { r with
      flags := group.flags
      items := item :: group.items
      alternatives := group.alternatives
      groups := groups }

/-- Repeat the last part. -/
def Reader.repeat (r : Reader) (min : Nat) (max : Option Nat) : Option Reader :=
  match r.items with
  | item :: items =>
    if item.repeatable then some { r with items := item.repeated min max :: items } else none
  | [] => none

/-- The part that a character stands for. Where case does not matter it stands for all its forms. -/
def charItem (f : Flags) (c : Char) : Item :=
  let folded :=
    if f.anyCase && (f.beyondAscii || c.toNat < 0x80) then (CharSet.single c).fold f.beyondAscii
    else .single c
  ⟨.set folded, 0, stateSize * (Text.Utf8.encodeChar c).length + (if f.anyCase then 64 else 0),
    false, true⟩

/-- The part that a set stands for. -/
def setItem (s : CharSet) (size depth : Nat) : Item := ⟨.set s, depth, 2 * stateSize + size, false, true⟩

/-- The part that a condition stands for. -/
def lookItem (l : Look) : Item := ⟨.look l, 0, stateSize, true, true⟩

/-- The part that a character or an escape stands for. A byte outside ASCII is no character. -/
def atomItem (f : Flags) (a : Atom) : Option Item :=
  match a with
  | .char c byte => if byte && !f.beyondAscii && 0x80 ≤ c.toNat then none else some (charItem f c)
  | .set s size => some (setItem s size 0)
  | .look l => some (lookItem l)

/-- The part that a point stands for: all characters but line ends. -/
def pointItem (f : Flags) : Option Item :=
  if !f.beyondAscii then none
  else
    let members : CharSet :=
      if f.anyChar then .all
      else if f.returns then .ofPred fun c => c ≠ '\n' && c ≠ '\r'
      else .ofPred (· ≠ '\n')
    some (setItem members wideSize 0)

/-- The condition that a circumflex or a dollar sign stands for. -/
def anchor (f : Flags) (start : Bool) : Look :=
  if !f.lines then (if start then .start else .finish)
  else if f.returns then (if start then .returnStart else .returnFinish)
  else if start then .lineStart else .lineFinish

/-- Whether a name may be that of a group. -/
def isGroupName (name : List Char) : Bool :=
  match name with
  | [] => false
  | first :: rest =>
    (first = '_' || Unicode.isLetter first) &&
      rest.all fun c => c ∈ "_.[]".toList || Unicode.isLetter c || Unicode.isNumber c

/-- The room for remembering where a group matched. -/
def groupSize : Nat := 2 * stateSize

/-- A named group behind its opening angle bracket. -/
def Reader.openNamed (r : Reader) (s : List Char) : Option (Reader × List Char) :=
  let name := s.takeWhile (· ≠ '>')
  match s.dropWhile (· ≠ '>') with
  | _ :: rest =>
    if isGroupName name && !r.names.contains name then
      some ({ r with names := name :: r.names }.openGroup r.flags groupSize, rest)
    else none
  | [] => none

/-- The flags behind a question mark, for the rest of the group or for a group of their own. -/
def Reader.openFlags (r : Reader) (s : List Char) : Option (Reader × List Char) :=
  let isEnd (c : Char) : Bool := c = ':' || c = ')'
  let letters := s.takeWhile (!isEnd ·)
  match s.dropWhile (!isEnd ·), r.flags.putAll [] letters with
  | ':' :: rest, some flags => some (r.openGroup flags 0, rest)
  | ')' :: rest, some flags =>
    if letters.isEmpty then none else some ({ r with flags := flags }.push .nothing, rest)
  | _, _ => none

/-- What an opening parenthesis stands for: a group, or flags. Looking around is not possible. -/
def Reader.openParenthesis (r : Reader) (s : List Char) : Option (Reader × List Char) :=
  match r.flags.skip s with
  | '?' :: '=' :: _ | '?' :: '!' :: _ | '?' :: '<' :: '=' :: _ | '?' :: '<' :: '!' :: _ => none
  | '?' :: 'P' :: '<' :: rest | '?' :: '<' :: rest => r.openNamed rest
  | '?' :: rest => r.openFlags rest
  | rest => some (r.openGroup r.flags groupSize, rest)

/-- The greatest number of repetitions. -/
def greatestCount : Nat := 0xffffffff

/-- A number of repetitions, with blanks around it. -/
def readCount (s : List Char) : Option Nat :=
  (Text.ofDigits? 10 (Text.trim s)).filter (· ≤ greatestCount)

/-- The least and the greatest number of repetitions between braces. -/
def readCounts (s : List Char) : Option (Nat × Option Nat) :=
  match Text.splitOn ',' s with
  | [only] => (readCount only).map fun n => (n, some n)
  | [least, []] => (readCount least).map fun n => (n, none)
  | [least, greatest] =>
    match readCount least, readCount greatest with
    | some m, some n => if m ≤ n then some (m, some n) else none
    | _, _ => none
  | _ => none

/-- What follows a question mark that prefers short matches. -/
def dropLazy (s : List Char) : List Char := if s.head? = some '?' then s.drop 1 else s

/-- Read one sign. -/
def Reader.step (r : Reader) (c : Char) (rest : List Char) : Option (Reader × List Char) :=
  let repeated (min : Nat) (max : Option Nat) :=
    (r.repeat min max).map fun r => (r, dropLazy rest)
  match c with
  | '(' => r.openParenthesis rest
  | ')' => r.closeGroup.map fun r => (r, rest)
  | '|' => some (r.nextAlternative, rest)
  | '?' => repeated 0 (some 1)
  | '*' => repeated 0 none
  | '+' => repeated 1 none
  | '\x7b' => do
    let (counts, rest) ← r.flags.braced rest
    let (min, max) ← readCounts counts
    let r ← r.repeat min max
    return (r, dropLazy (r.flags.skip rest))
  | '[' => do
    let (m, rest) ← readBracket r.flags rest
    return (r.push (setItem m.set m.size m.depth), rest)
  | '.' => (pointItem r.flags).map fun item => (r.push item, rest)
  | '^' => some (r.push (lookItem (anchor r.flags true)), rest)
  | '$' => some (r.push (lookItem (anchor r.flags false)), rest)
  | c => do
    let (a, rest) ← readAtom r.flags (c :: rest)
    let item ← atomItem r.flags a
    return (r.push item, rest)

/-- Read to the end. Each step reads a character at least, so that `fuel` steps suffice for as many
characters. -/
def Reader.run : (fuel : Nat) → Reader → List Char → Option Reader
  | 0, _, _ => none
  | fuel + 1, r, s =>
    match r.flags.skip s with
    | [] => some r
    | c :: rest =>
      match r.step c rest with
      | some (r, rest) => Reader.run fuel r rest
      | none => none

/-- How deep a pattern may be nested. -/
def deepest : Nat := 250

/-- The room that the automaton for a pattern may take. -/
def largest : Nat := 10 * 0x100000

/-- The pattern that a text writes. -/
def read (source : List Char) : Option Pattern :=
  match Reader.run (source.length + 1) .start source with
  | some r =>
    let whole := r.whole
    if r.groups.isEmpty && whole.depth ≤ deepest && whole.size ≤ largest then some whole.pattern
    else none
  | none => none

end Detour.Pattern
