import Detour.Pattern.Basic
import Detour.Pattern.Flags
import Detour.Pattern.Property
import Detour.Text.Numeral
import Detour.Text.Utf8
/-!
# Escapes in patterns

A backslash makes a character stand for itself, or gives it a meaning: a character by its code, a set
of characters, or a condition on a place.
-/

namespace Detour.Pattern

/-- What one place of a pattern stands for. -/
inductive Atom where
  /-- A character; `byte` tells whether two digits wrote it, as they write a byte. -/
  | char (c : Char) (byte : Bool)
  /-- A set of characters, with the room that an automaton for it takes. -/
  | set (s : CharSet) (size : Nat)
  /-- A condition on a place. -/
  | look (l : Look)

/-- The characters up to a closing brace, without those that mean nothing, and what follows the brace.
The characters before are in `done`, last one first. -/
def bracedFrom (layout inComment : Bool) (done : List Char) :
    List Char → Option (List Char × List Char)
  | [] => none
  | c :: rest =>
    if layout && inComment then bracedFrom layout (c ≠ '\n') done rest
    else if layout && Text.isBlank c then bracedFrom layout false done rest
    else if layout && c = '#' then bracedFrom layout true done rest
    else if c = '\x7d' then some (done.reverse, rest)
    else bracedFrom layout false (c :: done) rest

/-- The characters up to a closing brace, and what follows it. -/
def Flags.braced (f : Flags) (s : List Char) : Option (List Char × List Char) :=
  bracedFrom f.layout false [] s

/-- The character with a code. -/
def charOfCode (code : Nat) : Option Char := if code.isValidChar then some (Char.ofNat code) else none

/-- A number of digits in base sixteen; those before are in `done`, last one first. -/
def readCode (f : Flags) (done : List Char) : Nat → List Char → Option (List Char × List Char)
  | 0, s => some (done.reverse, s)
  | count + 1, s =>
    match f.skip s with
    | c :: rest => if Text.isDigit 16 c then readCode f (c :: done) count rest else none
    | [] => none

/-- A character by its code: between braces, or with `count` digits. -/
def readCodeChar (f : Flags) (count : Nat) (s : List Char) : Option (Atom × List Char) := do
  let (digits, rest, byte) ←
    match f.skip s with
    | '\x7b' :: rest => (f.braced rest).map fun (digits, rest) => (digits, rest, false)
    | s => (readCode f [] count s).map fun (digits, rest) => (digits, rest, count = 2)
  let c ← (Text.ofDigits? 16 digits).bind charOfCode
  return (.char c byte, rest)

/-- Complete a set with the forms of its letters, and turn it around, as flags ask for. Without
characters beyond ASCII no set may be turned around, for what it then held would not be text. -/
def Flags.complete (f : Flags) (negated : Bool) (s : CharSet) : Option CharSet :=
  let folded := if f.anyCase then s.fold f.beyondAscii else s
  if !negated then some folded else if f.beyondAscii then some folded.compl else none

/-- The property that a name between braces stands for, and whether it is turned around. -/
def namedProperty (name : List Char) : Option (Property × Bool) :=
  let before (stop : List Char) := name.take (name.length - stop.length)
  let rec notEqual : List Char → Option (List Char)
    | '!' :: '=' :: rest => some ('!' :: '=' :: rest)
    | _ :: rest => notEqual rest
    | [] => none
  match notEqual name with
  | some rest => (valueProperty? (before rest) (rest.drop 2)).map fun p => (p, true)
  | none =>
    let mark := if ':' ∈ name then ':' else '='
    match name.dropWhile (· ≠ mark) with
    | _ :: value => (valueProperty? (name.takeWhile (· ≠ mark)) value).map fun p => (p, false)
    | [] => (property? name).map fun p => (p, false)

/-- The characters with a property: behind a letter `p`, a name between braces or of one letter. -/
def readProperty (f : Flags) (negated : Bool) (s : List Char) : Option (Atom × List Char) := do
  let (name, rest) ←
    match f.skip s with
    | '\x7b' :: rest => f.braced rest
    | '\\' :: _ => none
    | c :: rest => some ([c], rest)
    | [] => none
  let (property, turned) ← namedProperty name
  if !f.beyondAscii then none
  let members ← f.complete (negated != turned) property.members
  return (.set members property.size, rest)

/-- The digits, the blanks or the characters of words, by their letter. -/
def classOfLetter (f : Flags) (letter : Char) : CharSet × Nat :=
  if letter = 'd' then (.ofPred Char.isDigit, 1584)
  else if letter = 's' then (.ofPred fun c => c.toNat < 128 && Text.isBlank c, 424)
  else (.ofPred fun c => isWord c || (f.beyondAscii && 128 ≤ c.toNat), 20376)

/-- The condition that a name between braces stands for. -/
def namedLook (name : List Char) : Option Look :=
  if name = "start".toList then some .wordStart
  else if name = "end".toList then some .wordFinish
  else if name = "start-half".toList then some .noWordBefore
  else if name = "end-half".toList then some .noWordAfter
  else none

/-- The condition behind a letter `b`: the edge of a word, or one that a name between braces says. A
brace without a name counts repetitions. -/
def readEdge (f : Flags) (s : List Char) : Option (Atom × List Char) :=
  match s with
  | '\x7b' :: rest =>
    match f.skip rest with
    | [] => none
    | c :: _ =>
      if c.isAlpha || c = '-' then do
        let (name, after) ← f.braced rest
        let l ← namedLook name
        return (.look l, after)
      else some (.look .word, s)
  | _ => some (.look .word, s)

/-- What stands behind a backslash. -/
def readEscape (f : Flags) (s : List Char) : Option (Atom × List Char) :=
  match s with
  | [] => none
  | c :: rest =>
    match c with
    | 'x' => readCodeChar f 2 rest
    | 'u' => readCodeChar f 4 rest
    | 'U' => readCodeChar f 8 rest
    | 'p' => readProperty f false rest
    | 'P' => readProperty f true rest
    | 'd' | 's' | 'w' => let (known, size) := classOfLetter f c; some (.set known size, rest)
    | 'D' | 'S' | 'W' =>
      let (known, size) := classOfLetter f c.toLower
      if f.beyondAscii then some (.set known.compl size, rest) else none
    | 'a' => some (.char '\x07' false, rest)
    | 'f' => some (.char '\x0c' false, rest)
    | 't' => some (.char '\t' false, rest)
    | 'n' => some (.char '\n' false, rest)
    | 'r' => some (.char '\r' false, rest)
    | 'v' => some (.char '\x0b' false, rest)
    | 'A' => some (.look .start, rest)
    | 'z' => some (.look .finish, rest)
    | 'b' => readEdge f rest
    | 'B' => some (.look .noWord, rest)
    | '<' => some (.look .wordStart, rest)
    | '>' => some (.look .wordFinish, rest)
    | c => if c.toNat < 0x80 && !c.isAlphanum then some (.char c false, rest) else none

/-- What the next character stands for, a backslash together with what follows it. -/
def readAtom (f : Flags) (s : List Char) : Option (Atom × List Char) :=
  match s with
  | [] => none
  | '\\' :: rest => readEscape f rest
  | c :: rest => some (.char c false, rest)

end Detour.Pattern
