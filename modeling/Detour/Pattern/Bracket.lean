import Detour.Pattern.Escape
/-!
# Sets in brackets

A set in brackets lists characters, ranges, other sets and sets in brackets of its own. It may be
turned around by a circumflex in front, and two lists may be joined by `&&`, `--` or `~~` to what is
in both, in the first only, or in one of them only. Such signs are read from left to right.
-/

namespace Detour.Pattern

/-- A set while a pattern is read. -/
structure Members where
  /-- The set. -/
  set : CharSet
  /-- The room that an automaton for it takes. -/
  size : Nat
  /-- How deep its parts are nested. -/
  depth : Nat

/-- A list of sets, joined so far. -/
structure Union where
  /-- The members of all sets. -/
  set : CharSet
  /-- The room that automata for them take. -/
  size : Nat
  /-- How many sets were listed. -/
  count : Nat
  /-- The depth of the deepest set. -/
  depth : Nat

/-- The list without sets. -/
def Union.start : Union := ⟨.empty, 0, 0, 0⟩

/-- Add a set to a list. -/
def Union.add (u : Union) (m : Members) : Union :=
  ⟨u.set.union m.set, u.size + m.size, u.count + 1, max u.depth m.depth⟩

/-- The set that a list stands for; a list of several sets is one level deeper than they are. -/
def Union.close (u : Union) : Members := ⟨u.set, u.size, if u.count ≤ 1 then u.depth else u.depth + 1⟩

/-- How two lists are joined. -/
inductive Junction where
  | both
  | firstOnly
  | oneOnly

/-- Join two sets; letters get all their forms before where case does not matter. -/
def Junction.join (j : Junction) (f : Flags) (a b : Members) : Members :=
  let fold (s : CharSet) := if f.anyCase then s.fold f.beyondAscii else s
  let joined := match j with
    | .both => (fold a.set).inter (fold b.set)
    | .firstOnly => (fold a.set).diff (fold b.set)
    | .oneOnly => (fold a.set).symmDiff (fold b.set)
  let size := match j with
    | .both => min a.size b.size
    | _ => a.size + b.size
  ⟨joined, size, max a.depth b.depth + 1⟩

/-- What is open while a set in brackets is read. -/
inductive Frame where
  /-- An opening bracket, whether its set is turned around, and the list that it stands in. -/
  | bracket (negated : Bool) (outer : Union)
  /-- A sign that joins a set to what follows. -/
  | junction (j : Junction) (first : Members)

/-- Carry out the junction that is open, if one is. -/
def joinOpen (f : Flags) (m : Members) : List Frame → Members × List Frame
  | .junction j first :: stack => (j.join f first m, stack)
  | stack => (m, stack)

/-- The least room of a set that is not bounded by ASCII. -/
def wideSize : Nat := 424

/-- The set between brackets, completed and turned around. -/
def closeBracket (f : Flags) (negated : Bool) (m : Members) : Option Members :=
  (f.complete negated m.set).map fun s =>
    ⟨s, if negated then max m.size wideSize else m.size, m.depth + 1⟩

/-- The sets of ASCII characters that have a name. -/
def asciiSet (name : List Char) : Option CharSet :=
  let isGraphic (c : Char) : Bool := '!' ≤ c && c ≤ '~'
  let isPunctuation (c : Char) : Bool := isGraphic c && !c.isAlphanum
  let hold : Option (Char → Bool) :=
    match String.ofList name with
    | "alnum" => some Char.isAlphanum
    | "alpha" => some Char.isAlpha
    | "ascii" => some fun _ => true
    | "blank" => some fun c => c = ' ' || c = '\t'
    | "cntrl" => some fun c => c.toNat < 0x20 || c.toNat = 0x7f
    | "digit" => some Char.isDigit
    | "graph" => some isGraphic
    | "lower" => some Char.isLower
    | "print" => some fun c => c = ' ' || isGraphic c
    | "punct" => some isPunctuation
    | "space" => some Text.isBlank
    | "upper" => some Char.isUpper
    | "word" => some isWord
    | "xdigit" => some (Text.isDigit 16)
    | _ => none
  hold.map fun holds => .ofPred fun c => c.toNat < 128 && holds c

/-- A named set behind an opening bracket, whether it is turned around, and what follows it. -/
def readNamed (s : List Char) : Option (Bool × CharSet × List Char) :=
  match s with
  | ':' :: rest =>
    let negated := rest.head? = some '^'
    let rest := if negated then rest.drop 1 else rest
    match rest.dropWhile (· ≠ ':') with
    | ':' :: ']' :: after =>
      (asciiSet (rest.takeWhile (· ≠ ':'))).map fun s => (negated, s, after)
    | _ => none
  | _ => none

/-- The character that one in brackets stands for. Without characters beyond ASCII there are none. -/
def memberChar (f : Flags) (a : Atom) : Option Char :=
  match a with
  | .char c _ => if f.beyondAscii || c.toNat < 0x80 then some c else none
  | _ => none

/-- The room for the characters of a range. -/
def rangeSize (first last : Char) : Nat :=
  if last.toNat < 0x80 then 8 else if first = last then 32 * (Text.Utf8.encodeChar last).length
  else 300

/-- The set that one item in brackets stands for. -/
def memberSet (f : Flags) (a : Atom) : Option Members :=
  match a with
  | .set s size => some ⟨s, size, 0⟩
  | a => (memberChar f a).map fun c => ⟨.single c, rangeSize c c, 0⟩

/-- An item in brackets: a character, a set or a range. -/
def readMember (f : Flags) (s : List Char) : Option (Members × List Char) := do
  let (first, rest) ← readAtom f s
  match f.skip rest with
  | [] => none
  | '-' :: after =>
    let next := f.skip after
    if next.head? = some ']' || next.head? = some '-' then
      return (← memberSet f first, '-' :: after)
    else
      let (last, rest) ← readAtom f next
      let a ← memberChar f first
      let b ← memberChar f last
      if a ≤ b then return (⟨.range a b, rangeSize a b, 0⟩, rest) else none
  | rest => return (← memberSet f first, rest)

/-- The members of a list and of what is open around it. At the `opening` of a bracket hyphens stand
for themselves, and so does a closing bracket if it comes first. Each step reads a character at
least, so that `fuel` steps suffice for as many characters. -/
def readMembers (f : Flags) : (fuel : Nat) → (opening : Bool) → List Frame → Union → List Char →
    Option (Members × List Char)
  | 0, _, _, _, _ => none
  | fuel + 1, opening, stack, u, s =>
    let connect (j : Junction) (rest : List Char) :=
      let (first, stack) := joinOpen f u.close stack
      readMembers f fuel false (.junction j first :: stack) .start rest
    let literal (c : Char) : Members := ⟨.single c, 8, 0⟩
    match f.skip s, opening with
    | [], _ => none
    | '-' :: rest, true => readMembers f fuel true stack (u.add (literal '-')) rest
    | ']' :: rest, opening =>
      if opening && u.count = 0 then readMembers f fuel false stack (u.add (literal ']')) rest
      else
        match joinOpen f u.close stack with
        | (m, .bracket negated outer :: stack) =>
          match closeBracket f negated m with
          | none => none
          | some m =>
            if stack.isEmpty then some (m, rest)
            else readMembers f fuel false stack (outer.add m) rest
        | _ => none
    | '[' :: rest, _ =>
      match readNamed rest with
      | some (negated, named, after) =>
        match f.complete negated named with
        | some s => readMembers f fuel false stack (u.add ⟨s, 40, 0⟩) after
        | none => none
      | none =>
        match f.skip rest with
        | '^' :: rest => readMembers f fuel true (.bracket true u :: stack) .start rest
        | rest => readMembers f fuel true (.bracket false u :: stack) .start rest
    | '&' :: '&' :: rest, _ => connect .both rest
    | '-' :: '-' :: rest, _ => connect .firstOnly rest
    | '~' :: '~' :: rest, _ => connect .oneOnly rest
    | s, _ =>
      match readMember f s with
      | some (m, rest) => readMembers f fuel false stack (u.add m) rest
      | none => none

/-- The set behind an opening bracket. -/
def readBracket (f : Flags) (s : List Char) : Option (Members × List Char) :=
  let fuel := s.length + 1
  match f.skip s with
  | '^' :: rest => readMembers f fuel true [.bracket true .start] .start rest
  | rest => readMembers f fuel true [.bracket false .start] .start rest

end Detour.Pattern
