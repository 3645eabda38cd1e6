import Detour.Bits
/-!
# Sets of characters

Patterns are compared with the text of URLs, which is ASCII. A set of characters therefore says of
each ASCII character whether it belongs to it. It says so as well of the two characters beyond
ASCII that are a capital or a small form of an ASCII letter, because a set may name one of them and
mean the letter where case does not matter.
-/

namespace Detour.Pattern

/-- The long s, a small form of the letter S. -/
def longS : Char := '\u017f'

/-- The sign for kelvins, a capital form of the letter K. -/
def kelvin : Char := '\u212a'

/-- The characters that a set knows. -/
def known : List Char := (List.range 128).map Char.ofNat ++ [longS, kelvin]

/-- The place of a character among those that a set knows. -/
def place? (c : Char) : Option Nat :=
  if c.toNat < 128 then some c.toNat
  else if c = longS then some 128
  else if c = kelvin then some 129
  else none

/-- A set of characters. -/
structure CharSet where
  /-- The places of its members. -/
  bits : Nat
  deriving DecidableEq, Repr

namespace CharSet

/-- Whether a character belongs to a set. -/
def has (s : CharSet) (c : Char) : Bool := (place? c).any s.bits.testBit

/-- The set of the characters for which a condition holds. -/
def ofPred (holds : Char → Bool) : CharSet := ⟨Bits.ofList holds known⟩

/-- The set without members. -/
def empty : CharSet := ⟨0⟩

/-- The set of all characters. -/
def all : CharSet := ⟨Bits.below 130⟩

/-- The set of one character. -/
def single (c : Char) : CharSet :=
  match place? c with
  | some i => ⟨1 <<< i⟩
  | none => empty

/-- The set of the characters between two. -/
def range (first last : Char) : CharSet := ofPred fun c => first ≤ c && c ≤ last

/-- The members of either set. -/
def union (s t : CharSet) : CharSet := ⟨s.bits ||| t.bits⟩

/-- The members of both sets. -/
def inter (s t : CharSet) : CharSet := ⟨s.bits &&& t.bits⟩

/-- The members of one set but not both. -/
def symmDiff (s t : CharSet) : CharSet := ⟨s.bits ^^^ t.bits⟩

/-- The characters that do not belong to a set. -/
def compl (s : CharSet) : CharSet := all.symmDiff s

/-- The members of the first set that do not belong to the second. -/
def diff (s t : CharSet) : CharSet := s.inter t.compl

/-- The other forms of a letter: capital, small and, where characters beyond ASCII count, the two
beyond. -/
def otherForms (beyondAscii : Bool) (c : Char) : List Char :=
  let more :=
    if !beyondAscii then []
    else if c = 's' ∨ c = 'S' then [longS]
    else if c = 'k' ∨ c = 'K' then [kelvin]
    else if c = longS then ['s', 'S']
    else if c = kelvin then ['k', 'K']
    else []
  if c.isUpper then c.toLower :: more else if c.isLower then c.toUpper :: more else more

/-- A set with all forms of the letters in it. -/
def fold (beyondAscii : Bool) (s : CharSet) : CharSet :=
  ofPred fun c => s.has c || (otherForms beyondAscii c).any s.has

/-- Membership in a union. -/
@[simp] theorem has_union (s t : CharSet) (c : Char) : (s.union t).has c = (s.has c || t.has c) := by
  cases h : place? c <;> simp [has, union, h]

/-- Membership in an intersection. -/
@[simp] theorem has_inter (s t : CharSet) (c : Char) : (s.inter t).has c = (s.has c && t.has c) := by
  cases h : place? c <;> simp [has, inter, h]

/-- Nothing belongs to the empty set. -/
@[simp] theorem has_empty (c : Char) : empty.has c = false := by
  cases h : place? c <;> simp [has, empty, h]

/-- The place of an ASCII character is its code. -/
theorem place?_of_ascii {c : Char} (h : c.toNat < 128) : place? c = some c.toNat := by
  simp [place?, h]

/-- Among ASCII characters, only the character itself belongs to its set. -/
theorem has_single_of_ascii {c d : Char} (hc : c.toNat < 128) (hd : d.toNat < 128) :
    (single c).has d = decide (c = d) := by
  simp only [single, has, place?_of_ascii hc, place?_of_ascii hd, Option.any_some,
    Nat.one_shiftLeft, Nat.testBit_two_pow]
  exact decide_eq_decide.2 ⟨fun h => Char.toNat_inj.1 h, fun h => h ▸ rfl⟩

end CharSet

end Detour.Pattern
