import Detour.Unicode.CombiningClass
import Detour.Unicode.Composition
/-!
# The composed normal form

Texts that differ only in how marks are attached to letters have one composed form: take all
characters apart, put the marks of each letter in the order of their classes, and compose again
what is adjacent or separated only by marks of lower classes. Characters that stand for a single
other one are not known here; the mapping of domain names has replaced them.
-/

namespace Detour.Unicode

/-- Take a character apart into its first part and what follows it. No chain of first parts is longer
than `fuel`. -/
def takeApart (fuel : Nat) (c : Char) (after : List Char) : List Char :=
  match fuel with
  | 0 => c :: after
  | fuel + 1 =>
    match parts? c.toNat with
    | some (a, b) => takeApart fuel (Char.ofNat a) (Char.ofNat b :: after)
    | none => c :: after

/-- The characters that a text is composed of. -/
def decompose (s : List Char) : List Char := s.flatMap fun c => takeApart 8 c []

/-- Put a mark behind the marks of its class and of lower ones. The text is given last character
first. -/
def insertMark (c : Char) : List Char → List Char
  | [] => [c]
  | d :: before =>
    if combiningClass c < combiningClass d then d :: insertMark c before else c :: d :: before

/-- Put the marks of each letter in the order of their classes; marks of one class keep their
order. The part that is in order is in `done`, last character first. -/
def orderFrom (done : List Char) : List Char → List Char
  | [] => done.reverse
  | c :: rest =>
    if combiningClass c = 0 then orderFrom (c :: done) rest
    else orderFrom (insertMark c done) rest

/-- Put the marks of each letter in the order of their classes. -/
def order (s : List Char) : List Char := orderFrom [] s

/-- Whether a character is kept from the letter by the marks between them, last one first. -/
def isBlocked (c : Char) : List Char → Bool
  | [] => false
  | mark :: _ => combiningClass c ≤ combiningClass mark

/-- Compose from a letter on. The finished text is in `done` and the marks of the letter in `marks`,
both last character first. -/
def composeFrom (done : List Char) (letter : Char) (marks : List Char) : List Char → List Char
  | [] => (marks ++ letter :: done).reverse
  | c :: rest =>
    match if isBlocked c marks then none else compose? letter.toNat c.toNat with
    | some n => composeFrom done (Char.ofNat n) marks rest
    | none =>
      if combiningClass c = 0 then composeFrom (marks ++ letter :: done) c [] rest
      else composeFrom done letter (c :: marks) rest

/-- Compose a text; the marks in front of its first letter are in `done`, last one first. -/
def composeStart (done : List Char) : List Char → List Char
  | [] => done.reverse
  | c :: rest =>
    if combiningClass c = 0 then composeFrom done c [] rest else composeStart (c :: done) rest

/-- The composed form of a text. -/
def compose (s : List Char) : List Char := composeStart [] (order (decompose s))

end Detour.Unicode
