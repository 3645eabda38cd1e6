/-!
# Numerals

Numbers written with digits in a base up to sixteen, letters in either case where a base needs
them. `ofDigits?` reads a numeral and `decimal` and `hexadecimal` write one.
-/

namespace Detour.Text

/-- The value of a digit in a base up to sixteen. -/
def digit? (base : Nat) (c : Char) : Option Nat :=
  let value :=
    if '0' ≤ c ∧ c ≤ '9' then c.toNat - 48
    else if 'a' ≤ c ∧ c ≤ 'f' then c.toNat - 87
    else if 'A' ≤ c ∧ c ≤ 'F' then c.toNat - 55
    else base
  if value < base then some value else none

/-- Whether a character is a digit in a base. -/
def isDigit (base : Nat) (c : Char) : Bool := (digit? base c).isSome

/-- The number that digits write behind the number `n`. -/
def digitsFrom? (base n : Nat) : List Char → Option Nat
  | [] => some n
  | c :: rest =>
    match digit? base c with
    | some d => digitsFrom? base (n * base + d) rest
    | none => none

/-- The number that a numeral writes. -/
def ofDigits? (base : Nat) (s : List Char) : Option Nat :=
  if s.isEmpty then none else digitsFrom? base 0 s

/-- A number in base ten. -/
def decimal (n : Nat) : List Char := Nat.toDigits 10 n

/-- A number in base sixteen, with small letters. -/
def hexadecimal (n : Nat) : List Char := Nat.toDigits 16 n

/-- The two hexadecimal digits of a byte, with capital letters. -/
def byteDigits (n : Nat) : List Char :=
  ((Nat.toDigits 16 (n / 16)) ++ (Nat.toDigits 16 (n % 16))).map Char.toUpper

end Detour.Text
