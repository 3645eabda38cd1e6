import Detour.Text.Numeral
import Detour.Text.Split
/-!
# Addresses of four bytes

An address is a number below 2^32, shown as its four bytes in base ten. `parseDotted` reads only
this form. `parseLoose` reads every form that stands for an address in a host: one to four numbers
in base ten, eight or sixteen, of which the last one fills all bytes that are left.
-/

namespace Detour.Address.Ipv4

/-- The four bytes in base ten, with points between them. -/
def text (n : Nat) : List Char :=
  Text.joinWith '.'
    ([n / 0x1000000, n / 0x10000 % 0x100, n / 0x100 % 0x100, n % 0x100].map Text.decimal)

/-- A byte in base ten without leading zeros. -/
def parseByte (s : List Char) : Option Nat :=
  if s.length ≤ 3 && !(s.head? = some '0' && 1 < s.length) then
    (Text.ofDigits? 10 s).filter (· ≤ 255)
  else none

/-- An address written as four bytes. -/
def parseDotted (s : List Char) : Option Nat :=
  match (Text.splitOn '.' s).mapM parseByte with
  | some [a, b, c, d] => some (((a * 0x100 + b) * 0x100 + c) * 0x100 + d)
  | _ => none

/-- A number in a host: in base sixteen behind `0x`, in base eight behind `0`, else in base ten. No
digit at all behind `0x` is zero. -/
def parseNumber (s : List Char) : Option Nat :=
  match s with
  | [] => none
  | '0' :: 'x' :: digits | '0' :: 'X' :: digits => Text.digitsFrom? 16 0 digits
  | ['0'] => some 0
  | '0' :: digits => Text.digitsFrom? 8 0 digits
  | digits => Text.digitsFrom? 10 0 digits

/-- The parts of a host between its points, without an empty last one. -/
def parts (s : List Char) : List (List Char) :=
  let pieces := Text.splitOn '.' s
  if pieces.getLast? = some [] then pieces.dropLast else pieces

/-- Whether a host must be an address, because its last part is a number. -/
def endsInNumber (s : List Char) : Bool :=
  match (parts s).getLast? with
  | some last => (!last.isEmpty && last.all (Text.isDigit 10)) || (parseNumber last).isSome
  | none => false

/-- How many numbers the bytes behind the first `count` can hold. -/
def room : (count : Nat) → Nat
  | 0 => 0x100000000
  | 1 => 0x1000000
  | 2 => 0x10000
  | 3 => 0x100
  | _ => 1

/-- The address that numbers write, given the `value` and the `count` of the bytes before them. -/
def combine (value count : Nat) : List Nat → Option Nat
  | [] => none
  | [last] => if last < room count then some (value * room count + last) else none
  | n :: rest => if n < 0x100 ∧ count < 3 then combine (value * 0x100 + n) (count + 1) rest else none

/-- The address that a host stands for. -/
def parseLoose (s : List Char) : Option Nat :=
  match (parts s).mapM parseNumber with
  | some numbers => combine 0 0 numbers
  | none => none

end Detour.Address.Ipv4
