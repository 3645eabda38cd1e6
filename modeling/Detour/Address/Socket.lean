import Detour.Address.Ipv6
/-!
# Addresses with a port

The two kinds of addresses, each with the port behind a colon. An address of eight groups stands
between brackets there, and may name a zone of its own behind a percent sign. Main statement: a port that is
read is below 2^16.
-/

namespace Detour.Address

/-- An address with a port. -/
inductive Socket where
  /-- An address of four bytes. -/
  | four (address port : Nat)
  /-- An address of eight groups, with the number of its zone. -/
  | eight (groups : List Nat) (zone port : Nat)
  deriving DecidableEq, Repr

namespace Socket

/-- The number that digits write, if it is not greater than the given one. -/
def number? (most : Nat) (s : List Char) : Option Nat := (Text.ofDigits? 10 s).filter (· ≤ most)

/-- A port behind its colon. -/
def port? : List Char → Option Nat
  | ':' :: digits => number? 65535 digits
  | _ => none

/-- An address of four bytes with its port. -/
def parseFour (s : List Char) : Option Socket :=
  match Ipv4.parseDotted (s.takeWhile (· ≠ ':')), port? (s.dropWhile (· ≠ ':')) with
  | some address, some port => some (.four address port)
  | _, _ => none

/-- The number of a zone behind its percent sign; zero if there is none. -/
def zone? : List Char → Option Nat
  | [] => some 0
  | _ :: digits => number? 4294967295 digits

/-- An address of eight groups with its port, behind the opening bracket. -/
def parseEight (s : List Char) : Option Socket :=
  let inner := s.takeWhile (· ≠ ']')
  let groups := inner.takeWhile (· ≠ '%')
  match Ipv6.parse groups, zone? (inner.drop groups.length), port? (s.drop (inner.length + 1)) with
  | some groups, some zone, some port => some (.eight groups zone port)
  | _, _, _ => none

/-- An address with a port. -/
def parse : List Char → Option Socket
  | '[' :: rest => parseEight rest
  | s => parseFour s

/-- The groups of an address. One that stands for an address of four bytes is shown with those. -/
def groupsText (groups : List Nat) : List Char :=
  match groups with
  | [0, 0, 0, 0, 0, 0xffff, high, low] =>
    "::ffff:".toList ++ Ipv4.text (high * 0x10000 + low)
  | _ => Ipv6.text groups

/-- An address with its port. A zone is shown unless it is zero. -/
def text : Socket → List Char
  | .four address port => Ipv4.text address ++ ':' :: Text.decimal port
  | .eight groups zone port =>
    '[' :: groupsText groups ++ (if zone = 0 then [] else '%' :: Text.decimal zone) ++
      ']' :: ':' :: Text.decimal port

/-- Whether an address is that of a group of machines, which nothing can be served at. -/
def isGroup : Socket → Bool
  | .eight (first :: _) _ _ => first / 0x100 = 0xff
  | _ => false

/-- Every port that is read is one. -/
theorem port?_le {s : List Char} {n : Nat} (h : port? s = some n) : n ≤ 65535 := by
  unfold port? at h
  split at h
  · simp only [number?, Option.filter_eq_some_iff, decide_eq_true_eq] at h
    exact h.2
  · cases h

end Socket

end Detour.Address
