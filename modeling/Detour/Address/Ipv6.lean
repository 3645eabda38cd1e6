import Detour.Address.Ipv4
/-!
# Addresses of eight groups

An address has eight groups of sixteen bits. It is written with its groups in base sixteen and
colons between them; one `::` may stand for one or more groups that are zero, and the last two
groups may be written as an address of four bytes.
-/

namespace Detour.Address.Ipv6

/-- A group: one to four digits in base sixteen. -/
def parseGroup (s : List Char) : Option Nat :=
  if s.length ≤ 4 then Text.ofDigits? 16 s else none

/-- Groups with colons between them, the last two possibly as an address of four bytes. -/
def parseGroups : List (List Char) → Option (List Nat)
  | [] => some []
  | [last] =>
    match parseGroup last with
    | some group => some [group]
    | none =>
      match Ipv4.parseDotted last with
      | some n => some [n / 0x10000, n % 0x10000]
      | none => none
  | s :: rest =>
    match parseGroup s, parseGroups rest with
    | some group, some groups => some (group :: groups)
    | _, _ => none

/-- The groups on one side of `::`, where none at all may stand. -/
def parseSide (s : List Char) : Option (List Nat) :=
  if s.isEmpty then some [] else parseGroups (Text.splitOn ':' s)

/-- The texts before and behind the first `::`; what comes before the text is in `before`, last
character first. -/
def splitGapFrom (before : List Char) : List Char → Option (List Char × List Char)
  | [] => none
  | [_] => none
  | ':' :: ':' :: after => some (before.reverse, after)
  | c :: rest => splitGapFrom (c :: before) rest

/-- The texts before and behind the first `::`. -/
def splitGap (s : List Char) : Option (List Char × List Char) := splitGapFrom [] s

/-- The groups of an address. -/
def parse (s : List Char) : Option (List Nat) :=
  match splitGap s with
  | none => (parseGroups (Text.splitOn ':' s)).filter (·.length = 8)
  | some (front, back) =>
    if '.' ∈ front then none
    else match parseSide front, parseSide back with
      | some before, some after =>
        if before.length + after.length < 8 then
          some (before ++ List.replicate (8 - before.length - after.length) 0 ++ after)
        else none
      | _, _ => none

/-- How many zeros a list of groups starts with. -/
def zerosAhead (groups : List Nat) : Nat := (groups.takeWhile (· = 0)).length

/-- Where the longest row of zeros starts, the first of them if there are several, and its length. A
row that starts before `index` is given as `best`. -/
def longestZerosFrom (index : Nat) (best : Nat × Nat) : List Nat → Nat × Nat
  | [] => best
  | group :: rest =>
    let here := zerosAhead (group :: rest)
    longestZerosFrom (index + 1) (if best.2 < here then (index, here) else best) rest

/-- Where the longest row of zeros starts, and its length. -/
def longestZeros (groups : List Nat) : Nat × Nat := longestZerosFrom 0 (0, 0) groups

/-- Groups in base sixteen with colons between them. -/
def groupsText (groups : List Nat) : List Char :=
  Text.joinWith ':' (groups.map Text.hexadecimal)

/-- The groups of an address, with `::` for the longest row of at least two zeros. -/
def text (groups : List Nat) : List Char :=
  let (start, count) := longestZeros groups
  if count < 2 then groupsText groups
  else groupsText (groups.take start) ++ "::".toList ++ groupsText (groups.drop (start + count))

end Detour.Address.Ipv6
