/-!
# Punycode

A label outside ASCII is written with ASCII characters: those of the label that are ASCII come first,
and the others are given, in ascending order, by the number of steps from one to the next. A step
moves to the next place in the label and, from its end, to its start and the next code point. Numbers
are written with 36 digits, least digit first; a digit below its threshold ends the number. The
thresholds follow a bias that adapts to the numbers seen before.
-/

namespace Detour.Domain.Punycode

/-- The digit of a character: small letters, then decimal digits. -/
def digit? (c : Char) : Option Nat :=
  let n := c.toNat
  if 97 ≤ n ∧ n ≤ 122 then some (n - 97)
  else if 48 ≤ n ∧ n ≤ 57 then some (n - 48 + 26)
  else none

/-- The character of a digit. -/
def digitChar (d : Nat) : Char := if d < 26 then Char.ofNat (97 + d) else Char.ofNat (48 + (d - 26))

/-- A digit reads back. -/
theorem digit?_digitChar {d : Nat} (h : d < 36) : digit? (digitChar d) = some d := by
  have all : ∀ e ∈ List.range 36, digit? (digitChar e) = some e := by decide
  exact all d (List.mem_range.2 h)

/-- The threshold of the digit at `place`, which counts in steps of 36. -/
def threshold (bias place : Nat) : Nat := min 26 (max 1 (place - bias))

/-- A threshold is neither zero nor above 26. -/
theorem threshold_bounds (bias place : Nat) :
    1 ≤ threshold bias place ∧ threshold bias place ≤ 26 := by
  unfold threshold
  omega

/-- Bring a number below 456, counting how often it had to be divided by 35. -/
def scale (places delta : Nat) : Nat × Nat :=
  if 455 < delta then scale (places + 1) (delta / 35) else (places, delta)
termination_by delta

/-- The bias after a number: `first` tells the first number, and `length` counts the characters of
the label so far. -/
def adapt (first : Bool) (delta length : Nat) : Nat :=
  let damped := if first then delta / 700 else delta / 2
  let (places, rest) := scale 0 (damped + damped / length)
  places * 36 + 36 * rest / (rest + 38)

/-- The digits of a number from the digit at `place` on. -/
def digits (bias place n : Nat) : List Char :=
  let t := threshold bias place
  if n < t then [digitChar n]
  else digitChar (t + (n - t) % (36 - t)) :: digits bias (place + 36) ((n - t) / (36 - t))
termination_by n
decreasing_by
  have bounds := threshold_bounds bias place
  have less : (n - threshold bias place) / (36 - threshold bias place) ≤
      n - threshold bias place := Nat.div_le_self _ _
  omega

/-- How far the writing of a label has come. -/
structure Writing where
  /-- The digits written so far, last one first. -/
  done : List Char
  /-- The steps since the last character. -/
  delta : Nat
  /-- The bias for the next number. -/
  bias : Nat
  /-- How many characters have been written. -/
  count : Nat
  /-- Whether no number has been written yet. -/
  first : Bool

/-- Go past one place of the label, where character `c` stands, looking for `target`. -/
def Writing.pass (target : Nat) (w : Writing) (c : Char) : Writing :=
  if c.toNat < target then { w with delta := w.delta + 1 }
  else if c.toNat = target then
    { done := (digits w.bias 36 w.delta).reverse ++ w.done
      delta := 0
      bias := adapt w.first w.delta (w.count + 1)
      count := w.count + 1
      first := false }
  else w

/-- Write all places of the characters `targets`, in ascending order, from code point `n` on. -/
def writeTargets (label : List Char) (n : Nat) (w : Writing) : List Nat → Writing
  | [] => w
  | target :: rest =>
    let start := { w with delta := w.delta + (target - n) * (w.count + 1) }
    let after := label.foldl (Writing.pass target) start
    writeTargets label (target + 1) { after with delta := after.delta + 1 } rest

/-- Leave out the elements of an ascending list that repeat the one before. -/
def distinct : List Nat → List Nat
  | a :: b :: rest => if a = b then distinct (b :: rest) else a :: distinct (b :: rest)
  | short => short

/-- The ASCII writing of a label. -/
def encode (label : List Char) : List Char :=
  let basic := label.filter (·.toNat < 0x80)
  let others := (label.filter (0x80 ≤ ·.toNat)).map Char.toNat
  let start : Writing := ⟨[], 0, 72, basic.length, true⟩
  let written := writeTargets label 0x80 start (distinct (others.mergeSort (· ≤ ·)))
  (if basic.isEmpty then [] else basic ++ ['-']) ++ written.done.reverse

/-- How far the reading of a label has come. -/
structure Reading where
  /-- The label so far. -/
  label : List Char
  /-- Where the last character was put in, plus one. -/
  index : Nat
  /-- The last code point. -/
  code : Nat
  /-- The bias for the number that is open. -/
  bias : Nat

/-- Put in the character that is `delta` steps away. -/
def Reading.insert (r : Reading) (delta : Nat) : Option Reading :=
  let length := r.label.length + 1
  let code := r.code + (r.index + delta) / length
  let index := (r.index + delta) % length
  if Nat.isValidChar code then
    some ⟨r.label.take index ++ Char.ofNat code :: r.label.drop index, index + 1, code,
      adapt (r.index = 0) delta length⟩
  else none

/-- The numbers in use stay below this bound. -/
def limit : Nat := 0x100000000

/-- Read digits; the open number has the value `delta` so far, and its next digit, at `place`, has
the given weight. -/
def readDigits (r : Reading) (delta weight place : Nat) : List Char → Option Reading
  | [] => if place = 36 then some r else none
  | c :: rest =>
    match digit? c with
    | none => none
    | some d =>
      let delta := delta + d * weight
      if limit ≤ d * weight ∨ limit ≤ r.index + delta then none
      else
        let t := threshold r.bias place
        if d < t then
          match r.insert delta with
          | some r => readDigits r 0 1 36 rest
          | none => none
        else if limit ≤ weight * (36 - t) then none
        else readDigits r delta (weight * (36 - t)) (place + 36) rest

/-- What stands in front of the last hyphen, and what stands behind it; the text itself if the
hyphen is its first character or there is none. -/
def parts (s : List Char) : List Char × List Char :=
  let digits := (s.reverse.takeWhile (· ≠ '-')).reverse
  let basic := s.take (s.length - digits.length - 1)
  if basic.isEmpty then ([], s) else (basic, digits)

/-- The label that an ASCII writing stands for. -/
def decode (s : List Char) : Option (List Char) :=
  let (basic, digits) := parts s
  (readDigits ⟨basic, 0, 0x80, 72⟩ 0 1 36 digits).map Reading.label

end Detour.Domain.Punycode
