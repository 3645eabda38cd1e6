import Detour.Text.Split
/-!
# Tables of code points

A table holds runs of code points, in ascending order and without overlap, each with a value.
`find?` looks a code point up by halving the table. Tables are written as text: hexadecimal code
points, a hyphen between the ends of a run, blanks or line ends between two runs.
-/

namespace Detour.Unicode

/-- A run of code points that share a value. -/
structure Run (α : Type) where
  /-- The first code point. -/
  first : Nat
  /-- The last code point. -/
  last : Nat
  /-- What the run says about them. -/
  value : α

/-- Runs in ascending order. -/
abbrev Table (α : Type) := Array (Run α)

namespace Table

variable {α : Type}

/-- How many runs start at or before `n`, given that all runs below `lo` do and none from `hi` on
does. The interval is halved at most `fuel` times. -/
def countFrom (t : Table α) (n : Nat) : (fuel lo hi : Nat) → Nat
  | 0, lo, _ => lo
  | fuel + 1, lo, hi =>
    if lo < hi then
      let middle := lo + (hi - lo) / 2
      match t[middle]? with
      | some run =>
        if run.first ≤ n then countFrom t n fuel (middle + 1) hi
        else countFrom t n fuel lo middle
      | none => lo
    else lo

/-- The run that holds `n`. -/
def find? (t : Table α) (n : Nat) : Option (Run α) :=
  match countFrom t n (t.size.log2 + 1) 0 t.size with
  | 0 => none
  | count + 1 =>
    match t[count]? with
    | some run => if n ≤ run.last then some run else none
    | none => none

/-- The value for `n`. -/
def value? (t : Table α) (n : Nat) : Option α := (t.find? n).map Run.value

/-- Whether some run holds `n`. -/
def contains (t : Table α) (n : Nat) : Bool := (t.find? n).isSome

/-- A run that is found does hold the code point. -/
theorem le_last_of_find? {t : Table α} {n : Nat} {run : Run α} (h : t.find? n = some run) :
    n ≤ run.last := by
  unfold find? at h
  split at h
  · cases h
  · split at h
    · split at h
      · cases h
        assumption
      · cases h
    · cases h

/-- The value of a hexadecimal digit in small letters. -/
def digit (c : Char) : Nat := if c.toNat < 58 then c.toNat - 48 else c.toNat - 87

/-- The number that hexadecimal digits write. -/
def number (s : List Char) : Nat := s.foldl (fun n c => n * 16 + digit c) 0

/-- A run, written as one code point or as two with a hyphen between them. -/
def run (value : α) (s : List Char) : Run α :=
  match Text.splitOn '-' s with
  | [a, b] => ⟨number a, number b, value⟩
  | _ => ⟨number s, number s, value⟩

/-- The entries of a text, with blanks or line ends between them. -/
def entries (text : String) : List (List Char) :=
  (Text.splitOn ' ' (text.toList.map fun c => if c = '\n' then ' ' else c)).filter (!·.isEmpty)

/-- The runs that a text lists, all with one value. -/
def ofText (value : α) (text : String) : Table α := ((entries text).map (run value)).toArray

/-- The runs of several texts, each with its value. -/
def ofTexts (texts : List (α × String)) : Table α :=
  ((texts.flatMap fun (value, text) => (ofText value text).toList).mergeSort
    fun a b => a.first ≤ b.first).toArray

end Table

end Detour.Unicode
