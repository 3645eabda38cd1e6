import Detour.Double
/-!
# Values of a settings document

A table is the list of its entries in the order in which their keys first came up. How a table was
written is kept with it, because that decides which later lines may add to it; whoever reads the
values need not look at it.
-/

namespace Detour.Toml

/-- A key, without its quotes. -/
abbrev Key := List Char

/-- How a table was written. -/
inductive Form where
  /-- Between braces. -/
  | inline
  /-- With a header of its own. -/
  | header
  /-- It is only named on the way to another one, in a header. -/
  | implied
  /-- It is only named on the way to an entry, in a dotted key. -/
  | dotted
  deriving DecidableEq, Repr

/-- A value. -/
inductive Value where
  /-- A text. -/
  | text (s : List Char)
  /-- A whole number. -/
  | integer (n : Int)
  /-- A number with a floating point. -/
  | float (x : Double)
  /-- True or false. -/
  | boolean (b : Bool)
  /-- A date, a time of the day, or both. Which one it is plays no part in settings. -/
  | moment
  /-- Values between brackets. -/
  | array (items : List Value)
  /-- The tables whose headers have double brackets. -/
  | tables (items : List Value)
  /-- A table. -/
  | table (form : Form) (entries : List (Key × Value))
  deriving Repr

/-- The entries of a table. -/
abbrev Entries := List (Key × Value)

/-- The items of an array, whichever way it was written. -/
def Value.items? : Value → Option (List Value)
  | .array items | .tables items => some items
  | _ => none

/-- The entries of a table, whichever way it was written. -/
def Value.entries? : Value → Option Entries
  | .table _ entries => some entries
  | _ => none

/-- The value under a key. -/
def Entries.get? (entries : Entries) (key : Key) : Option Value := List.lookup key entries

/-- Change the value under a key, or add one at the end, if `change` allows it. -/
def Entries.alter (change : Option Value → Option Value) (key : Key) : Entries → Option Entries
  | [] => (change none).map fun value => [(key, value)]
  | (k, value) :: rest =>
    if k = key then (change (some value)).map fun value => (k, value) :: rest
    else (Entries.alter change key rest).map fun rest => (k, value) :: rest

/-- A change under one key leaves the values under all others. -/
theorem Entries.get?_alter_of_ne {change : Option Value → Option Value} {key other : Key}
    (h : other ≠ key) {entries altered : Entries}
    (done : Entries.alter change key entries = some altered) :
    altered.get? other = entries.get? other := by
  induction entries generalizing altered with
  | nil =>
    obtain ⟨value, _, rfl⟩ := Option.map_eq_some_iff.1 done
    rw [get?, List.lookup_cons, beq_eq_false_iff_ne.2 h]
    rfl
  | cons entry rest ih =>
    obtain ⟨k, value⟩ := entry
    rw [Entries.alter] at done
    split at done
    · rename_i same
      obtain ⟨new, _, rfl⟩ := Option.map_eq_some_iff.1 done
      rw [get?, get?, List.lookup_cons, List.lookup_cons, same, beq_eq_false_iff_ne.2 h]
    · obtain ⟨tail, htail, rfl⟩ := Option.map_eq_some_iff.1 done
      have tails := ih htail
      simp only [get?] at tails
      rw [get?, get?, List.lookup_cons, List.lookup_cons, tails]

end Detour.Toml
