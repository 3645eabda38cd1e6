import Detour.Toml.Value
/-!
# The table of a document

A document has entries with dotted keys, some of them under headers. `Document.table` brings them
together in one table. A key is given a value once: nothing that was written may be written again, and
a table can be added to only in the form in which it was begun.
-/

namespace Detour.Toml

/-- An entry as it is written: the parts of its key, and its value. -/
structure Assignment where
  /-- The parts of the key. -/
  path : List Key
  /-- The value. -/
  value : Value
  deriving Repr

/-- A header with the entries under it. -/
structure Section where
  /-- Whether the header has double brackets and adds to the tables under its key. -/
  repeated : Bool
  /-- The parts of the key in the header. -/
  path : List Key
  /-- The entries under the header. -/
  assignments : List Assignment
  deriving Repr

/-- A document: entries without a header, and sections. -/
structure Document where
  /-- The entries before the first header. -/
  assignments : List Assignment
  /-- The sections. -/
  sections : List Section
  deriving Repr

/-- Change the entries of the last one of several tables. -/
def alterLast (change : Entries → Option Entries) : List Value → Option (List Value)
  | [] => none
  | [.table form entries] => (change entries).map fun entries => [.table form entries]
  | [_] => none
  | first :: rest => (alterLast change rest).map (first :: ·)

/-- Put a value under a dotted key. The tables on the way are begun as dotted ones. On the way, a table
with a header of its own may not be entered, and the value goes only into a dotted table. -/
def Entries.put (value : Value) : List Key → Entries → Option Entries
  | [], _ => none
  | [key], entries =>
    Entries.alter (fun
      | none => some value
      | some _ => none) key entries
  | holder :: key :: path, entries =>
    Entries.alter (fun
      | none => (Entries.put value (key :: path) []).map (.table .dotted)
      | some (.table .dotted inner) =>
        (Entries.put value (key :: path) inner).map (.table .dotted)
      | some (.table .implied inner) =>
        if path.isEmpty then none
        else (Entries.put value (key :: path) inner).map (.table .implied)
      | some (.tables items) =>
        if path.isEmpty then none
        else (alterLast (Entries.put value (key :: path)) items).map .tables
      | some _ => none) holder entries

/-- Put several values, in order. -/
def Entries.putAll (entries : Entries) (assignments : List Assignment) : Option Entries :=
  assignments.foldlM (fun entries a => entries.put a.value a.path) entries

/-- The table that is written between braces. -/
def inlineTable (assignments : List Assignment) : Option Value :=
  (Entries.putAll [] assignments).map (.table .inline)

/-- Change the entries of the table to which a path in a header leads. Tables on the way that do not
exist yet are implied; of several tables the last one is taken. -/
def Entries.within (change : Entries → Option Entries) : List Key → Entries → Option Entries
  | [], entries => change entries
  | holder :: path, entries =>
    Entries.alter (fun
      | none => (Entries.within change path []).map (.table .implied)
      | some (.table .inline _) => none
      | some (.table form inner) => (Entries.within change path inner).map (.table form)
      | some (.tables items) => (alterLast (Entries.within change path) items).map .tables
      | some _ => none) holder entries

/-- Add a table with a header of its own. A table that is only implied up to now is taken over, and
moves to the end. -/
def Entries.addTable (key : Key) (assignments : List Assignment) (entries : Entries) :
    Option Entries :=
  match entries.get? key with
  | none => (Entries.putAll [] assignments).map fun inner => entries ++ [(key, .table .header inner)]
  | some (.table .implied inner) =>
    (Entries.putAll inner assignments).map fun inner =>
      entries.filter (·.1 ≠ key) ++ [(key, .table .header inner)]
  | some _ => none

/-- Add a table to the tables under a key. -/
def Entries.addRepeated (key : Key) (assignments : List Assignment) (entries : Entries) :
    Option Entries :=
  match Entries.putAll [] assignments with
  | none => none
  | some inner =>
    Entries.alter (fun
      | none => some (.tables [.table .header inner])
      | some (.tables items) => some (.tables (items ++ [.table .header inner]))
      | some _ => none) key entries

/-- Add what a section holds. -/
def Entries.addSection (entries : Entries) (s : Section) : Option Entries :=
  match s.path.getLast? with
  | none => none
  | some key =>
    entries.within
      (if s.repeated then Entries.addRepeated key s.assignments
        else Entries.addTable key s.assignments) s.path.dropLast

/-- The table of a document, if nothing in it is written twice. -/
def Document.table (d : Document) : Option Entries :=
  (Entries.putAll [] d.assignments).bind fun entries => d.sections.foldlM Entries.addSection entries

/-- A key that has a value is not given another one. -/
theorem Entries.put_of_get? {value old : Value} {key : Key} {entries : Entries}
    (h : entries.get? key = some old) : entries.put value [key] = none := by
  rw [Entries.put]
  induction entries with
  | nil => simp [get?] at h
  | cons entry rest ih =>
    obtain ⟨k, v⟩ := entry
    rw [Entries.alter]
    split
    · rfl
    · rename_i hk
      have differs : (key == k) = false := beq_eq_false_iff_ne.2 (Ne.symm hk)
      rw [get?, List.lookup_cons, differs] at h
      rw [ih h]
      rfl

end Detour.Toml
