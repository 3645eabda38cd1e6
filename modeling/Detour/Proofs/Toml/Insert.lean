import Detour.Proofs.Toml.Rows
import Mathlib.Data.List.DropRight
/-!
# Lines and entries put in between

A line is put between two others of a document, or an entry between two others in the braces of a table. Main
statements: the rows of the other lines stay what they are, and what stands in the braces is the
entries that were there and the one that was put between them.
-/

namespace Detour.Toml

variable {s s' a b u w inside : List Char} {rows front back new : List Row} {h : Key} {as : List Assignment}

section Lines

/-- Whole lines with the rows that they hold: no lines at all, or a text that ends with a line break. -/
inductive FullLines : List Char → List Row → Prop where
  /-- No lines. -/
  | empty : FullLines [] []
  /-- Some lines. -/
  | lines {s u : List Char} {rows : List Row} (held : Rows s rows) (line : Grammar.Break u []) :
    FullLines (s ++ u) rows

/-- A text comes from another one: lines that hold new rows are put behind those that hold the front ones, and
in front of a text `b`. -/
inductive Inserts (front new : List Row) (b : List Char) : List Char → List Char → Prop where
  /-- They are put between the others. -/
  | between {a l : List Char} (before : FullLines a front) (added : FullLines l new) :
    Inserts front new b (a ++ b) (a ++ (l ++ b))
  /-- They are put behind all others, and the last one need not end with a line break. -/
  | last {a l : List Char} (before : FullLines a front) (added : Rows l new) (none : b = []) :
    Inserts front new b a (a ++ l)
  /-- They are put behind all others, of which the last one does not end with a line break. -/
  | below {a u l : List Char} (before : Rows a front) (line : Grammar.Break u []) (added : Rows l new)
    (none : b = []) : Inserts front new b a (a ++ (u ++ l))

/-- A line break ends a line whatever stands behind. -/
theorem break_append (line : Grammar.Break u []) (b : List Char) : Grammar.Break (u ++ b) b := by
  cases line with
  | feed => exact .feed b
  | pair => exact .pair b

/-- Lines may be put in front of a text. -/
theorem FullLines.append (lines : FullLines a front) (behind : Rows b back) :
    Rows (a ++ b) (front ++ back) := by
  cases lines with
  | empty => exact behind
  | lines held line =>
    rw [List.append_assoc]
    exact held.append (break_append line b) behind

/-- The rows of a text are those of its first lines and those of the others. -/
theorem FullLines.of_append (lines : FullLines a front) (whole : Rows (a ++ b) rows) :
    ∃ back, rows = front ++ back ∧ Rows b back := by
  cases lines with
  | empty => exact ⟨rows, rfl, whole⟩
  | lines held line =>
    rw [List.append_assoc] at whole
    exact held.of_append (break_append line b) whole

/-- A text holds its rows only. -/
theorem Rows.unique (h : Rows s rows) (other : Rows s front) : rows = front := by
  obtain ⟨back, same, none⟩ := h.of_append (.feed []) (other.append (.feed []) (.nil rfl))
  rw [none.eq_nil, List.append_nil, List.append_nil] at same
  exact same.symm

/-- Where lines are put in, all other rows stay. -/
theorem Inserts.held (inserts : Inserts front new b s s') (held : Rows s rows) :
    ∃ back, rows = front ++ back ∧ Rows b back ∧ Rows s' (front ++ (new ++ back)) := by
  cases inserts with
  | between before added =>
    obtain ⟨back, same, behind⟩ := before.of_append held
    exact ⟨back, same, behind, before.append (added.append behind)⟩
  | last before added none =>
    have whole := before.append (.nil rfl : Rows [] [])
    rw [List.append_nil] at whole
    refine ⟨[], held.unique whole, none ▸ .nil rfl, ?_⟩
    rw [List.append_nil]
    exact before.append added
  | below before line added none =>
    refine ⟨[], ?_, none ▸ .nil rfl, ?_⟩
    · rw [List.append_nil]
      exact held.unique before
    · rw [List.append_nil]
      exact before.append (break_append line _) added

end Lines

section Braces

/-- Entries with commas between them, as they stand in braces. -/
inductive Pieces : List Char → List Assignment → Prop where
  /-- The last one. -/
  | last {p gaps : List Char} {a : Assignment}
    (read : readAssignment (readValueOf (depthLimit - 1)) p = some (a, gaps)) (blank : skipGaps gaps = []) :
    Pieces p [a]
  /-- One in front of others. -/
  | more {p gaps q : List Char} {a : Assignment} {as : List Assignment}
    (read : readAssignment (readValueOf (depthLimit - 1)) p = some (a, gaps)) (blank : skipGaps gaps = [])
    (later : Pieces q as) : Pieces (p ++ ',' :: q) (a :: as)

/-- What may stand in braces. -/
inductive Braced : List Char → List Assignment → Prop where
  /-- Nothing but gaps. -/
  | gaps {s : List Char} (blank : skipGaps s = []) : Braced s []
  /-- Entries. -/
  | entries {s : List Char} {as : List Assignment} (pieces : Pieces s as) : Braced s as

/-- A line with a table in braces under a key. -/
inductive BraceLine (h : Key) : List Char → List Assignment → Prop where
  /-- The key, the sign of equality, the table and the end of the line. -/
  | mk {w t v inside e : List Char} {as : List Assignment} (start : skipLines w = t)
    (key : readPath t = some ([h], '=' :: v)) (opened : skipGaps v = '\x7b' :: (inside ++ '\x7d' :: e))
    (braced : Braced inside as) (ends : endLine e = some []) : BraceLine h w as

/-- Gaps in front of an entry are nothing to it. -/
theorem readAssignment_skipGaps (value : Reader Value) (s : List Char) :
    readAssignment value (skipGaps s) = readAssignment value s := by
  have twice : skipGaps (skipGaps s) = skipGaps s := List.dropWhile_idempotent isGap s
  have path : readPath (skipGaps s) = readPath s := by
    rw [readPath, depthLimit, readPathOf, readPathOf, twice]
  rw [readAssignment, path]
  rfl

/-- A comma or a brace stops a reader. -/
theorem stops_cons {c : Char} (sign : c = ',' ∨ c = '\x7d') (s : List Char) : Stops (c :: s) := by
  intro d found
  obtain rfl := Option.some.inj found
  rcases sign with rfl | rfl <;> decide

/-- An entry is read up to a comma or a brace. -/
theorem readAssignment_stop {p gaps : List Char} {a : Assignment} {c : Char} {depth : Nat}
    (read : readAssignment (readValueOf depth) p = some (a, gaps)) (blank : skipGaps gaps = [])
    (sign : c = ',' ∨ c = '\x7d') (s : List Char) :
    ∃ rest, readAssignment (readValueOf depth) (p ++ c :: s) = some (a, rest) ∧ skipGaps rest = c :: s := by
  have stops := stops_cons sign s
  refine ⟨gaps ++ c :: s, steady_readAssignment stops (steady_readValueOf stops depth) read, ?_⟩
  rw [skipGaps_append stops, blank]
  rfl

/-- Gaps in front of entries are nothing to them. -/
theorem Pieces.withoutGaps (pieces : Pieces s as) : Pieces (skipGaps s) as := by
  cases pieces with
  | last read blank =>
    rw [← readAssignment_skipGaps] at read
    exact .last read blank
  | more read blank later =>
    rw [← readAssignment_skipGaps] at read
    rw [skipGaps_append (stops_cons (.inl rfl) _)]
    exact .more read blank later

/-- There are at least as many characters as entries. -/
theorem Pieces.length_le (pieces : Pieces s as) : as.length ≤ s.length := by
  induction pieces with
  | last read blank =>
    obtain ⟨c, more, rfl, -⟩ := starts_readAssignment _ read
    simp
  | more read blank later ih =>
    simp only [List.length_cons, List.length_append]
    omega

/-- Entries in braces are read. -/
theorem Pieces.read {limit : Nat} (pieces : Pieces s as) (enough : as.length ≤ limit) (u : List Char) :
    readEntries (readValueOf (depthLimit - 1)) limit (s ++ '\x7d' :: u) = some (as, u) := by
  induction pieces generalizing limit with
  | last read blank =>
    obtain ⟨limit, rfl⟩ : ∃ n, limit = n + 1 := ⟨limit - 1, by simp at enough; omega⟩
    obtain ⟨rest, whole, close⟩ := readAssignment_stop read blank (.inr rfl) u
    rw [readEntries, whole]
    dsimp only
    rw [close]
    rfl
  | more read blank later ih =>
    obtain ⟨limit, rfl⟩ : ∃ n, limit = n + 1 := ⟨limit - 1, by simp at enough; omega⟩
    rw [List.append_assoc, List.cons_append]
    obtain ⟨rest, whole, comma⟩ := readAssignment_stop read blank (.inl rfl) _
    rw [readEntries, whole]
    dsimp only
    rw [comma]
    simp only
    rw [ih (Nat.le_of_succ_le_succ enough)]
    rfl

/-- What stands in braces is read. -/
theorem Braced.read (braced : Braced inside as) (u : List Char) :
    readBraces (readValueOf (depthLimit - 1)) (inside ++ '\x7d' :: u) = some (as, u) := by
  rw [readBraces, skipGaps_append (stops_cons (.inr rfl) u)]
  cases braced with
  | gaps blank =>
    rw [blank]
    rfl
  | entries pieces =>
    have enough : as.length ≤ (skipGaps inside ++ '\x7d' :: u).length := by
      have := pieces.withoutGaps.length_le
      rw [List.length_append]
      omega
    have whole := pieces.withoutGaps.read enough u
    split
    · rename_i rest same
      rw [same] at whole
      cases whole
    · exact whole

/-- A line with a table in braces is read, if its entries make a table. -/
theorem readRow_braces {t v e : List Char} (stops : Stops b) (key : readPath t = some ([h], '=' :: v))
    (opened : skipGaps v = '\x7b' :: (inside ++ '\x7d' :: e)) (braced : Braced inside as) :
    readRow (t ++ b) = (inlineTable as).map fun v => (.entry ⟨[h], v⟩, e ++ b) := by
  obtain ⟨c, more, rfl, -, other⟩ := starts_readPath key
  have path : readPath (c :: more ++ b) = some ([h], '=' :: v ++ b) :=
    steady_readPathOf stops depthLimit key
  have table : readValue (skipGaps (v ++ b)) = (inlineTable as).map (·, e ++ b) := by
    rw [skipGaps_append stops, opened, List.cons_append, List.append_assoc, List.cons_append, readValue,
      show depthLimit = depthLimit - 1 + 1 from rfl, readValueOf, braced.read (e ++ b)]
  rw [List.cons_append] at path ⊢
  rw [readRow, readAssignment, path]
  · simp only [List.cons_append, table]
    cases inlineTable as with
    | none => rfl
    | some v => rfl
  · rintro rest same
    exact other (List.cons.inj same).1

/-- A line with a table in braces holds an entry, if its entries make a table. -/
theorem BraceLine.rows_iff (line : BraceLine h w as) (behind : b = [] ∨ ∃ c, Grammar.Break b c) :
    Rows (w ++ b) rows ↔
      ∃ v back, inlineTable as = some v ∧ rows = .entry ⟨[h], v⟩ :: back ∧ Rows b back := by
  obtain ⟨start, key, opened, braced, ends⟩ := line
  rename_i t v inside e
  have stops : Stops b := by
    rcases behind with rfl | ⟨c, line⟩
    · nofun
    · exact (stops_of_break line).1
  have begins : skipLines (w ++ b) = t ++ b := by
    obtain ⟨c, more, rfl, other, -⟩ := starts_readPath key
    exact skipLines_append other start b
  have row := readRow_braces stops key opened braced
  obtain ⟨next, last, same⟩ : ∃ next, endLine (e ++ b) = some next ∧ skipLines next = skipLines b := by
    rcases behind with rfl | ⟨c, line⟩
    · exact ⟨[], by rw [List.append_nil, ends], rfl⟩
    · rcases endLine_append ends line with own | ⟨-, later⟩
      · exact ⟨_, own, rfl⟩
      · exact ⟨c, later, line.skip.symm⟩
  constructor
  · intro whole
    cases whole with
    | nil none =>
      obtain ⟨c, more, rfl, -⟩ := starts_readPath key
      cases begins.symm.trans none
    | cons start' read ends' later =>
      rw [← begins.symm.trans start', row] at read
      obtain ⟨v, table, same'⟩ := Option.map_eq_some_iff.1 read
      cases same'
      cases last.symm.trans ends'
      exact ⟨v, _, table, rfl, later.congr same.symm⟩
  · rintro ⟨v, back, table, rfl, later⟩
    rw [table] at row
    exact .cons begins row last (later.congr same)

/-- Where a line with a table in braces is written in another way, all other rows stay. -/
theorem BraceLine.replace {w' : List Char} {as' : List Assignment} (before : FullLines a front)
    (line : BraceLine h w as) (line' : BraceLine h w' as') (behind : b = [] ∨ ∃ c, Grammar.Break b c)
    (held : Rows (a ++ (w ++ b)) rows) :
    ∃ v back, inlineTable as = some v ∧ rows = front ++ .entry ⟨[h], v⟩ :: back ∧
      ∀ v', inlineTable as' = some v' → Rows (a ++ (w' ++ b)) (front ++ .entry ⟨[h], v'⟩ :: back) := by
  obtain ⟨own, rfl, whole⟩ := before.of_append held
  obtain ⟨v, back, table, rfl, later⟩ := (line.rows_iff behind).1 whole
  refine ⟨v, back, table, rfl, fun v' table' => before.append ?_⟩
  exact (line'.rows_iff behind).2 ⟨v', back, table', rfl, later⟩

end Braces

end Detour.Toml
