import Detour.Proofs.Toml.Taken
/-!
# Documents line by line

A document is a row of headers and entries, in the order in which they are written. Main statements: a text
holds rows exactly if it is read as the document that they make, and if some lines hold rows and the lines
behind them hold others, then the whole text holds both.
-/

namespace Detour.Toml

/-- A header or an entry of a document. -/
inductive Row where
  /-- A header, and whether it has double brackets. -/
  | header (repeated : Bool) (path : List Key)
  /-- An entry. -/
  | entry (a : Assignment)

/-- Put a row in front of a document. -/
def Row.push : Row → Document → Document
  | .header repeated path, d => d.pushHeader repeated path
  | .entry a, d => d.pushAssignment a

/-- The document that rows make. -/
def Document.ofRows (rows : List Row) : Document := rows.foldr Row.push ⟨[], []⟩

/-- Read a row from where it starts. -/
def readRow : Reader Row
  | '[' :: rest =>
    (readHeader ('[' :: rest)).map fun ((repeated, path), rest) => (.header repeated path, rest)
  | s => (readAssignment readValue s).map fun (a, rest) => (.entry a, rest)

/-- A text holds rows, each of them up to the end of a line. -/
inductive Rows : List Char → List Row → Prop where
  /-- It holds none. -/
  | nil {s : List Char} (none : skipLines s = []) : Rows s []
  /-- It holds one, and others in the lines behind. -/
  | cons {s t rest next : List Char} {row : Row} {rows : List Row} (start : skipLines s = t)
    (read : readRow t = some (row, rest)) (ends : endLine rest = some next) (later : Rows next rows) :
    Rows s (row :: rows)

variable {s t u a b next : List Char} {rows front back : List Row} {limit : Nat} {d : Document}

/-- A row of a document is read whatever stands behind its line. -/
theorem steady_readRow (stops : Stops u) : Steady u readRow := by
  intro s rest row h
  unfold readRow at h
  split at h
  · obtain ⟨⟨⟨repeated, path⟩, rest'⟩, read, same⟩ := Option.map_eq_some_iff.1 h
    cases same
    have whole := steady_readHeader stops read
    rw [List.cons_append] at whole ⊢
    rw [readRow, whole]
    rfl
  · rename_i other
    obtain ⟨⟨entry, rest'⟩, read, same⟩ := Option.map_eq_some_iff.1 h
    cases same
    unfold readRow
    split
    · rename_i bracket
      obtain ⟨more, rfl⟩ := cons_of_append (stops.ne (by decide)) bracket
      exact absurd rfl (other more)
    · rw [steady_readAssignment stops (steady_readValueOf stops depthLimit) read]
      rfl

/-- A key starts with no half of a line break, and with no bracket. -/
theorem starts_readPath {rest : List Char} {path : List Key} (h : readPath s = some (path, rest)) :
    ∃ c more, s = c :: more ∧ c ≠ '\r' ∧ c ≠ '[' := by
  have nothing (s : List Char) (none : readKey (skipGaps s) = none) : readPath s ≠ some (path, rest) := by
    rw [readPath, depthLimit, readPathOf, none]
    intro same
    cases same
  cases s with
  | nil => exact absurd h (nothing [] rfl)
  | cons c more =>
    refine ⟨c, more, rfl, ?_, ?_⟩
    · rintro rfl
      exact nothing _ rfl h
    · rintro rfl
      exact nothing _ rfl h

/-- An entry starts with no half of a line break. -/
theorem starts_readAssignment (value : Reader Value) : Starts (readAssignment value) := by
  intro s rest a h
  unfold readAssignment at h
  split at h
  · rename_i path behind key
    obtain ⟨c, more, same, other, -⟩ := starts_readPath key
    exact ⟨c, more, same, other⟩
  · cases h

/-- So does every row. -/
theorem starts_readRow : Starts readRow := by
  intro s rest row h
  unfold readRow at h
  split at h
  · exact ⟨_, _, rfl, by decide⟩
  · obtain ⟨⟨entry, rest'⟩, read, -⟩ := Option.map_eq_some_iff.1 h
    exact starts_readAssignment readValue read

/-- A document is read row by row. -/
theorem readDocumentOf_cons {c : Char} (start : skipLines s = c :: t) :
    readDocumentOf (limit + 1) s = (readRow (c :: t)).bind fun found =>
      ((endLine found.2).bind (readDocumentOf limit)).map found.1.push := by
  conv => lhs; unfold readDocumentOf
  rw [start]
  split
  · rename_i same
    cases same
  · rename_i zero _
    cases zero
  · rename_i same bracket
    cases same
    cases bracket
    rw [readRow]
    cases readHeader ('[' :: t) with
    | none => rfl
    | some found => rfl
  · rename_i number _ plain
    cases number
    rw [readRow]
    · cases readAssignment readValue (c :: t) with
      | none => rfl
      | some found => rfl
    · exact plain

/-- A document is read from the rows that its text holds. -/
theorem exists_rows (h : readDocumentOf limit s = some d) :
    ∃ rows, Rows s rows ∧ rows.length ≤ limit ∧ d = .ofRows rows := by
  induction limit generalizing s d with
  | zero =>
    unfold readDocumentOf at h
    split at h
    · rename_i none
      cases h
      exact ⟨[], .nil none, Nat.le_refl 0, rfl⟩
    · cases h
    · rename_i number _
      cases number
    · rename_i number _ _
      cases number
  | succ limit ih =>
    cases start : skipLines s with
    | nil =>
      unfold readDocumentOf at h
      rw [start] at h
      cases h
      exact ⟨[], .nil start, Nat.zero_le _, rfl⟩
    | cons c t =>
      rw [readDocumentOf_cons start] at h
      obtain ⟨⟨row, rest⟩, read, goes⟩ := Option.bind_eq_some_iff.1 h
      obtain ⟨behind, found, rfl⟩ := Option.map_eq_some_iff.1 goes
      obtain ⟨next, ends, found⟩ := Option.bind_eq_some_iff.1 found
      obtain ⟨rows, later, short, rfl⟩ := ih found
      exact ⟨row :: rows, .cons start read ends later, Nat.succ_le_succ short, rfl⟩

/-- A text that holds rows is read as the document that they make. -/
theorem Rows.read (h : Rows s rows) (enough : rows.length ≤ limit) :
    readDocumentOf limit s = some (.ofRows rows) := by
  induction h generalizing limit with
  | nil none =>
    unfold readDocumentOf
    rw [none]
    rfl
  | @cons s t rest next row rows start read ends later ih =>
    obtain ⟨c, more, rfl, -⟩ := starts_readRow read
    obtain ⟨limit, rfl⟩ : ∃ n, limit = n + 1 := Nat.exists_eq_succ_of_ne_zero (by
      rw [List.length_cons] at enough
      omega)
    rw [readDocumentOf_cons start, read, Option.bind_some, ends, Option.bind_some,
      ih (Nat.le_of_succ_le_succ enough)]
    rfl

/-- What is skipped in front of rows is nothing to them. -/
theorem Rows.congr (h : Rows t rows) (same : skipLines s = skipLines t) : Rows s rows := by
  cases h with
  | nil none => exact .nil (same.trans none)
  | cons start read ends later => exact .cons (same.trans start) read ends later

/-- There are no rows in nothing. -/
theorem Rows.eq_nil (h : Rows [] rows) : rows = [] := by
  cases h with
  | nil => rfl
  | cons start read =>
    cases start
    obtain ⟨c, more, same, -⟩ := starts_readRow read
    cases same

/-- The rows of a text stay what they are with a line break and other rows behind. -/
theorem Rows.append (h : Rows a front) (line : Grammar.Break u b) (behind : Rows b back) :
    Rows (a ++ u) (front ++ back) := by
  induction h with
  | nil none => exact behind.congr (skipLines_append_break none line)
  | @cons s t rest next row rows start read ends later ih =>
    obtain ⟨c, more, rfl, other⟩ := starts_readRow read
    have begins := skipLines_append other start u
    have taken := steady_readRow (stops_of_break line).1 read
    -- Either the line has its own end, or it was the last one and ends at the line break.
    rcases endLine_append ends line with more | ⟨rfl, last⟩
    · exact .cons begins taken more ih
    · rw [later.eq_nil]
      exact .cons begins taken last behind

/-- The rows of a text that goes on behind a line break are those in front of it and those behind. -/
theorem Rows.of_append (h : Rows a front) (line : Grammar.Break u b) (whole : Rows (a ++ u) rows) :
    ∃ back, rows = front ++ back ∧ Rows b back := by
  induction h generalizing rows with
  | nil none => exact ⟨rows, rfl, whole.congr (skipLines_append_break none line).symm⟩
  | @cons s t rest next row front start read ends later ih =>
    obtain ⟨c, more, rfl, other⟩ := starts_readRow read
    have begins := skipLines_append other start u
    have taken := steady_readRow (stops_of_break line).1 read
    -- Reading is a function, so that the whole text has the same first row.
    cases whole with
    | nil none => exact absurd (begins.symm.trans none) (List.cons_ne_nil _ _)
    | cons start' read' ends' later' =>
      cases begins.symm.trans start'
      cases taken.symm.trans read'
      rcases endLine_append ends line with more | ⟨rfl, last⟩
      · cases more.symm.trans ends'
        obtain ⟨back, rfl, behind⟩ := ih later'
        exact ⟨back, rfl, behind⟩
      · cases last.symm.trans ends'
        rw [later.eq_nil]
        exact ⟨_, rfl, later'⟩

/-- A row takes at least one character. -/
theorem length_of_readRow {row : Row} (h : readRow s = some (row, t)) : t.length < s.length := by
  unfold readRow at h
  split at h
  · obtain ⟨⟨header, rest⟩, read, same⟩ := Option.map_eq_some_iff.1 h
    cases same
    exact length_of_readHeader read
  · obtain ⟨⟨entry, rest⟩, read, same⟩ := Option.map_eq_some_iff.1 h
    cases same
    exact (length_of_readAssignment (takes_readValueOf depthLimit) read).2

/-- A text has at least as many characters as rows. -/
theorem Rows.length_le (h : Rows s rows) : rows.length ≤ s.length := by
  induction h with
  | nil => exact Nat.zero_le _
  | @cons s t rest next row rows start read ends later ih =>
    have front := (skipLines_suffix s).length_le
    rw [start] at front
    have own := length_of_readRow read
    have line := (endLine_suffix ends).length_le
    rw [List.length_cons]
    omega

/-- No row starts with the mark of the byte order. -/
theorem Rows.head?_ne (h : Rows s rows) : s.head? ≠ some '\ufeff' := by
  intro mark
  obtain ⟨more, rfl⟩ : ∃ more, s = '\ufeff' :: more := by
    cases s with
    | nil => cases mark
    | cons c more =>
      cases mark
      exact ⟨more, rfl⟩
  have start : skipLines ('\ufeff' :: more) = '\ufeff' :: more := by
    rw [skipLines, skipLinesFrom_cons (by decide)]
    rfl
  cases h with
  | nil none =>
    rw [start] at none
    cases none
  | cons begins read =>
    cases start.symm.trans begins
    have key : readKey (skipGaps ('\ufeff' :: more)) = none := rfl
    have path : readPath ('\ufeff' :: more) = none := by
      rw [readPath, depthLimit, readPathOf, key]
    rw [readRow, readAssignment, path] at read
    · cases read
    · intro rest same
      cases same

/-- A document is read if and only if the text holds its rows. -/
theorem readDocument_eq_some (start : s.head? ≠ some '\ufeff') :
    readDocument s = some d ↔ ∃ rows, Rows s rows ∧ d = .ofRows rows := by
  rw [readDocument, if_neg start]
  constructor
  · intro h
    obtain ⟨rows, held, -, same⟩ := exists_rows h
    exact ⟨rows, held, same⟩
  · rintro ⟨rows, held, rfl⟩
    exact held.read held.length_le

/-- The mark of the byte order is no part of a document. -/
theorem readDocument_mark (start : s.head? ≠ some '\ufeff') :
    readDocument ('\ufeff' :: s) = readDocument s := by
  rw [readDocument, readDocument, if_neg start]
  rfl

/-! ## The document that rows make -/

/-- Entries in front of rows come in front of the entries that these have in front. -/
theorem ofRows_entries (as : List Assignment) (rows : List Row) :
    Document.ofRows (as.map .entry ++ rows) =
      ⟨as ++ (Document.ofRows rows).assignments, (Document.ofRows rows).sections⟩ := by
  induction as with
  | nil => rfl
  | cons a as ih =>
    rw [List.map_cons, List.cons_append, Document.ofRows, List.foldr_cons, ← Document.ofRows, ih]
    rfl

/-- A header with entries in front of rows comes in front of their sections. -/
theorem ofRows_header (repeated : Bool) (path : List Key) (as : List Assignment) (rows : List Row) :
    Document.ofRows (.header repeated path :: (as.map .entry ++ rows)) =
      ⟨[], ⟨repeated, path, as ++ (Document.ofRows rows).assignments⟩ ::
        (Document.ofRows rows).sections⟩ := by
  rw [Document.ofRows, List.foldr_cons, ← Document.ofRows, ofRows_entries]
  rfl

/-- Rows that begin with a header come behind the sections of those in front. -/
theorem ofRows_append (headed : (Document.ofRows back).assignments = []) :
    Document.ofRows (front ++ back) = ⟨(Document.ofRows front).assignments,
      (Document.ofRows front).sections ++ (Document.ofRows back).sections⟩ := by
  induction front with
  | nil => exact congrArg (Document.mk · _) headed
  | cons row front ih =>
    rw [List.cons_append, Document.ofRows, List.foldr_cons, ← Document.ofRows, ih]
    cases row <;> rfl

/-- Behind a text that is blank or has a header, no entry comes before the first header. -/
theorem Rows.headed (h : Rows s rows) (start : ∀ c ∈ (skipLines s).head?, c = '[') :
    (Document.ofRows rows).assignments = [] := by
  cases h with
  | nil => rfl
  | cons begins read =>
    obtain ⟨c, more, rfl, -⟩ := starts_readRow read
    rw [begins] at start
    obtain rfl := start c rfl
    rw [readRow] at read
    obtain ⟨⟨⟨repeated, path⟩, rest⟩, -, same⟩ := Option.map_eq_some_iff.1 read
    cases same
    rfl

/-! ## Tables among the values -/

/-- A value that holds no others is no table. -/
theorem readSimple_ne_table {v : Value} {form : Form} {inner : Entries}
    (h : readSimple s = some (v, t)) : v ≠ .table form inner := by
  have row (s : List Char) : Scalar.ofRow s ≠ some (.table form inner) := by
    unfold Scalar.ofRow
    split
    · nofun
    split
    · nofun
    split
    · nofun
    split
    · nofun
    · intro same
      obtain ⟨x, -, same⟩ := Option.map_eq_some_iff.1 same
      cases same
  rintro rfl
  unfold readSimple at h
  split at h
  · obtain ⟨found, -, same⟩ := Option.map_eq_some_iff.1 h
    cases same
  · obtain ⟨found, -, same⟩ := Option.map_eq_some_iff.1 h
    cases same
  · unfold Scalar.read at h
    dsimp only at h
    split at h
    · split at h <;> cases h
    · obtain ⟨v, read, same⟩ := Option.map_eq_some_iff.1 h
      cases same
      exact row _ read

/-- A table that is read as a value stands between braces. -/
theorem form_of_readValue {form : Form} {inner : Entries}
    (h : readValue s = some (.table form inner, t)) : form = .inline := by
  rw [readValue, show depthLimit = 78 + 1 from rfl] at h
  unfold readValueOf at h
  split at h
  · obtain ⟨found, -, same⟩ := Option.map_eq_some_iff.1 h
    cases same
  · split at h
    · obtain ⟨v, table, same⟩ := Option.map_eq_some_iff.1 h
      cases same
      obtain ⟨entries, -, same⟩ := Option.map_eq_some_iff.1 table
      cases same
      rfl
    · cases h
  · exact absurd rfl (readSimple_ne_table h)

/-- So does a table that is the value of an entry. -/
theorem Rows.form_eq (h : Rows s rows) {a : Assignment} (found : .entry a ∈ rows) {form : Form}
    {inner : Entries} (table : a.value = .table form inner) : form = .inline := by
  induction h with
  | nil => cases found
  | cons start read ends later ih =>
    rcases List.mem_cons.1 found with rfl | behind
    · unfold readRow at read
      split at read
      · obtain ⟨header, -, same⟩ := Option.map_eq_some_iff.1 read
        cases same
      · obtain ⟨⟨a', rest'⟩, read, same⟩ := Option.map_eq_some_iff.1 read
        cases same
        unfold readAssignment at read
        split at read
        · obtain ⟨⟨v, rest''⟩, read, same⟩ := Option.map_eq_some_iff.1 read
          cases same
          cases table
          exact form_of_readValue read
        · cases read
    · exact ih behind

/-- An entry in front of the first header is a row. -/
theorem mem_of_assignments {a : Assignment} (found : a ∈ (Document.ofRows rows).assignments) :
    .entry a ∈ rows := by
  induction rows with
  | nil => cases found
  | cons row rows ih =>
    rw [Document.ofRows, List.foldr_cons, ← Document.ofRows] at found
    cases row with
    | header => cases found
    | entry b =>
      rcases List.mem_cons.1 found with rfl | behind
      · exact List.mem_cons_self
      · exact List.mem_cons_of_mem _ (ih behind)

end Detour.Toml
