import Detour.Proofs.Settings.Read
import Detour.Proofs.Toml.Added
import Detour.Proofs.Toml.Insert
/-!
# Settings that are misspelt

A document from which settings are read holds nothing else. Main statement: wherever a key is added to one of
its tables that is no field of that table, and whatever is written under it, the document is still read as a
document, but no settings are taken from it.
-/

namespace Detour.Settings

open Toml

/-- The tables of a document that holds settings. -/
inductive Part where
  /-- The document itself. -/
  | whole
  /-- The table of the source. -/
  | source
  /-- The table of the metrics. -/
  | metrics
  deriving DecidableEq

/-- The key under which a table stands in the document. -/
def Part.key : Part → Option Key
  | .whole => none
  | .source => some "source".toList
  | .metrics => some "metrics".toList

/-- The fields of a table. -/
def Part.fields : Part → List Key
  | .whole => schema.names
  | .source => sourceSchema.names
  | .metrics => metricsSchema.names

/-- A table holds something under a key. -/
def Part.Holds (part : Part) (x : Key) (entries : Entries) : Prop :=
  match part.key with
  | none => entries.get? x ≠ none
  | some h =>
    ∃ (form : Form) (inner : Entries), entries.get? h = some (.table form inner) ∧ inner.get? x ≠ none

/-- How a table under a key is written, if it is one. -/
def formOf (entries : Entries) (h : Key) : Option Form :=
  match entries.get? h with
  | some (.table form _) => some form
  | _ => none

/-- Where rows with a new key in a table may stand: which rows come before them, and which they are. The text
behind them is `b`, and `entries` are those of the document without them. -/
inductive Place (entries : Entries) (part : Part) (x : Key) (b : List Char) :
    List Row → List Row → Prop where
  /-- An entry of the document itself comes before the first header. -/
  | top {as : List Assignment} {more : List Key} {v : Value} (whole : part = .whole) :
    Place entries part x b (as.map .entry) [.entry ⟨x :: more, v⟩]
  /-- So does one whose dotted key leads into a table, if that table is written with dotted keys. -/
  | dotted {h : Key} {as : List Assignment} {more : List Key} {v : Value} (key : part.key = some h)
    (form : formOf entries h = some .dotted) :
    Place entries part x b (as.map .entry) [.entry ⟨h :: x :: more, v⟩]
  /-- An entry of a table with a header comes behind this header and before the next one. -/
  | under {h : Key} {rows : List Row} {as : List Assignment} {more : List Key} {v : Value}
    (key : part.key = some h) :
    Place entries part x b (rows ++ .header false [h] :: as.map .entry) [.entry ⟨x :: more, v⟩]
  /-- A header of its own comes before another one or at the end, and with it the entries under it. -/
  | header {rows : List Row} {as : List Assignment} {repeated : Bool} {more : List Key}
    (whole : part = .whole) (own : (Entries.putAll [] as).isSome)
    (next : ∀ c ∈ (skipLines b).head?, c = '[') :
    Place entries part x b rows (.header repeated (x :: more) :: as.map .entry)
  /-- So does a header below a table, if that table does not stand between braces. -/
  | below {h : Key} {rows : List Row} {as : List Assignment} {repeated : Bool} {more : List Key}
    (key : part.key = some h) (form : formOf entries h ≠ some .inline) (own : (Entries.putAll [] as).isSome)
    (next : ∀ c ∈ (skipLines b).head?, c = '[') :
    Place entries part x b rows (.header repeated (h :: x :: more) :: as.map .entry)

/-- A text comes from another one that holds `entries`: a key is added to one of its tables, with any value. -/
inductive Adds (entries : Entries) (part : Part) (x : Key) : List Char → List Char → Prop where
  /-- It is added in lines. -/
  | lines {front new : List Row} {b s s' : List Char} (place : Place entries part x b front new)
    (inserts : Inserts front new b s s') : Adds entries part x s s'
  /-- It is added between the braces in which the table is written. -/
  | braces {h : Key} {as front back : List Assignment} {a w w' b : List Char} {more : List Key} {v : Value}
    (key : part.key = some h) (before : FullLines a (as.map .entry)) (line : BraceLine h w (front ++ back))
    (line' : BraceLine h w' (front ++ ⟨x :: more, v⟩ :: back))
    (behind : b = [] ∨ ∃ c, Grammar.Break b c) :
    Adds entries part x (a ++ (w ++ b)) (a ++ (w' ++ b))

section Held

variable {part : Part} {x h : Key} {entries a : Entries} {begun : Option Form} {v : Value}

/-- What is found under a key stands in the table. -/
theorem mem_of_get? (found : entries.get? x = some v) : (x, v) ∈ entries := by
  obtain ⟨front, back, rfl, -⟩ := List.lookup_eq_some_iff.1 found
  exact List.mem_append_right _ List.mem_cons_self

/-- A record is not filled from a table that has anything else. -/
theorem fillEntries_error {α : Type} {s : Schema α} (draft : α) (foreign : x ∉ s.names)
    (holds : entries.get? x ≠ none) : ∃ why, s.fillEntries draft entries = .error why := by
  obtain ⟨v, found⟩ := Option.ne_none_iff_exists'.1 holds
  refine Schema.fillEntries_error_of_unknown (fun field own same => ?_) (mem_of_get? found)
  exact foreign (same ▸ List.mem_map_of_mem own)

/-- Settings are not taken from a document in which a table has anything else. -/
theorem ofEntries_error (foreign : x ∉ part.fields) (holds : part.Holds x entries) :
    ∃ why, ofEntries entries = .error why := by
  have wrong (bad : ∃ why, schema.fillEntries .empty entries = .error why) :
      ∃ why, ofEntries entries = .error why := by
    obtain ⟨why, same⟩ := bad
    exact ⟨why, by rw [ofEntries, same]; rfl⟩
  cases part with
  | whole => exact wrong (fillEntries_error _ foreign holds)
  | source =>
    obtain ⟨form, inner, found, own⟩ := holds
    refine wrong (Schema.fillEntries_error_of_mem (mem_of_get? found) fun draft => ?_)
    obtain ⟨why, same⟩ := fillEntries_error SourceDraft.empty foreign own
    refine ⟨why, ?_⟩
    have entry : schema.fillEntry draft ("source".toList, .table form inner) =
        (readSource (.table form inner)).map ({ draft with source := some · }) := rfl
    rw [entry, readSource, Schema.fill, same]
    rfl
  | metrics =>
    obtain ⟨form, inner, found, own⟩ := holds
    refine wrong (Schema.fillEntries_error_of_mem (mem_of_get? found) fun draft => ?_)
    obtain ⟨why, same⟩ := fillEntries_error MetricsSettings.standard foreign own
    refine ⟨why, ?_⟩
    have entry : schema.fillEntry draft ("metrics".toList, .table form inner) =
        (metricsSchema.fill .standard (.table form inner)).map ({ draft with metrics := · }) := rfl
    rw [entry, Schema.fill, same]
    rfl

/-- A table of the document holds what stands under its key. -/
theorem holds_iff (key : part.key = some h) : part.Holds x entries ↔ ∃ (form : Form) (inner : Entries),
    entries.get? h = some (.table form inner) ∧ inner.get? x ≠ none := by
  rw [Part.Holds, key]

/-- A table that is accepted lacks every key that is no field of it. -/
theorem lacks_of_not_holds (key : part.key = some h) (form : (formOf entries h).isSome)
    (suits : ∀ form, formOf entries h = some form → Suits begun form) (none : ¬ part.Holds x entries) :
    Lacks begun x (entries.get? h) := by
  rw [holds_iff key] at none
  unfold formOf at form suits
  intro v found
  rw [found] at form suits none
  cases v with
  | table own inner =>
    refine ⟨own, inner, rfl, suits own rfl, ?_⟩
    exact not_not.1 fun holds => none ⟨own, inner, rfl, holds⟩
  | _ => cases form

/-- A table that gets a key has it. -/
theorem holds_of_gains (whole : part = .whole) (gains : Gains x a entries) : part.Holds x entries := by
  subst whole
  exact gains.under.2

/-- So has a table of the document that gets it. -/
theorem holds_of_grows (key : part.key = some h) (differ : Differ h (Grows begun x) a entries) :
    part.Holds x entries := by
  have under := differ.under
  rw [holds_iff key]
  generalize a.get? h = u, entries.get? h = w at under ⊢
  cases under with
  | begins own gains => exact ⟨_, _, rfl, gains.under.2⟩
  | grows gains => exact ⟨_, _, rfl, gains.under.2⟩

/-- Where rows with a new key may stand, the document has a table with the key in addition. -/
theorem Place.holds {b : List Char} {front new back : List Row} (place : Place entries part x b front new)
    (behind : Rows b back)
    (plain : ∀ a ∈ (Document.ofRows back).assignments, ∀ inner, a.value ≠ .table .dotted inner)
    (table : (Document.ofRows (front ++ back)).table = some entries)
    (written : ∀ h, part.key = some h → (formOf entries h).isSome) (none : ¬ part.Holds x entries) :
    ∃ entries', (Document.ofRows (front ++ (new ++ back))).table = some entries' ∧
      part.Holds x entries' := by
  have fresh (whole : part = .whole) : entries.get? x = .none := by
    subst whole
    exact not_not.1 none
  cases place with
  | @top as more v whole =>
    rw [ofRows_entries] at table
    obtain ⟨entries', table', gains⟩ := table_put v more table (fresh whole)
    exact ⟨entries', (ofRows_entries as _) ▸ table', holds_of_gains whole gains⟩
  | @dotted h as more v key form =>
    rw [ofRows_entries] at table
    have lacks : Lacks (some .dotted) x (entries.get? h) :=
      lacks_of_not_holds key (written h key) (fun form' same => Option.some.inj (same.symm.trans form)) none
    obtain ⟨entries', table', differ⟩ := table_put_dotted v more plain table lacks
    exact ⟨entries', (ofRows_entries as _) ▸ table', holds_of_grows key differ⟩
  | @under h rows as more v key =>
    rw [List.append_assoc, List.cons_append] at table ⊢
    rw [ofRows_append (by rw [ofRows_header]), ofRows_header] at table ⊢
    have lacks : Lacks .none x (entries.get? h) :=
      lacks_of_not_holds key (written h key) (fun _ _ => trivial) none
    obtain ⟨entries', table', differ⟩ := table_under v more table lacks
    exact ⟨entries', table', holds_of_grows key differ⟩
  | @header rows as repeated more whole own next =>
    have headed := behind.headed next
    rw [ofRows_append headed] at table
    obtain ⟨own', put⟩ := Option.isSome_iff_exists.1 own
    obtain ⟨entries', table', gains⟩ := table_section repeated more put table (fresh whole)
    refine ⟨entries', ?_, holds_of_gains whole gains⟩
    rw [List.cons_append, ofRows_append (by rw [ofRows_header]), ofRows_header, headed, List.append_nil]
    exact table'
  | @below h rows as repeated more key form own next =>
    have headed := behind.headed next
    rw [ofRows_append headed] at table
    obtain ⟨own', put⟩ := Option.isSome_iff_exists.1 own
    have lacks : Lacks (some .implied) x (entries.get? h) :=
      lacks_of_not_holds key (written h key) (fun _ same inline => form (same.trans (congrArg _ inline))) none
    obtain ⟨entries', table', differ⟩ := table_section_below repeated more put table lacks
    refine ⟨entries', ?_, holds_of_grows key differ⟩
    rw [List.cons_append, ofRows_append (by rw [ofRows_header]), ofRows_header, headed, List.append_nil]
    exact table'

/-- Where a key is added, the document is read as before, with the key in addition. -/
theorem Adds.holds {s s' : List Char} (adds : Adds entries part x s s') {rows : List Row} (held : Rows s rows)
    (table : (Document.ofRows rows).table = some entries)
    (written : ∀ h, part.key = some h → (formOf entries h).isSome) (none : ¬ part.Holds x entries) :
    ∃ rows' entries', Rows s' rows' ∧ (Document.ofRows rows').table = some entries' ∧
      part.Holds x entries' := by
  cases adds with
  | lines place inserts =>
    obtain ⟨back, rfl, behind, held'⟩ := inserts.held held
    -- A value that is read is never a dotted table, and so no entry behind begins one in another way.
    have plain : ∀ a ∈ (Document.ofRows back).assignments, ∀ inner, a.value ≠ .table .dotted inner := by
      intro a found inner dotted
      cases behind.form_eq (mem_of_assignments found) dotted
    obtain ⟨entries', table', holds⟩ := place.holds behind plain table written none
    exact ⟨_, entries', held', table', holds⟩
  | @braces h as front back a w w' b more v key before line line' behind =>
    obtain ⟨value, rest, own, rfl, held'⟩ := line.replace before line' behind held
    obtain ⟨inner, put, rfl⟩ := Option.map_eq_some_iff.1 own
    rw [ofRows_entries] at table
    have lacks : Lacks .none x (entries.get? h) :=
      lacks_of_not_holds key (written h key) (fun _ _ => trivial) none
    obtain ⟨inner', put', gains⟩ := putAll_gains v more put (get?_inline table lacks)
    obtain ⟨entries', table', differ⟩ := table_inline gains table lacks
    have own' : inlineTable (front ++ ⟨x :: more, v⟩ :: back) = some (.table .inline inner') :=
      congrArg (Option.map _) put'
    exact ⟨_, entries', held' _ own', (ofRows_entries as _) ▸ table', holds_of_grows key differ⟩

/-- Settings are not taken from a document to one of whose tables a key is added that is no field of it,
wherever it is added and whatever is written under it. The document is still read as one. -/
theorem mismatch_of_foreign_key {mark s s' : List Char} {settings : Settings}
    (marked : mark = [] ∨ mark = ['\ufeff']) (start : s.head? ≠ some '\ufeff')
    (read : Toml.read (mark ++ s) = some entries) (accepted : ofText (mark ++ s) = .ok settings)
    (written : ∀ h, part.key = some h → (formOf entries h).isSome) (foreign : x ∉ part.fields)
    (adds : Adds entries part x s s') : ∃ why, ofText (mark ++ s') = .error (.mismatch why) := by
  have marks {s : List Char} (start : s.head? ≠ some '\ufeff') :
      readDocument (mark ++ s) = readDocument s := by
    rcases marked with rfl | rfl
    · rfl
    · exact readDocument_mark start
  obtain ⟨d, document, table⟩ := Option.bind_eq_some_iff.1 read
  rw [marks start] at document
  obtain ⟨rows, held, rfl⟩ := (readDocument_eq_some start).1 document
  -- The settings were accepted, so that the key was not there before.
  have none : ¬ part.Holds x entries := by
    intro holds
    obtain ⟨why, wrong⟩ := ofEntries_error foreign holds
    simp only [ofText, read, wrong] at accepted
    cases accepted
  obtain ⟨rows', entries', held', table', holds⟩ := adds.holds held table written none
  have start' := held'.head?_ne
  have document' := (readDocument_eq_some start').2 ⟨rows', held', rfl⟩
  have read' : Toml.read (mark ++ s') = some entries' := by
    rw [Toml.read, marks start', document']
    exact table'
  obtain ⟨why, wrong⟩ := ofEntries_error foreign holds
  exact ⟨why, by simp only [ofText, read', wrong]⟩

/-- A source is named, but its encoding is misspelt. -/
theorem mismatch_of_misspelt_encoding :
    ofText "[source]\ntype = \"file\"\npath = \"a\"\n".toList =
        .ok ⟨.file "a".toList, .base64, [], none, 30, none, .standard⟩ ∧
      ∃ why, ofText "[source]\ntype = \"file\"\npath = \"a\"\nencodng = \"plain\"\n".toList =
        .error (.mismatch why) := by
  have accepted : ofText "[source]\ntype = \"file\"\npath = \"a\"\n".toList =
      .ok ⟨.file "a".toList, .base64, [], none, 30, none, .standard⟩ := rfl
  refine ⟨accepted, ?_⟩
  have front : Rows "[source]\ntype = \"file\"\npath = \"a\"".toList
      ([] ++ .header false ["source".toList] ::
        [⟨["type".toList], .text "file".toList⟩, ⟨["path".toList], .text "a".toList⟩].map .entry) :=
    .cons rfl rfl rfl (.cons rfl rfl rfl (.cons rfl rfl rfl (.nil rfl)))
  have new : Rows "encodng = \"plain\"\n".toList [.entry ⟨["encodng".toList], .text "plain".toList⟩] :=
    .cons rfl rfl rfl (.nil rfl)
  have inserts := Inserts.last (b := []) (FullLines.lines front (.feed [])) new rfl
  have adds : Adds [("source".toList, .table .header
      [("type".toList, .text "file".toList), ("path".toList, .text "a".toList)])]
      .source "encodng".toList _ _ := .lines (.under rfl) inserts
  refine mismatch_of_foreign_key (.inl rfl) (by decide) rfl accepted ?_ (by decide) adds
  intro h own
  obtain rfl := Option.some.inj own
  rfl

end Held

section Deep

/-- Brackets in brackets are a value. -/
theorem nested_brackets (n : Nat) (rest : List Char) :
    ∃ v, Grammar.Nested (n + 1)
      (List.replicate (n + 1) '[' ++ (List.replicate (n + 1) ']' ++ rest)) v rest := by
  induction n generalizing rest with
  | zero => exact ⟨_, .array (.close (.none _))⟩
  | succ n ih =>
    obtain ⟨v, inner⟩ := ih (']' :: rest)
    refine ⟨.array [v], ?_⟩
    rw [List.replicate_succ, List.cons_append, List.replicate_succ' (n := n + 1), List.append_assoc]
    exact .array (.last (.none _) inner (.none _))

/-- Not every value is read: a hundred brackets in each other make a text that is no document. -/
theorem deep_brackets_no_document :
    ofText "source = \x7btype = \"file\", path = \"a\"\x7d\n".toList =
        .ok ⟨.file "a".toList, .base64, [], none, 30, none, .standard⟩ ∧
      "x".toList ∉ Part.whole.fields ∧
      (∃ v, Grammar.Nested 100 (List.replicate 100 '[' ++ (List.replicate 100 ']' ++ [])) v []) ∧
      ofText ("source = \x7btype = \"file\", path = \"a\"\x7d\n".toList ++
        ("x = ".toList ++ (List.replicate 100 '[' ++ List.replicate 100 ']'))) = .error .notDocument := by
  have deep : (Toml.read ("source = \x7btype = \"file\", path = \"a\"\x7d\n".toList ++
      ("x = ".toList ++ (List.replicate 100 '[' ++ List.replicate 100 ']')))).isNone := by decide +kernel
  refine ⟨rfl, by decide, nested_brackets 99 [], ?_⟩
  rw [ofText, Option.isNone_iff_eq_none.1 deep]

end Deep

end Detour.Settings
