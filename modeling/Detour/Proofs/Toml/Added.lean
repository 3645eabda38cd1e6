import Detour.Proofs.Toml.Document
/-!
# Tables with a key more

Every entry and every header of a document changes what is under one key of its table, and does so for the sake
of what is there. So a key that no other line is about can be added anywhere: the other lines do what they
did. Main statements: if a key that a table does not get is put there in addition, wherever the form of the
table allows it, then the document still has a table, which differs by nothing but that key.
-/

namespace Detour.Toml

/-- What a line of a document does to a table. -/
abbrev Step := Entries → Option Entries

/-- The step of an entry. -/
abbrev Assignment.step (a : Assignment) : Step := Entries.put a.value a.path

/-- The step of a header with the entries under it. -/
abbrev Section.step (s : Section) : Step := fun entries => entries.addSection s

/-- A step is about one key. It gives the key the value that `change` makes of the one that is there. -/
structure Touches (step : Step) (key : Key) (change : Option Value → Option Value) : Prop where
  /-- It fails if there is no such value. -/
  fails {entries : Entries} (refused : change (entries.get? key) = none) : step entries = none
  /-- Otherwise all other keys keep their values. -/
  runs {entries : Entries} {v : Value} (changed : change (entries.get? key) = some v) :
    ∃ after, step entries = some after ∧ after.get? key = some v ∧
      ∀ other ≠ key, after.get? other = entries.get? other

/-- A step is about some key. -/
def Local (step : Step) : Prop := ∃ key change, Touches step key change

/-- Do several steps. -/
def run (steps : List Step) (entries : Entries) : Option Entries :=
  steps.foldlM (fun entries step => step entries) entries

/-- Two tables have the same under all keys but one, and under that one what is related. -/
structure Differ (key : Key) (related : Option Value → Option Value → Prop) (a b : Entries) : Prop where
  /-- The values under that key are related. -/
  under : related (a.get? key) (b.get? key)
  /-- The others are the same. -/
  others (other : Key) (h : other ≠ key) : b.get? other = a.get? other

/-- A step keeps two tables related. It need do so only if it leads to what is good in the end, and to that it
leads only from what is good before. -/
def Carries (good : Option Value → Prop) (related : Option Value → Option Value → Prop) (key : Key)
    (step : Step) : Prop :=
  ∃ own change, Touches step own change ∧ (own = key → ∀ u v, change u = some v → good (some v) →
    good u ∧ ∀ w, related u w → ∃ v', change w = some v' ∧ related (some v) (some v'))

section Steps

variable {step : Step} {steps before after inside other : List Step} {key x : Key} {v : Value}
  {change : Option Value → Option Value} {entries next final a b : Entries}
  {good : Option Value → Prop} {related : Option Value → Option Value → Prop}

/-- The first entry is found under its key. -/
theorem Entries.get?_cons_self : Entries.get? ((key, v) :: entries) key = some v := List.lookup_cons_self

/-- It is not found under another one. -/
theorem Entries.get?_cons_of_ne (apart : key ≠ x) :
    Entries.get? ((x, v) :: entries) key = entries.get? key := by
  rw [get?, List.lookup_cons, beq_eq_false_iff_ne.2 apart]
  rfl

/-- A change under a key is a step about that key. -/
theorem touches_alter (change : Option Value → Option Value) (key : Key) :
    Touches (Entries.alter change key) key change := by
  have both (entries : Entries) :
      (change (entries.get? key) = none → Entries.alter change key entries = none) ∧
      ∀ v, change (entries.get? key) = some v →
        ∃ after, Entries.alter change key entries = some after ∧ after.get? key = some v := by
    induction entries with
    | nil =>
      constructor
      · intro refused
        exact Option.map_eq_none_iff.2 refused
      · intro v changed
        exact ⟨[(key, v)], by rw [Entries.alter]; exact congrArg _ changed, Entries.get?_cons_self⟩
    | cons entry rest ih =>
      obtain ⟨k, w⟩ := entry
      rw [Entries.alter]
      by_cases same : k = key
      · subst same
        rw [if_pos rfl, Entries.get?_cons_self]
        constructor
        · intro refused
          rw [refused]
          rfl
        · intro v changed
          rw [changed]
          exact ⟨_, rfl, Entries.get?_cons_self⟩
      · rw [if_neg same, Entries.get?_cons_of_ne (Ne.symm same)]
        constructor
        · intro refused
          rw [ih.1 refused]
          rfl
        · intro v changed
          obtain ⟨after, done, own⟩ := ih.2 v changed
          rw [done]
          exact ⟨_, rfl, (Entries.get?_cons_of_ne (Ne.symm same)).trans own⟩
  refine ⟨fun refused => (both _).1 refused, fun changed => ?_⟩
  obtain ⟨after, done, own⟩ := (both _).2 _ changed
  exact ⟨after, done, own, fun other apart => Entries.get?_alter_of_ne apart done⟩

/-- A step that always fails is about any key. -/
theorem touches_never (key : Key) : Touches (fun _ => none) key fun _ => none :=
  ⟨fun _ => rfl, nofun⟩

/-- What a step does that does not fail. -/
theorem Touches.of_some (touches : Touches step key change) (h : step entries = some next) :
    ∃ v, change (entries.get? key) = some v ∧ next.get? key = some v ∧
      ∀ other ≠ key, next.get? other = entries.get? other := by
  cases same : change (entries.get? key) with
  | none =>
    rw [touches.fails same] at h
    cases h
  | some v =>
    obtain ⟨after, ran, own, others⟩ := touches.runs same
    cases h.symm.trans ran
    exact ⟨v, rfl, own, others⟩

/-- What a step does to one of two related tables, it does to the other one. -/
theorem Carries.one (carries : Carries good related key step) (done : step a = some next)
    (last : good (next.get? key)) :
    good (a.get? key) ∧ ∀ b, Differ key related a b →
      ∃ next', step b = some next' ∧ Differ key related next next' := by
  obtain ⟨own, change, touches, carries⟩ := carries
  obtain ⟨v, changed, under, others⟩ := touches.of_some done
  by_cases same : own = key
  -- The step is about the key under which the tables differ.
  · subst same
    rw [under] at last
    obtain ⟨before, kept⟩ := carries rfl _ _ changed last
    refine ⟨before, fun b differ => ?_⟩
    obtain ⟨v', changed', relates⟩ := kept _ differ.under
    obtain ⟨next', done', under', others'⟩ := touches.runs changed'
    refine ⟨next', done', ?_, fun other apart => ?_⟩
    · rw [under, under']
      exact relates
    · rw [others' other apart, others other apart, differ.others other apart]
  -- It is about another one, under which both tables have the same.
  · rw [others key (Ne.symm same)] at last
    refine ⟨last, fun b differ => ?_⟩
    rw [← differ.others own same] at changed
    obtain ⟨next', done', under', others'⟩ := touches.runs changed
    refine ⟨next', done', ?_, fun other apart => ?_⟩
    · rw [others key (Ne.symm same), others' key (Ne.symm same)]
      exact differ.under
    · by_cases own' : other = own
      · rw [own', under, under']
      · rw [others' other own', others other own', differ.others other apart]

/-- So do several steps. -/
theorem Carries.all (carries : ∀ step ∈ steps, Carries good related key step)
    (done : run steps a = some final) (last : good (final.get? key)) :
    good (a.get? key) ∧ ∀ b, Differ key related a b →
      ∃ final', run steps b = some final' ∧ Differ key related final final' := by
  -- Each step is shown to keep the tables related once the steps behind it lead to what is good.
  induction steps generalizing a with
  | nil =>
    cases done
    exact ⟨last, fun b differ => ⟨b, rfl, differ⟩⟩
  | cons step steps ih =>
    obtain ⟨own, others⟩ := List.forall_mem_cons.1 carries
    obtain ⟨next, first, later⟩ := Option.bind_eq_some_iff.1 done
    obtain ⟨good, rest⟩ := ih others later
    obtain ⟨before, kept⟩ := own.one first good
    refine ⟨before, fun b differ => ?_⟩
    obtain ⟨next', first', differ⟩ := kept b differ
    obtain ⟨final', later', differ⟩ := rest next' differ
    refine ⟨final', ?_, differ⟩
    exact Option.bind_eq_some_iff.2 ⟨next', first', later'⟩

/-- Steps are done one part after the other. -/
theorem run_append : run (before ++ after) entries = (run before entries).bind (run after) :=
  List.foldlM_append

/-- If some steps are replaced by others and lead to a related table, then so it is in the end. -/
theorem Carries.replace (inside other : List Step)
    (carries : ∀ step ∈ after, Carries good related key step)
    (done : run (before ++ (inside ++ after)) entries = some final) (last : good (final.get? key))
    (first : ∀ a next, run inside a = some next → good (next.get? key) →
      ∃ next', run other a = some next' ∧ Differ key related next next') :
    ∃ final', run (before ++ (other ++ after)) entries = some final' ∧
      Differ key related final final' := by
  rw [run_append] at done
  obtain ⟨a, start, front⟩ := Option.bind_eq_some_iff.1 done
  rw [run_append] at front
  obtain ⟨next, middle, later⟩ := Option.bind_eq_some_iff.1 front
  obtain ⟨good, rest⟩ := Carries.all carries later last
  obtain ⟨next', middle', differ⟩ := first a next middle good
  obtain ⟨final', later', differ⟩ := rest next' differ
  refine ⟨final', ?_, differ⟩
  rw [run_append, start, Option.bind_some, run_append, middle', Option.bind_some, later']

/-- A step can be added at which the table comes to differ. -/
theorem Carries.insert (step : Step) (carries : ∀ step ∈ after, Carries good related key step)
    (done : run (before ++ after) entries = some final) (last : good (final.get? key))
    (first : ∀ a, good (a.get? key) → ∃ b, step a = some b ∧ Differ key related a b) :
    ∃ final', run (before ++ step :: after) entries = some final' ∧ Differ key related final final' := by
  refine Carries.replace [] [step] carries done last fun a next same fine => ?_
  cases same
  obtain ⟨b, added, differ⟩ := first a fine
  exact ⟨b, Option.bind_eq_some_iff.2 ⟨b, added, rfl⟩, differ⟩

end Steps

/-! ## A key more in the whole table -/

/-- A table gets a key more. -/
abbrev Gains (x : Key) : Entries → Entries → Prop := Differ x fun u w => u = none ∧ w ≠ none

/-- What leaves a key out, and so is done with the key in addition. -/
def Spares (x : Key) (op : Step) : Prop :=
  ∀ a next, op a = some next → next.get? x = none →
    a.get? x = none ∧ ∀ b, Gains x a b → ∃ next', op b = some next' ∧ Gains x next next'

section Gains

variable {op : Step} {ops : List Step} {x : Key} {entries : Entries}

/-- Steps that leave the key out are done as they were. -/
theorem Local.carries (own : Local op) (related : Option Value → Option Value → Prop) :
    Carries (· = none) related x op := by
  obtain ⟨key, change, touches⟩ := own
  exact ⟨key, change, touches, fun _ _ _ _ => nofun⟩

/-- A step that leaves the key out is done with the key in addition. -/
theorem Local.spares (own : Local op) (x : Key) : Spares x op :=
  fun _ _ done last => (own.carries _).one done last

/-- So are several steps. -/
theorem spares_run (own : ∀ op ∈ ops, Local op) (x : Key) : Spares x (run ops) :=
  fun _ _ done last => Carries.all (fun op found => (own op found).carries _) done last

/-- A change under a key is a step about some key. -/
theorem local_alter (change : Option Value → Option Value) (key : Key) :
    Local (Entries.alter change key) :=
  ⟨key, change, touches_alter change key⟩

/-- A step that always fails is about some key. -/
theorem local_never : Local fun _ => none := ⟨[], _, touches_never []⟩

/-- To put a value is a step about the first part of its key. -/
theorem local_put (value : Value) (path : List Key) : Local (Entries.put value path) := by
  match path with
  | [] => exact local_never
  | [key] => exact local_alter _ key
  | holder :: key :: path => exact local_alter _ holder

/-- To put values into a table is to do the steps of their entries. -/
theorem putAll_eq_run (as : List Assignment) :
    Entries.putAll entries as = run (as.map Assignment.step) entries := by
  rw [run, List.foldlM_map]
  rfl

/-- Entries that leave a key out are put with the key in addition. -/
theorem spares_putAll (as : List Assignment) (x : Key) : Spares x (Entries.putAll · as) := by
  have same : (Entries.putAll · as) = run (as.map Assignment.step) := funext fun a => putAll_eq_run as
  rw [same]
  refine spares_run (fun op found => ?_) x
  obtain ⟨a, -, rfl⟩ := List.mem_map.1 found
  exact local_put a.value a.path

/-- The table of a document comes from the steps of its lines. -/
theorem table_eq_run (as : List Assignment) (sections : List Section) :
    Document.table ⟨as, sections⟩ = run (as.map Assignment.step ++ sections.map Section.step) [] := by
  rw [run_append, ← putAll_eq_run, Document.table]
  refine congrArg _ (funext fun entries => ?_)
  rw [run, List.foldlM_map]

/-- What is put behind all others is found there. -/
theorem Entries.get?_append_self {key : Key} {v : Value} (new : entries.get? key = none) :
    Entries.get? (entries ++ [(key, v)]) key = some v ∧
      ∀ other ≠ key, Entries.get? (entries ++ [(key, v)]) other = entries.get? other := by
  have all (other : Key) : Entries.get? (entries ++ [(key, v)]) other =
      (entries.get? other).or (Entries.get? [(key, v)] other) := List.lookup_append
  refine ⟨?_, fun other apart => ?_⟩
  · rw [all, new]
    exact Entries.get?_cons_self
  · rw [all, Entries.get?_cons_of_ne apart]
    exact Option.or_none

/-- Without what is under a key, all others are as before. -/
theorem Entries.get?_filter (key : Key) (entries : Entries) :
    Entries.get? (entries.filter (·.1 ≠ key)) key = none ∧
      ∀ other ≠ key, Entries.get? (entries.filter (·.1 ≠ key)) other = entries.get? other := by
  induction entries with
  | nil => exact ⟨rfl, fun _ _ => rfl⟩
  | cons entry rest ih =>
    obtain ⟨k, w⟩ := entry
    by_cases same : k = key
    · subst same
      rw [List.filter_cons_of_neg (by simp)]
      exact ⟨ih.1, fun other apart => (ih.2 other apart).trans (Entries.get?_cons_of_ne apart).symm⟩
    · rw [List.filter_cons_of_pos (by simpa using same)]
      refine ⟨(Entries.get?_cons_of_ne (Ne.symm same)).trans ih.1, fun other apart => ?_⟩
      by_cases own : other = k
      · rw [own, Entries.get?_cons_self, Entries.get?_cons_self]
      · rw [Entries.get?_cons_of_ne own, Entries.get?_cons_of_ne own, ih.2 other apart]

/-- To add a table is a step about its key. -/
theorem touches_addTable (key : Key) (as : List Assignment) :
    Touches (Entries.addTable key as) key fun
      | none => (Entries.putAll [] as).map (.table .header)
      | some (.table .implied inner) => (Entries.putAll inner as).map (.table .header)
      | some _ => none := by
  refine ⟨fun {entries} refused => ?_, fun {entries v} changed => ?_⟩
  · unfold Entries.addTable
    cases found : entries.get? key with
    | none =>
      rw [found] at refused
      exact Option.map_eq_none_iff.2 (Option.map_eq_none_iff.1 refused)
    | some old =>
      rw [found] at refused
      cases old with
      | table form inner =>
        cases form with
        | implied => exact Option.map_eq_none_iff.2 (Option.map_eq_none_iff.1 refused)
        | _ => rfl
      | _ => rfl
  · unfold Entries.addTable
    cases found : entries.get? key with
    | none =>
      rw [found] at changed
      obtain ⟨inner, put, rfl⟩ := Option.map_eq_some_iff.1 changed
      simp only [put]
      exact ⟨_, rfl, Entries.get?_append_self found⟩
    | some old =>
      rw [found] at changed
      cases old with
      | table form inner =>
        cases form with
        | implied =>
          obtain ⟨inner', put, rfl⟩ := Option.map_eq_some_iff.1 changed
          simp only [put]
          obtain ⟨gone, others⟩ := Entries.get?_filter key entries
          obtain ⟨own, kept⟩ := Entries.get?_append_self (v := .table .header inner') gone
          exact ⟨_, rfl, own, fun other apart => (kept other apart).trans (others other apart)⟩
        | _ => cases changed
      | _ => cases changed

/-- To add to the tables under a key is a step about that key. -/
theorem touches_addRepeated (key : Key) {as : List Assignment} {own : Entries}
    (put : Entries.putAll [] as = some own) :
    Touches (Entries.addRepeated key as) key fun
      | none => some (.tables [.table .header own])
      | some (.tables items) => some (.tables (items ++ [.table .header own]))
      | some _ => none := by
  unfold Entries.addRepeated
  rw [put]
  exact touches_alter _ key

/-- A header leads into the table that the first part of its key names, and does there what the other parts
say. -/
theorem section_cons (repeated : Bool) (holder key : Key) (path : List Key) (as : List Assignment) :
    Section.step ⟨repeated, holder :: key :: path, as⟩ =
      Entries.within (Section.step ⟨repeated, key :: path, as⟩) [holder] := by
  funext entries
  simp only [Entries.addSection, List.getLast?_cons_cons, List.dropLast_cons_cons,
    List.getLast?_eq_some_getLast (List.cons_ne_nil key path), Entries.within]

/-- The step of a header is about the first part of its key. -/
theorem local_section (s : Section) : Local s.step := by
  obtain ⟨repeated, path, as⟩ := s
  match path with
  | [] => exact local_never
  | holder :: key :: path =>
    rw [section_cons]
    exact local_alter _ holder
  | [key] =>
    cases repeated with
    | false => exact ⟨key, _, touches_addTable key as⟩
    | true =>
      cases put : Entries.putAll [] as with
      | some own => exact ⟨key, _, touches_addRepeated key put⟩
      | none =>
        refine ⟨key, fun _ => none, fun _ => ?_, nofun⟩
        simp [Entries.addSection, Entries.within, Entries.addRepeated, put]

/-- All lines of a document are about some key. -/
theorem local_of_mem {as : List Assignment} {sections : List Section}
    (h : op ∈ as.map Assignment.step ++ sections.map Section.step) : Local op := by
  rcases List.mem_append.1 h with entry | header
  · obtain ⟨a, -, rfl⟩ := List.mem_map.1 entry
    exact local_put a.value a.path
  · obtain ⟨s, -, rfl⟩ := List.mem_map.1 header
    exact local_section s

end Gains

/-! ## A key more in one of the tables -/

/-- How a table gets a key more: it is there, or it is begun with that key in a form. -/
inductive Grows (begun : Option Form) (x : Key) : Option Value → Option Value → Prop where
  /-- It is begun. -/
  | begins {form : Form} {b : Entries} (own : begun = some form) (gains : Gains x [] b) :
    Grows begun x none (some (.table form b))
  /-- It is there. -/
  | grows {form : Form} {a b : Entries} (gains : Gains x a b) :
    Grows begun x (some (.table form a)) (some (.table form b))

/-- The forms that a table may have in the end if it may be begun in the given one. What is begun with a dotted
key is never anything else, and what is begun with a header never stands between braces. -/
def Suits : Option Form → Form → Prop
  | none, _ => True
  | some .dotted, form => form = .dotted
  | some _, form => form ≠ .inline

/-- No table at all, or one without the key. -/
def Lacks (begun : Option Form) (x : Key) (u : Option Value) : Prop :=
  ∀ v, u = some v → ∃ (form : Form) (inner : Entries), v = .table form inner ∧ Suits begun form ∧
    inner.get? x = none

section Grows

variable {begun : Option Form} {op : Step} {x h : Key} {form old : Form} {inner : Entries} {v : Value}

/-- Where a table with a header suits, one that is only implied does. -/
theorem suits_implied (h : Suits begun .header) : Suits begun .implied := by
  cases begun with
  | none => trivial
  | some form =>
    cases form with
    | dotted => cases h
    | _ => nofun

/-- What a table is like that lacks the key. -/
theorem lacks_table :
    Lacks begun x (some (.table form inner)) ↔ Suits begun form ∧ inner.get? x = none := by
  constructor
  · intro lacks
    obtain ⟨form, inner, same, rest⟩ := lacks _ rfl
    cases same
    exact rest
  · rintro rest v same
    cases same
    exact ⟨form, inner, rfl, rest⟩

/-- The tables of a header with double brackets are no table. -/
theorem not_lacks_tables (items : List Value) : ¬ Lacks begun x (some (.tables items)) := by
  intro lacks
  obtain ⟨form, inner, same, -⟩ := lacks _ rfl
  cases same

/-- Where a table comes of a header, it was begun in one. -/
theorem Grows.implied {w : Option Value} (grows : Grows begun x none w)
    (plain : ∀ form, begun = some form → form = .dotted ∨ form = .implied)
    (last : Lacks begun x (some (.table form inner))) (other : form ≠ .dotted) :
    ∃ b, w = some (.table .implied b) ∧ Gains x [] b := by
  cases grows with
  | begins own gains =>
    rcases plain _ own with rfl | rfl
    · have suits := (lacks_table.1 last).1
      rw [own] at suits
      exact absurd suits other
    · exact ⟨_, rfl, gains⟩

/-- What leaves the key out in a table is done with the key in addition. -/
theorem Spares.grows (own : Spares x op) (changed : (op inner).map (.table form) = some v)
    (last : Lacks begun x (some v)) (former : Suits begun form → Suits begun old) :
    Lacks begun x (some (.table old inner)) ∧ ∀ b, Gains x inner b →
      ∃ v', (op b).map (.table form) = some v' ∧ Grows begun x (some v) (some v') := by
  obtain ⟨next, done, rfl⟩ := Option.map_eq_some_iff.1 changed
  obtain ⟨suits, none⟩ := lacks_table.1 last
  refine ⟨lacks_table.2 ⟨former suits, (own _ _ done none).1⟩, fun b gains => ?_⟩
  obtain ⟨next', done', gains'⟩ := (own _ _ done none).2 b gains
  exact ⟨_, Option.map_eq_some_iff.2 ⟨next', done', rfl⟩, .grows gains'⟩

/-- An entry does to a table with a key more what it did without. -/
theorem carries_put {value : Value} {path : List Key}
    (plain : ∀ form, begun = some form → form = .dotted ∧ ∀ inner, value ≠ .table .dotted inner) :
    Carries (Lacks begun x) (Grows begun x) h (Entries.put value path) := by
  match path with
  | [] => exact ⟨h, _, touches_never h, fun _ _ _ => nofun⟩
  | [key] =>
    refine ⟨key, _, touches_alter _ key, fun _ u v changed last => ?_⟩
    cases u with
    | some old => cases changed
    | none =>
      -- The value is no dotted table, so that it does not stand where such a table may be begun.
      cases changed
      refine ⟨nofun, fun w grows => ?_⟩
      cases grows with
      | begins own gains =>
        obtain ⟨rfl, other⟩ := plain _ own
        obtain ⟨form, inner, rfl, suits, -⟩ := last _ rfl
        rw [own] at suits
        exact absurd (congrArg (Value.table · inner) suits) (other inner)
  | holder :: key :: path =>
    refine ⟨holder, _, touches_alter _ holder, fun _ u v changed last => ?_⟩
    have own := (local_put value (key :: path)).spares x
    split at changed
    -- The table is begun.
    · refine ⟨nofun, fun w grows => ?_⟩
      cases grows with
      | begins own' gains =>
        obtain ⟨rfl, -⟩ := plain _ own'
        exact (own.grows changed last fun h => h).2 _ gains
    -- It is written with dotted keys.
    · obtain ⟨lacks, all⟩ := own.grows changed last fun h => h
      refine ⟨lacks, fun w grows => ?_⟩
      cases grows with
      | grows gains => exact all _ gains
    -- It is implied, and the entry is put further down.
    · split at changed
      · cases changed
      · rename_i long
        obtain ⟨lacks, all⟩ := own.grows changed last fun h => h
        refine ⟨lacks, fun w grows => ?_⟩
        cases grows with
        | grows gains =>
          obtain ⟨v', done, grows⟩ := all _ gains
          exact ⟨v', (if_neg long).trans done, grows⟩
    · split at changed
      · cases changed
      · obtain ⟨items, -, rfl⟩ := Option.map_eq_some_iff.1 changed
        exact absurd last (not_lacks_tables items)
    · cases changed

/-- A header that leads into a table does to a table with a key more what it did without. -/
theorem carries_within (own : Local op) {holder : Key}
    (plain : ∀ form, begun = some form → form = .dotted ∨ form = .implied) :
    Carries (Lacks begun x) (Grows begun x) h (Entries.within op [holder]) := by
  refine ⟨holder, _, touches_alter _ holder, fun _ u v changed last => ?_⟩
  have spares : Spares x (Entries.within op []) := own.spares x
  split at changed
  · refine ⟨nofun, fun w grows => ?_⟩
    obtain ⟨next, done, rfl⟩ := Option.map_eq_some_iff.1 changed
    obtain ⟨b, rfl, gains⟩ := grows.implied plain last (by decide)
    exact (spares.grows changed last fun h => h).2 b gains
  · cases changed
  · rename_i form inner other
    obtain ⟨lacks, all⟩ := spares.grows changed last fun h => h
    refine ⟨lacks, fun w grows => ?_⟩
    cases grows with
    | @grows _ _ b gains =>
      obtain ⟨v', done, grows⟩ := all _ gains
      refine ⟨v', ?_, grows⟩
      cases form with
      | inline => exact (other rfl).elim
      | _ => exact done
  · obtain ⟨items, -, rfl⟩ := Option.map_eq_some_iff.1 changed
    exact absurd last (not_lacks_tables items)
  · cases changed

/-- So does a header of its own, with the entries under it. -/
theorem carries_addTable {key : Key} {as : List Assignment}
    (plain : ∀ form, begun = some form → form = .dotted ∨ form = .implied) :
    Carries (Lacks begun x) (Grows begun x) h (Entries.addTable key as) := by
  refine ⟨key, _, touches_addTable key as, fun _ u v changed last => ?_⟩
  have spares := spares_putAll as x
  split at changed
  · refine ⟨nofun, fun w grows => ?_⟩
    obtain ⟨next, done, rfl⟩ := Option.map_eq_some_iff.1 changed
    obtain ⟨b, rfl, gains⟩ := grows.implied plain last (by decide)
    exact (spares.grows changed last fun h => h).2 b gains
  · obtain ⟨lacks, all⟩ := spares.grows changed last suits_implied
    refine ⟨lacks, fun w grows => ?_⟩
    cases grows with
    | grows gains => exact all _ gains
  · cases changed

/-- A header with double brackets leads to no such table. -/
theorem carries_addRepeated {key : Key} {as : List Assignment} {own : Entries}
    (put : Entries.putAll [] as = some own) :
    Carries (Lacks begun x) (Grows begun x) h (Entries.addRepeated key as) := by
  refine ⟨key, _, touches_addRepeated key put, fun _ u v changed last => ?_⟩
  split at changed
  · cases changed
    exact absurd last (not_lacks_tables _)
  · cases changed
    exact absurd last (not_lacks_tables _)
  · cases changed

/-- Every header does to a table with a key more what it did without. -/
theorem carries_section {s : Section}
    (plain : ∀ form, begun = some form → form = .dotted ∨ form = .implied) :
    Carries (Lacks begun x) (Grows begun x) h s.step := by
  obtain ⟨repeated, path, as⟩ := s
  match path with
  | [] => exact ⟨h, _, touches_never h, fun _ _ _ => nofun⟩
  | holder :: key :: path =>
    rw [section_cons]
    exact carries_within (local_section _) plain
  | [key] =>
    cases repeated with
    | false => exact carries_addTable plain
    | true =>
      cases put : Entries.putAll [] as with
      | some own => exact carries_addRepeated put
      | none =>
        refine ⟨h, fun _ => none, ⟨fun _ => ?_, nofun⟩, fun _ _ _ => nofun⟩
        simp [Entries.addSection, Entries.within, Entries.addRepeated, put]

end Grows

/-! ## Where a key is added -/

section Add

variable {begun : Option Form} {op : Step} {change : Option Value → Option Value}
  {related : Option Value → Option Value → Prop} {x h : Key} {more : List Key}
  {a own final : Entries} {v : Value} {front back as : List Assignment} {before after : List Section}
  {repeated : Bool}

/-- What a step about a key leads to differs under that key. -/
theorem Touches.differ (touches : Touches op h change) (changed : change (a.get? h) = some v)
    (relates : related (a.get? h) (some v)) : ∃ b, op a = some b ∧ Differ h related a b := by
  obtain ⟨b, done, found, others⟩ := touches.runs changed
  refine ⟨b, done, ?_, others⟩
  rw [found]
  exact relates

/-- What is about a new key adds it. -/
theorem Touches.gains (touches : Touches op x change) (first : change none = some v)
    (new : a.get? x = none) : ∃ b, op a = some b ∧ Gains x a b := by
  rw [← new] at first
  exact touches.differ first ⟨new, nofun⟩

/-- A value can be put under a new key. -/
theorem put_gains (v : Value) (more : List Key) (new : a.get? x = none) :
    ∃ b, Entries.put v (x :: more) a = some b ∧ Gains x a b := by
  induction more generalizing x a with
  | nil => exact (touches_alter _ x).gains rfl new
  | cons key path ih =>
    obtain ⟨inner, put, -⟩ := ih (x := key) (a := []) rfl
    exact (touches_alter _ x).gains (congrArg (Option.map _) put) new

/-- A table can be added under a new key. -/
theorem section_gains (repeated : Bool) (more : List Key) (put : Entries.putAll [] as = some own)
    (new : a.get? x = none) : ∃ b, Section.step ⟨repeated, x :: more, as⟩ a = some b ∧ Gains x a b := by
  induction more generalizing x a with
  | nil =>
    cases repeated with
    | false => exact (touches_addTable x as).gains (congrArg (Option.map _) put) new
    | true => exact (touches_addRepeated x put).gains rfl new
  | cons key path ih =>
    obtain ⟨inner, done, -⟩ := ih (x := key) (a := []) rfl
    rw [section_cons]
    exact (touches_alter _ x).gains (congrArg (Option.map _) done) new

/-- A value can be put under a new key of a table that is written with dotted keys. -/
theorem put_grows (v : Value) (more : List Key) (lacks : Lacks (some .dotted) x (a.get? h)) :
    ∃ b, Entries.put v (h :: x :: more) a = some b ∧ Differ h (Grows (some .dotted) x) a b := by
  cases found : a.get? h with
  | none =>
    obtain ⟨inner, put, gains⟩ := put_gains v more (x := x) (a := []) rfl
    refine (touches_alter _ h).differ (v := .table .dotted inner) ?_ ?_ <;> rw [found]
    · exact congrArg (Option.map _) put
    · exact .begins rfl gains
  | some u =>
    rw [found] at lacks
    obtain ⟨form, inner, rfl, rfl, new⟩ := lacks u rfl
    obtain ⟨inner', put, gains⟩ := put_gains v more new
    refine (touches_alter _ h).differ (v := .table .dotted inner') ?_ ?_ <;> rw [found]
    · exact congrArg (Option.map _) put
    · exact .grows gains

/-- A table can be added under a new key of a table that does not stand between braces. -/
theorem section_grows (repeated : Bool) (more : List Key) (put : Entries.putAll [] as = some own)
    (lacks : Lacks (some .implied) x (a.get? h)) :
    ∃ b, Section.step ⟨repeated, h :: x :: more, as⟩ a = some b ∧
      Differ h (Grows (some .implied) x) a b := by
  rw [section_cons]
  cases found : a.get? h with
  | none =>
    obtain ⟨inner, done, gains⟩ := section_gains repeated more put (x := x) (a := []) rfl
    refine (touches_alter _ h).differ (v := .table .implied inner) ?_ ?_ <;> rw [found]
    · exact congrArg (Option.map _) done
    · exact .begins rfl gains
  | some u =>
    rw [found] at lacks
    obtain ⟨form, inner, rfl, suits, new⟩ := lacks u rfl
    obtain ⟨inner', done, gains⟩ := section_gains repeated more put new
    refine (touches_alter _ h).differ (v := .table form inner') ?_ ?_ <;> rw [found]
    · cases form with
      | inline => exact absurd rfl suits
      | _ => exact congrArg (Option.map _) done
    · exact .grows gains

/-- A step that adds a key can be done among others. -/
theorem insert_gains {ops later : List Step} (own : ∀ op ∈ later, Local op)
    (done : run (ops ++ later) a = some final) (new : final.get? x = none)
    (first : ∀ a, a.get? x = none → ∃ b, op a = some b ∧ Gains x a b) :
    ∃ final', run (ops ++ op :: later) a = some final' ∧ Gains x final final' :=
  Carries.insert op (fun op found => (own op found).carries _) done new first

/-- An entry with a new key can be added among those that are put into a table. -/
theorem putAll_gains (v : Value) (more : List Key) (put : Entries.putAll a (front ++ back) = some final)
    (new : final.get? x = none) :
    ∃ final', Entries.putAll a (front ++ ⟨x :: more, v⟩ :: back) = some final' ∧
      Gains x final final' := by
  rw [putAll_eq_run, List.map_append] at put ⊢
  refine insert_gains (fun op found => ?_) put new fun a new => put_gains v more new
  obtain ⟨a, -, rfl⟩ := List.mem_map.1 found
  exact local_put a.value a.path

/-- What comes of a step about a key differs under that key from what comes of another one instead. -/
theorem Touches.instead {op' : Step} {change' : Option Value → Option Value} {next : Entries}
    {good : Option Value → Prop} (touches : Touches op h change) (touches' : Touches op' h change')
    (done : run [op] a = some next) (last : good (next.get? h))
    (again : ∀ u v, change u = some v → good (some v) →
      ∃ v', change' u = some v' ∧ related (some v) (some v')) :
    ∃ next', run [op'] a = some next' ∧ Differ h related next next' := by
  obtain ⟨next, done, same⟩ := Option.bind_eq_some_iff.1 done
  cases same
  obtain ⟨v, changed, found, others⟩ := touches.of_some done
  rw [found] at last
  obtain ⟨v', changed', relates⟩ := again _ v changed last
  obtain ⟨next', done', found', others'⟩ := touches'.runs changed'
  refine ⟨next', Option.bind_eq_some_iff.2 ⟨next', done', rfl⟩, ?_, fun other apart => ?_⟩
  · rw [found, found']
    exact relates
  · rw [others other apart, others' other apart]

section Document

variable {sections : List Section} {entries : Entries}

/-- The steps of a document, of which some entries come first. -/
theorem table_front : Document.table ⟨front ++ back, sections⟩ =
    run (front.map Assignment.step ++ (back.map Assignment.step ++ sections.map Section.step)) [] := by
  rw [table_eq_run, List.map_append, List.append_assoc]

/-- The steps of a document, of which some sections come last. -/
theorem table_back : Document.table ⟨as, before ++ after⟩ =
    run (as.map Assignment.step ++ before.map Section.step ++ after.map Section.step) [] := by
  rw [table_eq_run, List.map_append, List.append_assoc]

/-- An entry with a new key can be added to a document. -/
theorem table_put (v : Value) (more : List Key)
    (table : Document.table ⟨front ++ back, sections⟩ = some entries) (new : entries.get? x = none) :
    ∃ entries', Document.table ⟨front ++ ⟨x :: more, v⟩ :: back, sections⟩ = some entries' ∧
      Gains x entries entries' := by
  rw [table_front] at table ⊢
  exact insert_gains (fun op found => local_of_mem found) table new fun a new => put_gains v more new

/-- A header with a new key can be added to a document. -/
theorem table_section (repeated : Bool) (more : List Key) (put : Entries.putAll [] front = some own)
    (table : Document.table ⟨as, before ++ after⟩ = some entries) (new : entries.get? x = none) :
    ∃ entries',
      Document.table ⟨as, before ++ ⟨repeated, x :: more, front⟩ :: after⟩ = some entries' ∧
      Gains x entries entries' := by
  rw [table_back] at table ⊢
  refine insert_gains (fun op found => ?_) table new fun a new => section_gains repeated more put new
  obtain ⟨s, -, rfl⟩ := List.mem_map.1 found
  exact local_section s

/-- An entry whose key leads into a table can be added, if dotted keys are used for that table. -/
theorem table_put_dotted (v : Value) (more : List Key)
    (plain : ∀ a ∈ back, ∀ inner, a.value ≠ .table .dotted inner)
    (table : Document.table ⟨front ++ back, sections⟩ = some entries)
    (lacks : Lacks (some .dotted) x (entries.get? h)) :
    ∃ entries', Document.table ⟨front ++ ⟨h :: x :: more, v⟩ :: back, sections⟩ = some entries' ∧
      Differ h (Grows (some .dotted) x) entries entries' := by
  rw [table_front] at table ⊢
  refine Carries.insert _ (fun op found => ?_) table lacks fun a lacks => put_grows v more lacks
  rcases List.mem_append.1 found with entry | header
  · obtain ⟨a, inside, rfl⟩ := List.mem_map.1 entry
    exact carries_put fun form same => ⟨(Option.some.inj same).symm, plain a inside⟩
  · obtain ⟨s, -, rfl⟩ := List.mem_map.1 header
    exact carries_section fun form same => .inl (Option.some.inj same).symm

/-- A header whose key leads into a table can be added, if that table does not stand between braces. -/
theorem table_section_below (repeated : Bool) (more : List Key)
    (put : Entries.putAll [] front = some own)
    (table : Document.table ⟨as, before ++ after⟩ = some entries)
    (lacks : Lacks (some .implied) x (entries.get? h)) :
    ∃ entries',
      Document.table ⟨as, before ++ ⟨repeated, h :: x :: more, front⟩ :: after⟩ = some entries' ∧
      Differ h (Grows (some .implied) x) entries entries' := by
  rw [table_back] at table ⊢
  refine Carries.insert _ (fun op found => ?_) table lacks fun a lacks => section_grows repeated more put lacks
  obtain ⟨s, -, rfl⟩ := List.mem_map.1 found
  exact carries_section fun form same => .inr (Option.some.inj same).symm

/-- An entry with a new key can be added under the header of a table. -/
theorem table_under (v : Value) (more : List Key)
    (table : Document.table ⟨as, before ++ ⟨false, [h], front ++ back⟩ :: after⟩ = some entries)
    (lacks : Lacks none x (entries.get? h)) :
    ∃ entries',
      Document.table ⟨as, before ++ ⟨false, [h], front ++ ⟨x :: more, v⟩ :: back⟩ :: after⟩ =
        some entries' ∧ Differ h (Grows none x) entries entries' := by
  rw [table_back] at table ⊢
  refine Carries.replace [Section.step _] [Section.step _] (fun op found => ?_) table lacks
    fun a next done lacks => ?_
  · obtain ⟨s, -, rfl⟩ := List.mem_map.1 found
    exact carries_section nofun
  · refine (touches_addTable h _).instead (touches_addTable h _) done lacks fun u w changed lacks => ?_
    split at changed
    · obtain ⟨inner, put, rfl⟩ := Option.map_eq_some_iff.1 changed
      obtain ⟨inner', put', gains⟩ := putAll_gains v more put (lacks_table.1 lacks).2
      exact ⟨_, congrArg (Option.map _) put', .grows gains⟩
    · obtain ⟨inner, put, rfl⟩ := Option.map_eq_some_iff.1 changed
      obtain ⟨inner', put', gains⟩ := putAll_gains v more put (lacks_table.1 lacks).2
      exact ⟨_, congrArg (Option.map _) put', .grows gains⟩
    · cases changed

/-- What comes behind the first entries of a document leaves a table as it is but for new keys. -/
theorem carries_back (h : Key) : ∀ op ∈ back.map Assignment.step ++ sections.map Section.step,
    Carries (Lacks none x) (Grows none x) h op := by
  intro op found
  rcases List.mem_append.1 found with entry | header
  · obtain ⟨a, -, rfl⟩ := List.mem_map.1 entry
    exact carries_put nofun
  · obtain ⟨s, -, rfl⟩ := List.mem_map.1 header
    exact carries_section nofun

/-- A key that a table does not have in the end is not written between its braces. -/
theorem get?_inline {inner : Entries}
    (table : Document.table ⟨front ++ ⟨[h], .table .inline inner⟩ :: back, sections⟩ = some entries)
    (lacks : Lacks none x (entries.get? h)) : inner.get? x = none := by
  rw [table_front, run_append] at table
  obtain ⟨a, -, later⟩ := Option.bind_eq_some_iff.1 table
  obtain ⟨next, put, later⟩ := Option.bind_eq_some_iff.1 later
  obtain ⟨lacks, -⟩ := Carries.all (carries_back h) later lacks
  obtain ⟨w, changed, found, -⟩ := (touches_alter _ h).of_some put
  rw [found] at lacks
  split at changed
  · cases changed
    exact (lacks_table.1 lacks).2
  · cases changed

/-- An entry with a new key can be added between the braces of a table. -/
theorem table_inline {inner inner' : Entries} (gains : Gains x inner inner')
    (table : Document.table ⟨front ++ ⟨[h], .table .inline inner⟩ :: back, sections⟩ = some entries)
    (lacks : Lacks none x (entries.get? h)) :
    ∃ entries',
      Document.table ⟨front ++ ⟨[h], .table .inline inner'⟩ :: back, sections⟩ = some entries' ∧
      Differ h (Grows none x) entries entries' := by
  rw [table_front] at table ⊢
  refine Carries.replace [Assignment.step _] [Assignment.step _] (carries_back h) table lacks
    fun a next done lacks => ?_
  refine (touches_alter _ h).instead (touches_alter _ h) done lacks fun u w changed _ => ?_
  cases u with
  | some old => cases changed
  | none =>
    cases changed
    exact ⟨_, rfl, .grows gains⟩

end Document

end Add

end Detour.Toml
