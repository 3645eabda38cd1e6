import Detour.Proofs.Toml.Grammar
import Mathlib.Data.List.Induction
import Mathlib.Data.List.Nodup
/-!
# Bringing entries together

Main statements: entries under different keys are kept in the order in which they are written; entries
of tables that are written with dotted keys come into these tables, in whatever order they
are written; and a header adds a table with the entries under it.
-/

namespace Detour.Toml

open Grammar

variable {entries more : Entries} {key : Key} {v : Value}

/-- What is put under a new key comes to the end. -/
theorem Entries.alter_of_not_mem {change : Option Value → Option Value}
    (new : key ∉ entries.map (·.1)) :
    Entries.alter change key entries = (change none).map fun v => entries ++ [(key, v)] := by
  induction entries with
  | nil => rfl
  | cons entry rest ih =>
    obtain ⟨k, w⟩ := entry
    rw [List.map_cons, List.mem_cons, not_or] at new
    rw [Entries.alter, if_neg (Ne.symm new.1), ih new.2, Option.map_map]
    rfl

/-- A new key is given a value. -/
theorem Entries.put_single (new : key ∉ entries.map (·.1)) :
    entries.put v [key] = some (entries ++ [(key, v)]) := by
  rw [Entries.put, Entries.alter_of_not_mem new]
  rfl

/-- A new key leaves the keys different. -/
theorem Entries.nodup_append (nodup : (entries.map (·.1)).Nodup) (new : key ∉ entries.map (·.1)) :
    ((entries ++ [(key, v)]).map (·.1)).Nodup := by
  rw [List.map_append, List.map_singleton, ← List.concat_eq_append]
  exact nodup.concat new

/-- Entries under different keys are put behind those that there are. -/
theorem Entries.putAll_single (nodup : ((entries ++ more).map (·.1)).Nodup) :
    Entries.putAll entries (more.map single) = some (entries ++ more) := by
  induction more generalizing entries with
  | nil =>
    rw [List.append_nil]
    rfl
  | cons entry more ih =>
    have new : entry.1 ∉ entries.map (·.1) := by
      rw [List.map_append, List.map_cons] at nodup
      intro found
      exact (List.nodup_append.1 nodup).2.2 _ found _ List.mem_cons_self rfl
    rw [List.append_cons] at nodup ⊢
    rw [List.map_cons, putAll, List.foldlM_cons, single, put_single new]
    exact ih nodup

/-- A value that may be changed is replaced where it stands. -/
theorem Entries.alter_of_mem {change : Option Value → Option Value} {old new : Value}
    (nodup : (entries.map (·.1)).Nodup) (found : (key, old) ∈ entries)
    (changed : change (some old) = some new) :
    ∃ altered, Entries.alter change key entries = some altered ∧
      altered.map (·.1) = entries.map (·.1) ∧
      ∀ entry, entry ∈ altered ↔ entry.1 ≠ key ∧ entry ∈ entries ∨ entry = (key, new) := by
  induction entries with
  | nil => cases found
  | cons first rest ih =>
    obtain ⟨k, w⟩ := first
    obtain ⟨other, later⟩ := List.nodup_cons.1 nodup
    rcases List.mem_cons.1 found with same | behind
    · cases same
      have apart {entry : Key × Value} (inside : entry ∈ rest) : entry.1 ≠ key := by
        rintro rfl
        exact other (List.mem_map.2 ⟨entry, inside, rfl⟩)
      refine ⟨(key, new) :: rest, ?_, rfl, fun entry => ?_⟩
      · rw [Entries.alter, if_pos rfl, changed]
        rfl
      · rw [List.mem_cons, List.mem_cons, or_comm]
        refine or_congr_left ⟨fun inside => ⟨apart inside, .inr inside⟩, ?_⟩
        rintro ⟨differs, rfl | inside⟩
        · exact absurd rfl differs
        · exact inside
    · obtain ⟨altered, done, keys, mem⟩ := ih later behind
      have differs : k ≠ key := by
        rintro rfl
        exact other (List.mem_map.2 ⟨_, behind, rfl⟩)
      refine ⟨(k, w) :: altered, ?_, ?_, fun entry => ?_⟩
      · rw [Entries.alter, if_neg differs, done]
        rfl
      · rw [List.map_cons, keys, List.map_cons]
      · rw [List.mem_cons, List.mem_cons, mem]
        constructor
        · rintro (rfl | ⟨apart, inside⟩ | same)
          · exact .inl ⟨differs, .inl rfl⟩
          · exact .inl ⟨apart, .inr inside⟩
          · exact .inr same
        · rintro (⟨apart, rfl | inside⟩ | same)
          · exact .inl rfl
          · exact .inr (.inl ⟨apart, inside⟩)
          · exact .inr (.inr same)

/-- A key is put into a table that was begun with dotted keys. -/
theorem Entries.put_dotted {holder : Key} {inner : Entries} (nodup : (entries.map (·.1)).Nodup)
    (inside : (holder, Value.table .dotted inner) ∈ entries) (new : key ∉ inner.map (·.1)) :
    ∃ altered, entries.put v [holder, key] = some altered ∧
      altered.map (·.1) = entries.map (·.1) ∧
      ∀ entry, entry ∈ altered ↔
        entry.1 ≠ holder ∧ entry ∈ entries ∨
          entry = (holder, .table .dotted (inner ++ [(key, v)])) := by
  rw [Entries.put]
  refine Entries.alter_of_mem nodup inside ?_
  dsimp only
  rw [put_single new]
  rfl

section Dotted

/-- What an assignment puts into the table under a key. -/
def intoTable (holder : Key) (a : Assignment) : Option (Key × Value) :=
  match a.path with
  | [h, key] => if h = holder then some (key, a.value) else none
  | _ => none

/-- What assignments put into the table under a key. -/
def tableOf (holder : Key) (as : List Assignment) : Entries := as.filterMap (intoTable holder)

/-- An entry comes from assignments: it is one of them, or a table into which they put something. -/
def ComesFrom (as : List Assignment) (entry : Key × Value) : Prop :=
  single entry ∈ as ∨
    tableOf entry.1 as ≠ [] ∧ entry.2 = .table .dotted (tableOf entry.1 as)

/-- Neither of two keys is a part of the other. -/
def Apart (a b : Assignment) : Prop := ¬a.path <+: b.path ∧ ¬b.path <+: a.path

/-- A key of two parts is put into the table that the first of them names. -/
theorem intoTable_eq_some {holder : Key} {a : Assignment} :
    intoTable holder a = some (key, v) ↔ a = ⟨[holder, key], v⟩ := by
  obtain ⟨path, w⟩ := a
  constructor
  · intro into
    unfold intoTable at into
    split at into
    · rename_i h k same
      split at into
      · rename_i own
        cases into
        cases same
        rw [own]
      · cases into
    · cases into
  · intro same
    rw [same]
    simp [intoTable]

/-- What comes into a table was put there. -/
theorem mem_tableOf {as : List Assignment} {holder : Key} :
    (key, v) ∈ tableOf holder as ↔ ⟨[holder, key], v⟩ ∈ as := by
  rw [tableOf, List.mem_filterMap]
  constructor
  · rintro ⟨a, found, into⟩
    exact intoTable_eq_some.1 into ▸ found
  · exact fun found => ⟨_, found, intoTable_eq_some.2 rfl⟩

/-- An entry is found in the assignment that writes it. -/
theorem single_inj {a b : Key × Value} : single a = single b ↔ a = b := by
  obtain ⟨k, v⟩ := a
  obtain ⟨l, w⟩ := b
  simp [single]

/-- An assignment under a single key adds an entry. -/
theorem comesFrom_append_single {as : List Assignment} {added entry : Key × Value} :
    ComesFrom (as ++ [single added]) entry ↔ ComesFrom as entry ∨ entry = added := by
  have same (holder : Key) : tableOf holder (as ++ [single added]) = tableOf holder as := by
    rw [tableOf, List.filterMap_append, ← tableOf]
    exact List.append_nil _
  rw [ComesFrom, ComesFrom, same, List.mem_append, List.mem_singleton, single_inj, or_right_comm]

/-- An assignment under a key of two parts is found behind the others in the table that the first of them
names. -/
theorem comesFrom_append_dotted {as : List Assignment} {holder : Key} {entry : Key × Value}
    (free : ∀ w, (⟨[holder], w⟩ : Assignment) ∉ as) :
    ComesFrom (as ++ [⟨[holder, key], v⟩]) entry ↔
      entry.1 ≠ holder ∧ ComesFrom as entry ∨
        entry = (holder, .table .dotted (tableOf holder as ++ [(key, v)])) := by
  have table (h : Key) : tableOf h (as ++ [⟨[holder, key], v⟩]) =
      if holder = h then tableOf h as ++ [(key, v)] else tableOf h as := by
    rw [tableOf, List.filterMap_append, ← tableOf]
    by_cases same : holder = h
    · simp [intoTable, same]
    · simp [intoTable, same]
  have one : single entry ∈ as ++ [⟨[holder, key], v⟩] ↔ single entry ∈ as := by
    simp [single]
  obtain ⟨k, w⟩ := entry
  rw [ComesFrom, ComesFrom, one, table]
  by_cases same : holder = k
  · subst same
    have none : single (holder, w) ∉ as := free w
    simp [none]
  · simp [same, Ne.symm same]

/-- Entries are those that come from assignments. -/
structure Gathers (as : List Assignment) (entries : Entries) : Prop where
  /-- Their keys are different. -/
  nodup : (entries.map (·.1)).Nodup
  /-- They are found in the assignments. -/
  mem (entry : Key × Value) : entry ∈ entries ↔ ComesFrom as entry

section Gathers

variable {as : List Assignment}

/-- A key is new among entries if nothing was put under it. -/
theorem Gathers.not_mem {a : Assignment} {path : List Key} (gathers : Gathers as entries)
    (start : a.path = key :: path) (fresh : ∀ b ∈ as, Apart b a) (table : tableOf key as = []) :
    key ∉ entries.map (·.1) := by
  intro found
  obtain ⟨entry, inside, rfl⟩ := List.mem_map.1 found
  rcases (gathers.mem entry).1 inside with one | ⟨some, -⟩
  · refine (fresh _ one).1 ?_
    rw [start]
    exact ⟨path, rfl⟩
  · exact some table

/-- An assignment under a single key is put behind the others. -/
theorem Gathers.put_single (gathers : Gathers as entries) (fresh : ∀ b ∈ as, Apart b ⟨[key], v⟩) :
    ∃ longer, entries.put v [key] = some longer ∧ Gathers (as ++ [⟨[key], v⟩]) longer := by
  have table : tableOf key as = [] := by
    refine List.eq_nil_iff_forall_not_mem.2 fun entry inside => ?_
    exact (fresh _ (mem_tableOf.1 inside)).2 ⟨[entry.1], rfl⟩
  have new := gathers.not_mem rfl fresh table
  refine ⟨entries ++ [(key, v)], Entries.put_single new, Entries.nodup_append gathers.nodup new,
    fun entry => ?_⟩
  rw [List.mem_append, gathers.mem, List.mem_singleton]
  exact comesFrom_append_single.symm

/-- An assignment under a key of two parts begins a table or goes on with one. -/
theorem Gathers.put_dotted {holder : Key} (gathers : Gathers as entries)
    (fresh : ∀ b ∈ as, Apart b ⟨[holder, key], v⟩) :
    ∃ longer, entries.put v [holder, key] = some longer ∧
      Gathers (as ++ [⟨[holder, key], v⟩]) longer := by
  have free : ∀ w, (⟨[holder], w⟩ : Assignment) ∉ as :=
    fun w found => (fresh _ found).1 ⟨[key], rfl⟩
  by_cases table : tableOf holder as = []
  · have new := gathers.not_mem rfl fresh table
    refine ⟨entries ++ [(holder, .table .dotted [(key, v)])], ?_,
      Entries.nodup_append gathers.nodup new, fun entry => ?_⟩
    · rw [Entries.put, Entries.alter_of_not_mem new]
      rfl
    · have other (inside : entry ∈ entries) : entry.1 ≠ holder := by
        rintro rfl
        exact new (List.mem_map_of_mem inside)
      rw [comesFrom_append_dotted free, table, List.mem_append, List.mem_singleton, ← gathers.mem]
      exact or_congr_left ⟨fun inside => ⟨other inside, inside⟩, And.right⟩
  · have inside : (holder, Value.table .dotted (tableOf holder as)) ∈ entries :=
      (gathers.mem _).2 (.inr ⟨table, rfl⟩)
    have new : key ∉ (tableOf holder as).map (·.1) := by
      intro found
      obtain ⟨⟨k, w⟩, written, rfl⟩ := List.mem_map.1 found
      exact (fresh _ (mem_tableOf.1 written)).1 (List.prefix_refl _)
    obtain ⟨altered, done, keys, inAltered⟩ := Entries.put_dotted gathers.nodup inside new
    refine ⟨altered, done, ?_, fun entry => ?_⟩
    · rw [keys]
      exact gathers.nodup
    · rw [comesFrom_append_dotted free, inAltered, gathers.mem]

/-- What comes from assignments under keys of which none is a part of another is put together. -/
theorem exists_putAll
    (short : ∀ a ∈ as, (∃ key, a.path = [key]) ∨ ∃ holder key, a.path = [holder, key])
    (apart : as.Pairwise Apart) :
    ∃ entries, Entries.putAll [] as = some entries ∧ Gathers as entries := by
  -- By induction on what has been put together, the assignment that comes next standing last.
  induction as using List.reverseRecOn with
  | nil => exact ⟨[], rfl, List.nodup_nil, by simp [ComesFrom, tableOf]⟩
  | append_singleton as a ih =>
    obtain ⟨before, -, others⟩ := List.pairwise_append.1 apart
    obtain ⟨entries, done, gathers⟩ := ih (fun b found => short b (List.mem_append_left _ found)) before
    have step : Entries.putAll [] (as ++ [a]) = entries.put a.value a.path := by
      have front : as.foldlM (fun entries a => Entries.put a.value a.path entries) [] = some entries := done
      rw [Entries.putAll, List.foldlM_append, front]
      simp
    have fresh : ∀ b ∈ as, Apart b a := fun b found => others b found a (List.mem_singleton_self a)
    obtain ⟨path, v⟩ := a
    rw [step]
    rcases short _ (List.mem_append_right _ (List.mem_singleton_self _)) with
      ⟨key, rfl⟩ | ⟨holder, key, rfl⟩
    · exact gathers.put_single fresh
    · exact gathers.put_dotted fresh

end Gathers

end Dotted

/-- A header with entries under it. -/
def headed (table : Key × Entries) : Section := ⟨false, [table.1], table.2.map single⟩

/-- Headers with new keys add their tables. -/
theorem foldlM_addSection {tables : List (Key × Entries)}
    (nodup : (entries.map (·.1) ++ tables.map (·.1)).Nodup)
    (inner : ∀ table ∈ tables, (table.2.map (·.1)).Nodup) :
    (tables.map headed).foldlM Entries.addSection entries =
      some (entries ++ tables.map fun table => (table.1, .table .header table.2)) := by
  induction tables generalizing entries with
  | nil =>
    rw [List.map_nil, List.map_nil, List.append_nil]
    rfl
  | cons table rest ih =>
    obtain ⟨own, others⟩ := List.forall_mem_cons.1 inner
    have new : table.1 ∉ entries.map (·.1) := fun found =>
      (List.nodup_append.1 nodup).2.2 _ found _ List.mem_cons_self rfl
    have none : Entries.get? entries table.1 = none := by
      rw [Entries.get?, List.lookup_eq_none_iff]
      intro entry found
      rw [bne_iff_ne]
      intro same
      exact new (same ▸ List.mem_map_of_mem found)
    have added : entries.addSection (headed table) =
        some (entries ++ [(table.1, .table .header table.2)]) := by
      have put : Entries.putAll [] (table.2.map single) = some table.2 := Entries.putAll_single own
      simp [Entries.addSection, headed, Entries.within, Entries.addTable, none, put]
    have keys : ((entries ++ [(table.1, Value.table .header table.2)]).map (·.1) ++
        rest.map (·.1)).Nodup := by
      rw [List.map_append]
      rwa [List.map_cons, List.append_cons] at nodup
    have later := ih keys others
    rw [List.append_assoc] at later
    rw [List.map_cons, List.foldlM_cons, added]
    exact later

end Detour.Toml
