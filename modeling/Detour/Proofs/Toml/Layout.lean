import Detour.Proofs.Toml.Document
import Mathlib.Data.List.Perm.Basic
/-!
# Documents with tables in any form

A document that holds some values and some tables may write each table between braces, with dotted keys, or
under a header, and all of it in any order. Main statement: whichever way is taken, the table
of the document has the same values and tables in it, up to the order of entries.
-/

namespace Detour.Toml

open Grammar

/-- The ways to write a table. -/
inductive Way where
  /-- Between braces. -/
  | inline
  /-- Each entry under a key with two parts. -/
  | dotted
  /-- Under a header. -/
  | header
  deriving DecidableEq

/-- A table in a document. -/
structure Placed where
  /-- Its key. -/
  key : Key
  /-- Its entries. -/
  entries : Entries
  /-- How it is written. -/
  way : Way

/-- What of a table is written in front of the first header. -/
def Placed.assignments (t : Placed) : List Assignment :=
  match t.way with
  | .inline => [single (t.key, .table .inline t.entries)]
  | .dotted => t.entries.map fun entry => ⟨[t.key, entry.1], entry.2⟩
  | .header => []

/-- What of a table is written under a header. -/
def Placed.headers (t : Placed) : List (Key × Entries) :=
  match t.way with
  | .header => [(t.key, t.entries)]
  | _ => []

/-- A document writes entries and tables, in any order. -/
structure LaysOut (d : Document) (singles : Entries) (tables : List Placed) : Prop where
  /-- What is written in front of the first header. -/
  assignments : d.assignments.Perm (singles.map single ++ tables.flatMap Placed.assignments)
  /-- What is written under headers. -/
  sections : d.sections.Perm ((tables.flatMap Placed.headers).map headed)

/-- The entries that a table may come to: one with its entries in some order. A table without entries
that is written with dotted keys is not written at all. -/
def Placed.Comes (t : Placed) (out : Entries) : Prop :=
  (t.way = .dotted ∧ t.entries = [] ∧ out = []) ∨
    ∃ form inner, out = [(t.key, .table form inner)] ∧ inner.Perm t.entries

/-- What a table comes to if dotted keys have put some entries into it. -/
def Placed.result (t : Placed) (dotted : Entries) : Entries :=
  match t.way with
  | .inline => [(t.key, .table .inline t.entries)]
  | .dotted => if dotted = [] then [] else [(t.key, .table .dotted dotted)]
  | .header => [(t.key, .table .header t.entries)]

/-- Keys that start differently are no parts of each other. -/
theorem apart_of_ne {a b : Assignment} {h k : Key} {p q : List Key} (own : a.path = h :: p)
    (other : b.path = k :: q) (differs : h ≠ k) : Apart a b := by
  rw [Apart, own, other]
  refine ⟨?_, ?_⟩
  · rintro ⟨rest, same⟩
    exact differs (List.cons.inj same).1
  · rintro ⟨rest, same⟩
    exact differs (List.cons.inj same).1.symm

/-- What is written of a table starts with its key. -/
theorem Placed.path_of_mem {t : Placed} {a : Assignment} (found : a ∈ t.assignments) :
    a.path = [t.key] ∨ ∃ key, a.path = [t.key, key] := by
  unfold assignments at found
  split at found
  · exact .inl (List.mem_singleton.1 found ▸ rfl)
  · obtain ⟨entry, -, rfl⟩ := List.mem_map.1 found
    exact .inr ⟨entry.1, rfl⟩
  · cases found

section Table

variable {d : Document} {singles : Entries} {tables : List Placed}

/-- Keys in front of the first header have one part or two. -/
theorem LaysOut.path_cases (h : LaysOut d singles tables) :
    ∀ a ∈ d.assignments, (∃ key, a.path = [key]) ∨ ∃ holder key, a.path = [holder, key] := by
  intro a found
  rw [h.assignments.mem_iff, List.mem_append, List.mem_flatMap] at found
  rcases found with one | ⟨t, -, inside⟩
  · obtain ⟨entry, -, rfl⟩ := List.mem_map.1 one
    exact .inl ⟨entry.1, rfl⟩
  · rcases Placed.path_of_mem inside with path | ⟨key, path⟩
    · exact .inl ⟨_, path⟩
    · exact .inr ⟨_, _, path⟩

/-- No key in a document with different keys is a part of another. -/
theorem LaysOut.pairwise_apart (h : LaysOut d singles tables)
    (keys : (singles.map (·.1) ++ tables.map (·.key)).Nodup)
    (inner : ∀ t ∈ tables, (t.entries.map (·.1)).Nodup) : d.assignments.Pairwise Apart := by
  have symm {a b : Assignment} (apart : Apart a b) : Apart b a := ⟨apart.2, apart.1⟩
  obtain ⟨ones, several, cross⟩ := List.nodup_append.1 keys
  have start {t : Placed} {a : Assignment} (found : a ∈ t.assignments) : ∃ p, a.path = t.key :: p := by
    rcases Placed.path_of_mem found with path | ⟨key, path⟩
    · exact ⟨[], path⟩
    · exact ⟨[key], path⟩
  rw [h.assignments.pairwise_iff symm, List.pairwise_append, List.pairwise_map, List.pairwise_flatMap]
  refine ⟨?_, ⟨fun t found => ?_, ?_⟩, ?_⟩
  · exact (List.pairwise_map.1 ones).imp fun differs => apart_of_ne rfl rfl differs
  · unfold Placed.assignments
    split
    · exact List.pairwise_singleton _ _
    · refine List.pairwise_map.2 ((List.pairwise_map.1 (inner t found)).imp fun differs => ?_)
      constructor
      · rintro ⟨rest, same⟩
        simp_all
      · rintro ⟨rest, same⟩
        simp_all
    · exact List.Pairwise.nil
  · refine (List.pairwise_map.1 several).imp fun differs a inA b inB => ?_
    obtain ⟨p, own⟩ := start inA
    obtain ⟨q, other⟩ := start inB
    exact apart_of_ne own other differs
  · intro a inA b inB
    obtain ⟨entry, one, rfl⟩ := List.mem_map.1 inA
    obtain ⟨t, found, inT⟩ := List.mem_flatMap.1 inB
    obtain ⟨q, other⟩ := start inT
    exact apart_of_ne rfl other
      (cross _ (List.mem_map_of_mem one) _ (List.mem_map_of_mem found))

/-- The entries of the document itself are single ones and tables between braces. -/
theorem LaysOut.single_mem (h : LaysOut d singles tables) {entry : Key × Value} :
    single entry ∈ d.assignments ↔
      entry ∈ singles ∨ ∃ t ∈ tables, t.way = .inline ∧ entry = (t.key, .table .inline t.entries) := by
  rw [h.assignments.mem_iff, List.mem_append, List.mem_flatMap]
  refine or_congr ⟨fun found => ?_, List.mem_map_of_mem⟩ (exists_congr fun t => and_congr_right fun _ => ?_)
  · obtain ⟨other, inside, same⟩ := List.mem_map.1 found
    exact single_inj.1 same ▸ inside
  · unfold Placed.assignments
    split
    · rename_i way
      simp [way, single_inj]
    · rename_i way
      simp [way, single]
    · rename_i way
      simp [way]

/-- What dotted keys put into a table are the entries of a table that is written with them. -/
theorem LaysOut.mem_tableOf (h : LaysOut d singles tables) {holder : Key} {entry : Key × Value} :
    entry ∈ tableOf holder d.assignments ↔
      ∃ t ∈ tables, t.way = .dotted ∧ t.key = holder ∧ entry ∈ t.entries := by
  obtain ⟨key, v⟩ := entry
  rw [Toml.mem_tableOf, h.assignments.mem_iff, List.mem_append, List.mem_flatMap]
  constructor
  · rintro (one | ⟨t, found, inside⟩)
    · obtain ⟨entry, -, same⟩ := List.mem_map.1 one
      simp [single] at same
    · refine ⟨t, found, ?_⟩
      unfold Placed.assignments at inside
      split at inside
      · simp [single] at inside
      · rename_i way
        obtain ⟨entry, written, same⟩ := List.mem_map.1 inside
        simp only [Assignment.mk.injEq, List.cons.injEq, and_true] at same
        obtain ⟨⟨rfl, rfl⟩, rfl⟩ := same
        exact ⟨way, rfl, written⟩
      · cases inside
  · rintro ⟨t, found, way, rfl, inside⟩
    refine .inr ⟨t, found, ?_⟩
    simp only [Placed.assignments, way]
    exact List.mem_map.2 ⟨_, inside, rfl⟩

/-- A table that is written with dotted keys gets its entries, in the order in which they are written. -/
theorem LaysOut.tableOf_perm (h : LaysOut d singles tables)
    (keys : (singles.map (·.1) ++ tables.map (·.key)).Nodup)
    (inner : ∀ t ∈ tables, (t.entries.map (·.1)).Nodup) {t : Placed} (found : t ∈ tables)
    (way : t.way = .dotted) : (tableOf t.key d.assignments).Perm t.entries := by
  have nodup : (tableOf t.key d.assignments).Nodup := by
    refine (h.pairwise_apart keys inner).filterMap _ fun a b differs x into y other => ?_
    rintro rfl
    rw [intoTable_eq_some.1 into, intoTable_eq_some.1 other] at differs
    exact differs.1 (List.prefix_refl _)
  have own : t.entries.Nodup := .of_map _ (inner t found)
  refine (List.perm_ext_iff_of_nodup nodup own).2 fun entry => ?_
  rw [h.mem_tableOf]
  constructor
  · rintro ⟨u, inTables, -, same, inside⟩
    obtain rfl := List.inj_on_of_nodup_map (List.nodup_append.1 keys).2.1 inTables found same
    exact inside
  · exact fun inside => ⟨t, found, way, rfl, inside⟩

/-- A table comes to one with its entries in some order. -/
theorem LaysOut.comes_result (h : LaysOut d singles tables)
    (keys : (singles.map (·.1) ++ tables.map (·.key)).Nodup)
    (inner : ∀ t ∈ tables, (t.entries.map (·.1)).Nodup) {t : Placed} (found : t ∈ tables) :
    t.Comes (t.result (tableOf t.key d.assignments)) := by
  unfold Placed.result
  split
  · exact .inr ⟨.inline, t.entries, rfl, .refl _⟩
  · rename_i way
    have perm := h.tableOf_perm keys inner found way
    split
    · rename_i nothing
      rw [nothing, List.nil_perm] at perm
      exact .inl ⟨way, perm, rfl⟩
    · exact .inr ⟨.dotted, _, rfl, perm⟩
  · exact .inr ⟨.header, t.entries, rfl, .refl _⟩

/-- What a table comes to stands under its key. -/
theorem Placed.key_of_mem_result {t : Placed} {dotted : Entries} {entry : Key × Value}
    (inside : entry ∈ t.result dotted) : entry.1 = t.key := by
  unfold result at inside
  split at inside
  · rw [List.mem_singleton.1 inside]
  · split at inside
    · cases inside
    · rw [List.mem_singleton.1 inside]
  · rw [List.mem_singleton.1 inside]

/-- What comes from the entries in front of the first header. -/
theorem LaysOut.comesFrom_iff (h : LaysOut d singles tables) {entry : Key × Value} :
    ComesFrom d.assignments entry ↔
      entry ∈ singles ∨ ∃ t ∈ tables, t.way ≠ .header ∧
        entry ∈ t.result (tableOf t.key d.assignments) := by
  rw [ComesFrom, h.single_mem, or_assoc]
  refine or_congr_right ?_
  constructor
  · rintro (⟨t, found, way, rfl⟩ | ⟨some, value⟩)
    · exact ⟨t, found, by simp [way], by simp [Placed.result, way]⟩
    · obtain ⟨first, rest, inside⟩ := List.exists_cons_of_ne_nil some
      obtain ⟨t, found, way, key, -⟩ := h.mem_tableOf.1 (inside ▸ List.mem_cons_self)
      refine ⟨t, found, by simp [way], ?_⟩
      simp only [Placed.result, way, key, if_neg some, List.mem_singleton]
      exact Prod.ext rfl value
  · rintro ⟨t, found, way, inside⟩
    have key := Placed.key_of_mem_result inside
    unfold Placed.result at inside
    split at inside
    · rename_i inline
      exact .inl ⟨t, found, inline, List.mem_singleton.1 inside⟩
    · split at inside
      · cases inside
      · rename_i some
        rw [key]
        exact .inr ⟨some, by rw [List.mem_singleton.1 inside]⟩
    · exact absurd (by assumption) way

/-- What is written under headers are the tables that are said to be. -/
theorem LaysOut.exists_headers (h : LaysOut d singles tables)
    (keys : (tables.map (·.key)).Nodup) :
    ∃ under : List (Key × Entries), d.sections = under.map headed ∧ (under.map (·.1)).Nodup ∧
      ∀ table, table ∈ under ↔ ∃ t ∈ tables, t.way = .header ∧ table = (t.key, t.entries) := by
  obtain ⟨under, sections, perm⟩ : ∃ under : List (Key × Entries), d.sections = under.map headed ∧
      under.Perm (tables.flatMap Placed.headers) :=
    (congrFun (congrFun (List.eq_map_comp_perm headed) _) _).mpr h.sections
  have own {t : Placed} {table : Key × Entries} :
      table ∈ t.headers ↔ t.way = .header ∧ table = (t.key, t.entries) := by
    unfold Placed.headers
    split
    · rename_i way
      simp [way]
    · rename_i way
      simpa using fun same _ => way same
  refine ⟨under, sections, ?_, fun table => ?_⟩
  · rw [(perm.map _).nodup_iff, List.Nodup, List.pairwise_map, List.pairwise_flatMap]
    refine ⟨fun t _ => ?_, (List.pairwise_map.1 keys).imp fun differs a inA b inB => ?_⟩
    · unfold Placed.headers
      split
      · exact List.pairwise_singleton _ _
      · exact List.Pairwise.nil
    · rw [(own.1 inA).2, (own.1 inB).2]
      exact differs
  · rw [perm.mem_iff, List.mem_flatMap]
    exact exists_congr fun t => and_congr_right fun _ => own

/-- Whichever way its tables are written and in whatever order its entries stand, a document has the same
entries and tables. -/
theorem LaysOut.exists_table (h : LaysOut d singles tables)
    (keys : (singles.map (·.1) ++ tables.map (·.key)).Nodup)
    (inner : ∀ t ∈ tables, (t.entries.map (·.1)).Nodup) :
    ∃ (entries : Entries) (out : Placed → Entries), d.table = some entries ∧
      (entries.map (·.1)).Nodup ∧ (∀ t ∈ tables, t.Comes (out t)) ∧
      ∀ entry, entry ∈ entries ↔ entry ∈ singles ∨ ∃ t ∈ tables, entry ∈ out t := by
  obtain ⟨ones, several, cross⟩ := List.nodup_append.1 keys
  obtain ⟨own, done, nodup, mem⟩ := exists_putAll h.path_cases (h.pairwise_apart keys inner)
  obtain ⟨under, sections, underNodup, inUnder⟩ := h.exists_headers several
  -- A table is written either in front of the first header or under a header, never in both places.
  have apart : (own.map (·.1) ++ under.map (·.1)).Nodup := by
    refine List.nodup_append.2 ⟨nodup, underNodup, fun key inOwn other underHeader => ?_⟩
    obtain ⟨entry, inside, rfl⟩ := List.mem_map.1 inOwn
    obtain ⟨table, found, rfl⟩ := List.mem_map.1 underHeader
    obtain ⟨t, inTables, way, rfl⟩ := (inUnder table).1 found
    rcases h.comesFrom_iff.1 ((mem entry).1 inside) with one | ⟨u, also, differs, result⟩
    · exact cross _ (List.mem_map_of_mem one) _ (List.mem_map_of_mem inTables)
    · rw [Placed.key_of_mem_result result]
      intro same
      obtain rfl := List.inj_on_of_nodup_map several also inTables same
      exact differs way
  have innerNodup : ∀ table ∈ under, (table.2.map (·.1)).Nodup := by
    intro table found
    obtain ⟨t, inTables, -, rfl⟩ := (inUnder table).1 found
    exact inner t inTables
  refine ⟨own ++ under.map fun table => (table.1, .table .header table.2),
    fun t => t.result (tableOf t.key d.assignments), ?_, ?_,
    fun t found => h.comes_result keys inner found, fun entry => ?_⟩
  · rw [Document.table, done, sections]
    exact foldlM_addSection apart innerNodup
  · rw [List.map_append, List.map_map]
    exact apart
  · rw [List.mem_append, mem, h.comesFrom_iff, or_assoc]
    refine or_congr_right ⟨?_, ?_⟩
    · rintro (⟨t, found, -, inside⟩ | underHeader)
      · exact ⟨t, found, inside⟩
      · obtain ⟨table, found, rfl⟩ := List.mem_map.1 underHeader
        obtain ⟨t, inTables, way, rfl⟩ := (inUnder table).1 found
        exact ⟨t, inTables, by simp [Placed.result, way]⟩
    · rintro ⟨t, found, inside⟩
      by_cases way : t.way = .header
      · simp only [Placed.result, way, List.mem_singleton] at inside
        exact .inr (List.mem_map.2 ⟨_, (inUnder _).2 ⟨t, found, way, rfl⟩, inside.symm⟩)
      · exact .inl ⟨t, found, way, inside⟩

end Table

end Detour.Toml
