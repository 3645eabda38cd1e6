import Detour.Toml.Record
import Mathlib.Data.List.Nodup
import Mathlib.Data.List.Perm.Basic
/-!
# Records from entries in any order

Main statements: where each entry has an effect of its own and effects under different keys may change
places, a record that is filled from entries does not depend on their order; and one entry that
does not fit is enough for nothing to be filled.
-/

namespace Detour.Toml.Schema

variable {α σ : Type} {s : Schema α} {draft : α} {entries : Entries}

/-- What entries are and what each of them does to a draft. -/
structure Effects (s : Schema α) (entry : σ → Key × Value) (apply : σ → α → α) : Prop where
  /-- An entry is taken and has its effect. -/
  fill (x : σ) (draft : α) : s.fillEntry draft (entry x) = .ok (apply x draft)
  /-- Effects of entries under different keys may change places. -/
  comm (x y : σ) (draft : α) (differs : (entry x).1 ≠ (entry y).1) :
    apply x (apply y draft) = apply y (apply x draft)

variable {entry : σ → Key × Value} {apply : σ → α → α}

/-- Entries have their effects in order. -/
theorem Effects.fillEntries (e : Effects s entry apply) (xs : List σ) (draft : α) :
    s.fillEntries draft (xs.map entry) = .ok (xs.foldl (fun d x => apply x d) draft) := by
  induction xs generalizing draft with
  | nil => rfl
  | cons x xs ih =>
    rw [List.map_cons, Schema.fillEntries, List.foldlM_cons, e.fill, List.foldl_cons]
    exact ih _

/-- A record does not depend on the order of the entries that it is filled from. -/
theorem Effects.fillEntries_perm (e : Effects s entry apply) {xs : List σ}
    (nodup : (xs.map fun x => (entry x).1).Nodup) (perm : entries.Perm (xs.map entry)) :
    s.fillEntries draft entries = .ok (xs.foldl (fun d x => apply x d) draft) := by
  obtain ⟨ys, rfl, same⟩ : ∃ ys : List σ, entries = ys.map entry ∧ ys.Perm xs :=
    (congrFun (congrFun (List.eq_map_comp_perm entry) _) _).mpr perm
  rw [e.fillEntries, same.foldl_eq' fun x inX y inY d => ?_]
  by_cases key : (entry x).1 = (entry y).1
  · have own := (same.map fun x => (entry x).1).nodup_iff.2 nodup
    rw [List.inj_on_of_nodup_map own inX inY key]
  · exact e.comm y x d (Ne.symm key)

/-- Nothing is filled if one of the entries never fits. -/
theorem fillEntries_error_of_mem {wrong : Key × Value} (found : wrong ∈ entries)
    (never : ∀ draft, ∃ e, s.fillEntry draft wrong = .error e) :
    ∃ e, s.fillEntries draft entries = .error e := by
  induction entries generalizing draft with
  | nil => cases found
  | cons first rest ih =>
    simp only [fillEntries, List.foldlM_cons]
    rcases List.mem_cons.1 found with rfl | later
    · obtain ⟨e, same⟩ := never draft
      exact ⟨e, by rw [same]; rfl⟩
    · cases filled : s.fillEntry draft first with
      | error e => exact ⟨e, rfl⟩
      | ok next => exact ih later

end Detour.Toml.Schema
