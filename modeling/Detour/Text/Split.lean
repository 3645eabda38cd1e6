/-!
# Pieces between separators

A text with `n` separators has `n + 1` pieces, some of them possibly empty. `splitOn` cuts a
text into its pieces and `joinWith` puts the separators back; the main statement is that nothing
is lost on the way.
-/

namespace Detour.Text

variable {α : Type}

/-- The pieces of a text whose first pieces are in `done` and whose open piece is `current`,
both last element first. -/
def splitFrom [DecidableEq α] (sep : α) (done : List (List α)) (current : List α) : List α → List (List α)
  | [] => (current.reverse :: done).reverse
  | c :: rest =>
    if c = sep then splitFrom sep (current.reverse :: done) [] rest
    else splitFrom sep done (c :: current) rest

/-- The pieces between the separators. -/
def splitOn [DecidableEq α] (sep : α) (s : List α) : List (List α) := splitFrom sep [] [] s

/-- Put the pieces together again, with a separator between any two. -/
def joinWith (sep : α) (pieces : List (List α)) : List α := [sep].intercalate pieces

/-- The pieces already read stay in front. -/
theorem splitFrom_done [DecidableEq α] (sep : α) (done : List (List α)) (current s : List α) :
    splitFrom sep done current s = done.reverse ++ splitFrom sep [] current s := by
  induction s generalizing done current with
  | nil => simp [splitFrom]
  | cons c rest ih =>
    by_cases hc : c = sep
    · simp only [splitFrom, hc, if_true]
      rw [ih (current.reverse :: done), ih [current.reverse]]
      simp
    · simp only [splitFrom, hc, if_false]
      exact ih done (c :: current)

/-- There is always a piece. -/
theorem splitFrom_ne_nil [DecidableEq α] (sep : α) (done : List (List α)) (current s : List α) :
    splitFrom sep done current s ≠ [] := by
  induction s generalizing done current with
  | nil => simp [splitFrom]
  | cons c rest ih =>
    rw [splitFrom]
    split
    · exact ih _ _
    · exact ih _ _

/-- There is always a piece. -/
theorem splitOn_ne_nil [DecidableEq α] (sep : α) (s : List α) : splitOn sep s ≠ [] :=
  splitFrom_ne_nil sep [] [] s

/-- Joining one piece adds no separator. -/
@[simp] theorem joinWith_singleton (sep : α) (p : List α) : joinWith sep [p] = p := by
  simp [joinWith]

/-- A separator follows the first of several pieces. -/
theorem joinWith_cons (sep : α) (p : List α) {rest : List (List α)} (h : rest ≠ []) :
    joinWith sep (p :: rest) = p ++ sep :: joinWith sep rest := by
  cases rest with
  | nil => exact absurd rfl h
  | cons q rest => simp [joinWith, List.intercalate, List.intersperse]

/-- A separator stands between two rows of pieces. -/
theorem joinWith_append (sep : α) {front back : List (List α)} (hf : front ≠ []) (hb : back ≠ []) :
    joinWith sep (front ++ back) = joinWith sep front ++ sep :: joinWith sep back := by
  induction front with
  | nil => exact absurd rfl hf
  | cons p rest ih =>
    cases rest with
    | nil => simp [joinWith_cons sep p hb]
    | cons q rest =>
      rw [List.cons_append, joinWith_cons sep p (by simp), ih (by simp),
        joinWith_cons sep p (by simp), List.append_assoc, List.cons_append]

/-- Joining the pieces gives the text back. -/
theorem joinWith_splitFrom [DecidableEq α] (sep : α) (current s : List α) :
    joinWith sep (splitFrom sep [] current s) = current.reverse ++ s := by
  induction s generalizing current with
  | nil => simp [splitFrom]
  | cons c rest ih =>
    by_cases hc : c = sep
    · simp only [splitFrom, hc, if_true]
      rw [splitFrom_done]
      simp only [List.reverse_cons, List.reverse_nil, List.nil_append, List.singleton_append]
      rw [joinWith_cons sep _ (splitFrom_ne_nil sep [] [] rest), ih]
      simp
    · simp only [splitFrom, hc, if_false]
      rw [ih]
      simp

/-- Joining the pieces gives the text back. -/
theorem joinWith_splitOn [DecidableEq α] (sep : α) (s : List α) : joinWith sep (splitOn sep s) = s := by
  simpa [splitOn] using joinWith_splitFrom sep [] s

end Detour.Text
