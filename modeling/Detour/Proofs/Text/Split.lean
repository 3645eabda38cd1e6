import Detour.Text.Split
/-!
# Cutting joined pieces

A text that was put together from pieces without separators is cut into these pieces again, and the
pieces of a text hold no separator. Main statement: cutting undoes joining.
-/

namespace Detour.Text

variable {α : Type} [DecidableEq α]

/-- What holds no separator is one piece. -/
theorem splitFrom_of_not_mem {sep : α} (current : List α) {s : List α} (h : sep ∉ s) :
    splitFrom sep [] current s = [current.reverse ++ s] := by
  induction s generalizing current with
  | nil => simp [splitFrom]
  | cons c rest ih =>
    have other : c ≠ sep := fun e => h (e ▸ List.mem_cons_self)
    rw [splitFrom, if_neg other, ih _ fun m => h (List.mem_cons_of_mem c m)]
    simp

/-- The pieces in front of a separator and those behind it follow each other. -/
theorem splitFrom_append_cons (sep : α) (current front back : List α) :
    splitFrom sep [] current (front ++ sep :: back) =
      splitFrom sep [] current front ++ splitFrom sep [] [] back := by
  induction front generalizing current with
  | nil =>
    have closed : splitFrom sep [] current (sep :: back) = splitFrom sep [current.reverse] [] back :=
      if_pos rfl
    rw [List.nil_append, closed, splitFrom_done]
    rfl
  | cons c front ih =>
    by_cases hc : c = sep
    · simp only [List.cons_append, splitFrom, if_pos hc]
      rw [splitFrom_done, ih, splitFrom_done sep [current.reverse] [] front, List.append_assoc]
    · simp only [List.cons_append, splitFrom, if_neg hc]
      exact ih (c :: current)

/-- The first separator ends the first piece. -/
theorem splitFrom_append {sep : α} (current : List α) {s : List α} (rest : List α) (h : sep ∉ s) :
    splitFrom sep [] current (s ++ sep :: rest) =
      (current.reverse ++ s) :: splitFrom sep [] [] rest := by
  rw [splitFrom_append_cons, splitFrom_of_not_mem current h, List.singleton_append]

/-- What holds no separator is one piece. -/
theorem splitOn_of_not_mem {sep : α} {s : List α} (h : sep ∉ s) : splitOn sep s = [s] :=
  splitFrom_of_not_mem [] h

/-- The pieces in front of a separator and those behind it follow each other. -/
theorem splitOn_append_cons (sep : α) (front back : List α) :
    splitOn sep (front ++ sep :: back) = splitOn sep front ++ splitOn sep back :=
  splitFrom_append_cons sep [] front back

/-- The first separator ends the first piece. -/
theorem splitOn_append {sep : α} {s : List α} (rest : List α) (h : sep ∉ s) :
    splitOn sep (s ++ sep :: rest) = s :: splitOn sep rest :=
  splitFrom_append [] rest h

/-- Cutting a text undoes joining its pieces. -/
theorem splitOn_joinWith {sep : α} {pieces : List (List α)} (some : pieces ≠ [])
    (h : ∀ p ∈ pieces, sep ∉ p) : splitOn sep (joinWith sep pieces) = pieces := by
  induction pieces with
  | nil => exact absurd rfl some
  | cons p rest ih =>
    have own := h p List.mem_cons_self
    cases rest with
    | nil => rw [joinWith_singleton, splitOn_of_not_mem own]
    | cons q rest =>
      have more : q :: rest ≠ [] := List.cons_ne_nil q rest
      rw [joinWith_cons sep p more, splitOn_append _ own,
        ih more fun r found => h r (List.mem_cons_of_mem p found)]

/-- The pieces of a text hold no separator. -/
theorem not_mem_of_mem_splitFrom {sep : α} {current s p : List α} (open_ : sep ∉ current)
    (h : p ∈ splitFrom sep [] current s) : sep ∉ p := by
  induction s generalizing current with
  | nil =>
    rw [splitFrom, List.reverse_singleton, List.mem_singleton] at h
    rw [h, List.mem_reverse]
    exact open_
  | cons c rest ih =>
    rw [splitFrom] at h
    split at h
    · rw [splitFrom_done, List.reverse_singleton, List.singleton_append, List.mem_cons] at h
      rcases h with rfl | later
      · rw [List.mem_reverse]
        exact open_
      · exact ih List.not_mem_nil later
    · rename_i other
      refine ih ?_ h
      rw [List.mem_cons]
      rintro (rfl | found)
      · exact other rfl
      · exact open_ found

/-- The pieces of a text hold no separator. -/
theorem not_mem_of_mem_splitOn {sep : α} {s p : List α} (h : p ∈ splitOn sep s) : sep ∉ p :=
  not_mem_of_mem_splitFrom List.not_mem_nil h

omit [DecidableEq α] in
/-- Joined pieces are the first of them with a separator behind each, and the others joined. -/
theorem joinWith_append_flatMap (sep : α) (front : List (List α)) {back : List (List α)}
    (some : back ≠ []) :
    joinWith sep (front ++ back) = front.flatMap (· ++ [sep]) ++ joinWith sep back := by
  induction front with
  | nil => rfl
  | cons p front ih =>
    rw [List.cons_append, joinWith_cons sep p (List.append_ne_nil_of_right_ne_nil front some), ih,
      List.flatMap_cons, List.append_assoc, List.append_assoc, List.singleton_append]

omit [DecidableEq α] in
/-- A joined text holds what its pieces hold, and separators. -/
theorem mem_joinWith {sep c : α} {pieces : List (List α)} (h : c ∈ joinWith sep pieces) :
    c = sep ∨ ∃ p ∈ pieces, c ∈ p := by
  induction pieces with
  | nil => cases h
  | cons p rest ih =>
    by_cases more : rest = []
    · subst more
      rw [joinWith_singleton] at h
      exact .inr ⟨p, List.mem_cons_self, h⟩
    · rw [joinWith_cons sep p more, List.mem_append, List.mem_cons] at h
      rcases h with own | rfl | later
      · exact .inr ⟨p, List.mem_cons_self, own⟩
      · exact .inl rfl
      · rcases ih later with e | ⟨q, found, inside⟩
        · exact .inl e
        · exact .inr ⟨q, List.mem_cons_of_mem p found, inside⟩

omit [DecidableEq α] in
/-- A joined text holds what its pieces hold. -/
theorem mem_joinWith_of_mem {sep c : α} {pieces : List (List α)} {p : List α} (piece : p ∈ pieces)
    (h : c ∈ p) : c ∈ joinWith sep pieces := by
  induction pieces with
  | nil => cases piece
  | cons q rest ih =>
    by_cases more : rest = []
    · subst more
      rw [joinWith_singleton, ← List.mem_singleton.1 piece]
      exact h
    · rw [joinWith_cons sep q more, List.mem_append, List.mem_cons]
      rcases List.mem_cons.1 piece with rfl | later
      · exact .inl h
      · exact .inr (.inr (ih later))

/-- The pieces of a text hold characters of the text. -/
theorem mem_of_mem_splitOn {sep c : α} {s p : List α} (piece : p ∈ splitOn sep s) (h : c ∈ p) :
    c ∈ s := by
  rw [← joinWith_splitOn sep s]
  exact mem_joinWith_of_mem piece h

/-- What holds no separator lengthens the last piece. -/
theorem splitOn_append_of_not_mem {sep : α} {more : List α} (h : sep ∉ more) (s : List α) :
    splitOn sep (s ++ more) =
      (splitOn sep s).dropLast ++ [(splitOn sep s).getLast (splitOn_ne_nil sep s) ++ more] := by
  have whole : (splitOn sep s).dropLast.flatMap (· ++ [sep]) ++
      (splitOn sep s).getLast (splitOn_ne_nil sep s) = s := by
    rw [← joinWith_singleton sep ((splitOn sep s).getLast (splitOn_ne_nil sep s)),
      ← joinWith_append_flatMap sep _ (List.cons_ne_nil _ _), List.dropLast_concat_getLast,
      joinWith_splitOn]
  have joined : s ++ more = joinWith sep
      ((splitOn sep s).dropLast ++ [(splitOn sep s).getLast (splitOn_ne_nil sep s) ++ more]) := by
    rw [joinWith_append_flatMap sep _ (List.cons_ne_nil _ _), joinWith_singleton, ← List.append_assoc,
      whole]
  rw [joined, splitOn_joinWith (by simp)]
  intro p piece
  rcases List.mem_append.1 piece with front | last
  · exact not_mem_of_mem_splitOn (List.dropLast_subset _ front)
  · rw [List.mem_singleton.1 last, List.mem_append]
    exact not_or.2 ⟨not_mem_of_mem_splitOn (List.getLast_mem _), h⟩

/-- A piece is no longer than the text. -/
theorem length_le_of_mem_splitOn {sep : α} {s p : List α} (h : p ∈ splitOn sep s) :
    p.length ≤ s.length := by
  have all (pieces : List (List α)) (piece : p ∈ pieces) :
      p.length ≤ (joinWith sep pieces).length := by
    induction pieces with
    | nil => cases piece
    | cons q rest ih =>
      by_cases more : rest = []
      · subst more
        have same : p = q := List.mem_singleton.1 piece
        exact Nat.le_of_eq (by rw [same, joinWith_singleton])
      · rw [joinWith_cons sep q more, List.length_append, List.length_cons]
        rcases List.mem_cons.1 piece with rfl | later
        · omega
        · have := ih later
          omega
  have whole := all _ h
  rwa [joinWith_splitOn] at whole

/-- Pieces are read if each of them is. -/
theorem mapM_eq_some_iff {β γ : Type} {read : β → Option γ} {pieces : List β} {results : List γ} :
    pieces.mapM read = some results ↔ pieces.map read = results.map some := by
  induction pieces generalizing results with
  | nil => cases results <;> simp
  | cons p rest ih =>
    rw [List.mapM_cons, List.map_cons]
    cases own : read p with
    | none => cases results <;> simp
    | some r =>
      cases others : rest.mapM read with
      | none =>
        have never (t : List γ) : rest.map read ≠ t.map some := fun e => by
          rw [ih.2 e] at others
          cases others
        cases results with
        | nil => simp
        | cons t ts => simp [never ts]
      | some ts =>
        have later := ih.1 others
        cases results with
        | nil => simp
        | cons t more =>
          have same : ts = more ↔ rest.map read = more.map some := by
            rw [later]
            exact (List.map_inj_right fun _ _ => Option.some.inj).symm
          simp [same]

/-- Pieces are not read if one of them is not. -/
theorem mapM_eq_none_of_mem {β γ : Type} {read : β → Option γ} {pieces : List β} {p : β}
    (piece : p ∈ pieces) (h : read p = none) : pieces.mapM read = none := by
  cases all : pieces.mapM read with
  | none => rfl
  | some results =>
    have inside : read p ∈ results.map some := by
      rw [← mapM_eq_some_iff.1 all]
      exact List.mem_map_of_mem piece
    obtain ⟨r, -, own⟩ := List.mem_map.1 inside
    rw [h] at own
    cases own

/-- What was read of pieces was read of one of them. -/
theorem exists_mem_of_mapM {β γ : Type} {read : β → Option γ} {pieces : List β} {results : List γ}
    {r : γ} (h : pieces.mapM read = some results) (found : r ∈ results) :
    ∃ p ∈ pieces, read p = some r := by
  have inside : some r ∈ pieces.map read := by
    rw [mapM_eq_some_iff.1 h]
    exact List.mem_map_of_mem found
  exact List.mem_map.1 inside

section Stops

variable {α : Type} {p : α → Bool} {front back : List α}

/-- What is taken ends where the property does. -/
theorem takeWhile_append_of_head? (all : ∀ c ∈ front, p c = true)
    (stop : ∀ c ∈ back.head?, p c = false) :
    (front ++ back).takeWhile p = front := by
  rw [List.takeWhile_append_of_pos all]
  cases back with
  | nil => simp
  | cons c rest =>
    rw [List.takeWhile_cons_of_neg (Bool.eq_false_iff.1 (stop c rfl)), List.append_nil]

/-- Nothing is dropped where the property does not start. -/
theorem dropWhile_of_head? (stop : ∀ c ∈ back.head?, p c = false) : back.dropWhile p = back := by
  cases back with
  | nil => rfl
  | cons c rest => rw [List.dropWhile_cons_of_neg (Bool.eq_false_iff.1 (stop c rfl))]

/-- What is dropped ends where the property does. -/
theorem dropWhile_append_of_head? (all : ∀ c ∈ front, p c = true)
    (stop : ∀ c ∈ back.head?, p c = false) :
    (front ++ back).dropWhile p = back := by
  rw [List.dropWhile_append_of_pos all, dropWhile_of_head? stop]

/-- A text that has the property throughout is taken whole. -/
theorem takeWhile_of_forall (all : ∀ c ∈ front, p c = true) : front.takeWhile p = front := by
  have whole : (front ++ []).takeWhile p = front ++ [].takeWhile p := List.takeWhile_append_of_pos all
  rwa [List.append_nil, List.takeWhile_nil, List.append_nil] at whole

/-- A text that has the property throughout is dropped whole. -/
theorem dropWhile_of_forall (all : ∀ c ∈ front, p c = true) : front.dropWhile p = [] := by
  have whole : (front ++ []).dropWhile p = [].dropWhile p := List.dropWhile_append_of_pos all
  rwa [List.append_nil, List.dropWhile_nil] at whole

end Stops

end Detour.Text
