import Detour.Text.Line
/-!
# Cutting into lines

How a text is cut into lines is said without reading it from front to back, and the same for characters
and for bytes. Main statement: every text is cut into lines in one way, which is the one in which it
is read, so that a text made of lines has these lines.
-/

namespace Detour.Text

section

variable {α : Type} {lf cr : α}

/-- How a text is cut into lines. -/
inductive Cut (lf cr : α) : List α → List (List α) → Prop where
  /-- The empty text has no lines. -/
  | done : Cut lf cr [] []
  /-- What no line feed ends is a line if it is not empty. -/
  | last {line : List α} (full : line ≠ []) (single : lf ∉ line) : Cut lf cr line [line]
  /-- A line ends at its line feed. -/
  | feed {line rest : List α} {lines : List (List α)} (single : lf ∉ line)
    (plain : line.getLast? ≠ some cr) (later : Cut lf cr rest lines) :
    Cut lf cr (line ++ lf :: rest) (line :: lines)
  /-- One carriage return in front of the line feed is not part of the line. -/
  | returned {line rest : List α} {lines : List (List α)} (single : lf ∉ line)
    (later : Cut lf cr rest lines) : Cut lf cr (line ++ cr :: lf :: rest) (line :: lines)

variable [DecidableEq α]

/-- Without a line feed the open line is the last one. -/
theorem linesFrom_of_not_mem {s : List α} (current : List α) (h : lf ∉ s) :
    linesFrom lf cr current s =
      if s.isEmpty && current.isEmpty then [] else [current.reverse ++ s] := by
  induction s generalizing current with
  | nil => simp [linesFrom]
  | cons c s ih =>
    have other : c ≠ lf := fun e => h (e ▸ List.mem_cons_self)
    rw [linesFrom, if_neg other, ih _ fun m => h (List.mem_cons_of_mem c m)]
    simp

/-- A line loses one carriage return at its end. -/
theorem closeLine_reverse_concat (cr : α) (line : List α) :
    closeLine cr (line ++ [cr]).reverse = line := by
  simp [closeLine]

/-- A line without a carriage return at its end stays as it is. -/
theorem closeLine_reverse {line : List α} (plain : line.getLast? ≠ some cr) :
    closeLine cr line.reverse = line := by
  rcases List.eq_nil_or_concat line with rfl | ⟨front, c, rfl⟩
  · rfl
  · have other : c ≠ cr := fun e => plain (by simp [e])
    simp [closeLine, other]

/-- A text is read in the way in which it is cut. -/
theorem Cut.linesOf_eq {s : List α} {lines : List (List α)} (other : cr ≠ lf)
    (h : Cut lf cr s lines) : linesOf lf cr s = lines := by
  induction h with
  | done => rfl
  | last full single =>
    rw [linesOf, linesFrom_of_not_mem [] single]
    simp [full]
  | feed single plain later ih =>
    rw [linesOf, linesFrom_append_lf _ _ _ _ _ single, List.append_nil, closeLine_reverse plain,
      ← linesOf, ih]
  | @returned line rest lines single later ih =>
    have free : lf ∉ line ++ [cr] := by simp [single, other.symm]
    have whole : line ++ cr :: lf :: rest = (line ++ [cr]) ++ lf :: rest := by simp
    rw [whole, linesOf, linesFrom_append_lf _ _ _ _ _ free, List.append_nil,
      closeLine_reverse_concat, ← linesOf, ih]

/-- Every text is cut in the way in which it is read. -/
theorem cut_linesOf (lf cr : α) (s : List α) : Cut lf cr s (linesOf lf cr s) := by
  induction length : s.length using Nat.strongRecOn generalizing s with
  | ind n ih =>
    by_cases found : lf ∈ s
    · obtain ⟨line, rest, rfl, single⟩ := List.eq_append_cons_of_mem found
      have later := ih rest.length (by simp [← length]; omega) rest rfl
      rw [linesOf, linesFrom_append_lf _ _ _ _ _ single, List.append_nil, ← linesOf]
      by_cases plain : line.getLast? = some cr
      · obtain ⟨front, rfl⟩ := List.getLast?_eq_some_iff.1 plain
        rw [closeLine_reverse_concat, List.append_assoc]
        exact .returned (fun m => single (List.mem_append_left _ m)) later
      · rw [closeLine_reverse plain]
        exact .feed single plain later
    · rw [linesOf, linesFrom_of_not_mem [] found]
      cases s with
      | nil => exact .done
      | cons c s => exact .last (List.cons_ne_nil c s) found

omit [DecidableEq α] in
/-- No line holds a line feed. -/
theorem Cut.not_mem {s : List α} {lines : List (List α)} (h : Cut lf cr s lines) :
    ∀ line ∈ lines, lf ∉ line := by
  induction h with
  | done => exact nofun
  | last full single => exact List.forall_mem_singleton.2 single
  | feed single plain later ih => exact List.forall_mem_cons.2 ⟨single, ih⟩
  | returned single later ih => exact List.forall_mem_cons.2 ⟨single, ih⟩

end

/-- A text ends its last line if it is empty or a line feed is its last character. What follows it starts a
line. -/
def EndsLine (s : List Char) : Prop := s = [] ∨ s.getLast? = some '\n'

instance (s : List Char) : Decidable (EndsLine s) := inferInstanceAs (Decidable (_ ∨ _))

/-- The lines of a text that ends its last line are followed by those of what is put behind it. -/
theorem lines_append {front : List Char} (ended : EndsLine front) (back : List Char) :
    lines (front ++ back) = lines front ++ lines back := by
  rcases ended with rfl | feed
  · rfl
  · obtain ⟨s, rfl⟩ := List.getLast?_eq_some_iff.1 feed
    suffices all : ∀ current, linesFrom '\n' '\r' current (s ++ ['\n'] ++ back) =
        linesFrom '\n' '\r' current (s ++ ['\n']) ++ lines back from all []
    clear feed
    induction s with
    | nil => exact fun _ => rfl
    | cons c s ih =>
      intro current
      simp only [List.cons_append, linesFrom]
      by_cases lf : c = '\n'
      · rw [if_pos lf, if_pos lf, ih, List.cons_append]
      · rw [if_neg lf, if_neg lf, ih]

/-- A line with a line feed behind it is the first line of a text, unless it ends with a carriage return. -/
theorem lines_append_feed {line : List Char} (single : '\n' ∉ line) (plain : line.getLast? ≠ some '\r')
    (s : List Char) : lines (line ++ '\n' :: s) = line :: lines s :=
  Cut.linesOf_eq (by decide) (.feed single plain (cut_linesOf '\n' '\r' s))

/-- A text made of lines with a line feed behind each has these lines, unless one ends with a carriage
return. -/
theorem lines_of_feeds {ls : List (List Char)} (single : ∀ line ∈ ls, '\n' ∉ line)
    (plain : ∀ line ∈ ls, line.getLast? ≠ some '\r') :
    lines (ls.flatMap (· ++ ['\n'])) = ls := by
  refine Cut.linesOf_eq (by decide) ?_
  induction ls with
  | nil => exact .done
  | cons line rest ih =>
    rw [List.flatMap_cons, List.append_assoc]
    exact .feed (List.forall_mem_cons.1 single).1 (List.forall_mem_cons.1 plain).1
      (ih (List.forall_mem_cons.1 single).2 (List.forall_mem_cons.1 plain).2)

end Detour.Text
