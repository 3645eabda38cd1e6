import Detour.Proofs.Text.Split
import Detour.Text.Blank
import Mathlib.Data.List.DropRight
import Mathlib.Data.List.TakeWhile
/-!
# Blanks around a text

A text is its trimmed text with blanks in front and behind, and trimming does not see further blanks put
there. Main statement: these two facts, from which it follows that whatever is read of a trimmed text
does not depend on how it is set. A text without blanks at its ends is trimmed already.
-/

namespace Detour.Text

/-- Blanks in front are trimmed away. -/
theorem trimStart_append_of_blank {front : List Char} (blank : ∀ c ∈ front, isBlank c = true)
    (s : List Char) : trimStart (front ++ s) = trimStart s :=
  List.dropWhile_append_of_pos blank

/-- Blanks behind are trimmed away. -/
theorem trimEnd_append_of_blank {back : List Char} (blank : ∀ c ∈ back, isBlank c = true)
    (s : List Char) : trimEnd (s ++ back) = trimEnd s := by
  have reversed : ∀ c ∈ back.reverse, isBlank c = true := fun c found =>
    blank c (List.mem_reverse.1 found)
  rw [trimEnd, trimEnd, List.reverse_append, List.dropWhile_append_of_pos reversed]

/-- Of a text of blanks nothing is left in front. -/
theorem trimStart_of_blank {s : List Char} (blank : ∀ c ∈ s, isBlank c = true) : trimStart s = [] := by
  have all := trimStart_append_of_blank blank []
  rwa [List.append_nil] at all

/-- Nothing is left of a text of blanks. -/
theorem trim_of_blank {s : List Char} (blank : ∀ c ∈ s, isBlank c = true) : trim s = [] := by
  rw [trim, trimStart_of_blank blank, trimEnd_nil]

/-- Blanks behind a text are trimmed away with those in it. -/
theorem trim_append_of_blank {back : List Char} (blank : ∀ c ∈ back, isBlank c = true)
    (s : List Char) : trim (s ++ back) = trim s := by
  by_cases all : ∀ c ∈ s, isBlank c = true
  · rw [trim_of_blank all, trim_of_blank]
    intro c found
    rcases List.mem_append.1 found with inside | behind
    · exact all c inside
    · exact blank c behind
  · have rest : trimStart (s ++ back) = trimStart s ++ back := by
      have some : (s.dropWhile isBlank).isEmpty = false := by
        rw [List.isEmpty_eq_false_iff, Ne, List.dropWhile_eq_nil_iff]
        exact all
      rw [trimStart, List.dropWhile_append, some]
      rfl
    rw [trim, rest, trimEnd_append_of_blank blank]
    rfl

/-- Blanks around a text are trimmed away with those in it. -/
theorem trim_between_blanks {front back : List Char} (before : ∀ c ∈ front, isBlank c = true)
    (behind : ∀ c ∈ back, isBlank c = true) (s : List Char) :
    trim (front ++ s ++ back) = trim s := by
  rw [trim_append_of_blank behind, trim, trimStart_append_of_blank before]
  rfl

/-- A text is its trimmed text with blanks around it. -/
theorem exists_blanks (s : List Char) :
    ∃ front back, s = front ++ trim s ++ back ∧ (∀ c ∈ front, isBlank c = true) ∧
      ∀ c ∈ back, isBlank c = true := by
  refine ⟨s.takeWhile isBlank, ((trimStart s).reverse.takeWhile isBlank).reverse, ?_, ?_, ?_⟩
  · have ended : trimStart s = trim s ++ ((trimStart s).reverse.takeWhile isBlank).reverse := by
      rw [trim, trimEnd, ← List.reverse_append, List.takeWhile_append_dropWhile,
        List.reverse_reverse]
    calc s = s.takeWhile isBlank ++ trimStart s := (List.takeWhile_append_dropWhile).symm
      _ = s.takeWhile isBlank ++ (trim s ++ ((trimStart s).reverse.takeWhile isBlank).reverse) :=
        congrArg _ ended
      _ = _ := (List.append_assoc _ _ _).symm
  · exact fun c found => List.mem_takeWhile_imp found
  · intro c found
    exact List.mem_takeWhile_imp (List.mem_reverse.1 found)

/-- What is left after trimming was there before. -/
theorem mem_of_mem_trim {s : List Char} {c : Char} (h : c ∈ trim s) : c ∈ s := by
  obtain ⟨front, back, whole, -, -⟩ := exists_blanks s
  rw [whole]
  exact List.mem_append_left _ (List.mem_append_right _ h)

/-- A text without blanks at its ends is trimmed already. -/
theorem trim_of_ends {s : List Char} (first : ∀ c ∈ s.head?, isBlank c = false)
    (last : ∀ c ∈ s.getLast?, isBlank c = false) : trim s = s := by
  have back : ∀ c ∈ s.reverse.head?, isBlank c = false := by
    rw [List.head?_reverse]
    exact last
  rw [trim, trimStart, dropWhile_of_head? first, trimEnd, dropWhile_of_head? back,
    List.reverse_reverse]

/-- A trimmed text does not end with a blank. -/
theorem isBlank_of_getLast?_trim {s : List Char} : ∀ c ∈ (trim s).getLast?, isBlank c = false :=
  fun _ found => getLast?_trimEnd found

/-- A trimmed text does not start with a blank. -/
theorem isBlank_of_head?_trim {s : List Char} : ∀ c ∈ (trim s).head?, isBlank c = false := by
  intro c found
  have kept : trim s <+: trimStart s := by
    rw [trim, trimEnd, ← List.reverse_suffix, List.reverse_reverse]
    exact List.dropWhile_suffix _
  obtain ⟨back, whole⟩ := kept
  refine head?_trimStart (s := s) ?_
  rw [← whole, List.head?_append, Option.mem_def.1 found]
  rfl

section Strip

variable {α : Type} {p : α → Bool} {front back : List α}

/-- What does not have the property is kept in front of what is dropped. -/
theorem rdropWhile_append (kept : ∀ c ∈ front, p c = false) (back : List α) :
    (front ++ back).rdropWhile p = front ++ back.rdropWhile p := by
  have last : front.reverse.dropWhile p = front.reverse := dropWhile_of_head? fun c found =>
    kept c (List.mem_reverse.1 (List.mem_of_mem_head? found))
  rw [List.rdropWhile, List.rdropWhile, List.reverse_append, List.dropWhile_append, last]
  split
  · rename_i empty
    rw [List.isEmpty_iff.1 empty, List.reverse_reverse, List.reverse_nil, List.append_nil]
  · rw [List.reverse_append, List.reverse_reverse]

/-- A text without what has the property at its ends. -/
def strip (p : α → Bool) (s : List α) : List α := (s.dropWhile p).rdropWhile p

/-- What does not have the property is kept in front of what does not start with it. -/
theorem strip_append (kept : ∀ c ∈ front, p c = false) (stop : ∀ c ∈ back.head?, p c = false) :
    strip p (front ++ back) = front ++ strip p back := by
  have first : ∀ c ∈ (front ++ back).head?, p c = false := by
    cases front with
    | nil => exact stop
    | cons c others => exact fun d found => kept d (List.mem_of_mem_head? found)
  rw [strip, strip, dropWhile_of_head? first, dropWhile_of_head? stop, rdropWhile_append kept]

/-- What does not start with the property starts as before. -/
theorem head?_strip (stop : ∀ c ∈ back.head?, p c = false) : (strip p back).head? = back.head? := by
  cases back with
  | nil => rfl
  | cons c rest =>
    have kept : ∀ d ∈ [c], p d = false := List.forall_mem_singleton.2 (stop c rfl)
    rw [strip, dropWhile_of_head? stop, ← List.singleton_append, rdropWhile_append kept]
    rfl

end Strip

end Detour.Text
