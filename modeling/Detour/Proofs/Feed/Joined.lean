import Detour.Proofs.Feed
import Detour.Proofs.Text.Blank
import Detour.Proofs.Text.Split
import Mathlib.Data.List.Basic
/-!
# Lists put together

A list may be made of other texts with line feeds between them. Main statements: the entries of the whole
are those of its parts, one after another, and a text with one line feed or none between other characters
than blanks has the entry that it has as a line of its own.
-/

namespace Detour.Rule

/-- What a line is read as depends on the line without the blanks at its ends. -/
theorem readLine_congr {line other : List Char} (same : Text.trim line = Text.trim other) :
    readLine line = readLine other := by
  rw [readLine, readLine, same]

/-- A line of blanks has no entry. -/
theorem readLine_of_blank {line : List Char} (blank : ∀ c ∈ line, Text.isBlank c = true) :
    readLine line = none := by
  rw [readLine, Text.trim_of_blank blank]
  rfl

/-- A carriage return at the end of a line plays no part. -/
theorem readLine_closeLine (current : List Char) :
    readLine (Text.closeLine '\r' current) = readLine current.reverse := by
  cases current with
  | nil => rfl
  | cons c before =>
    by_cases cr : c = '\r'
    · have blank : ∀ c ∈ ['\r'], Text.isBlank c = true := List.forall_mem_singleton.2 (by decide)
      rw [Text.closeLine, if_pos cr, cr, List.reverse_cons]
      exact readLine_congr (Text.trim_append_of_blank blank before.reverse).symm
    · rw [Text.closeLine, if_neg cr]

/-- One line has at most one entry. -/
theorem entries_singleton (line : List Char) : entries [line] = (readLine line).toList := by
  rw [entries_cons, entries_nil, List.append_nil]

/-- The entries of the lines of a text whose first line has begun, and of what follows a line feed. -/
theorem entries_linesFrom_append (current front back : List Char) :
    entries (Text.linesFrom '\n' '\r' current (front ++ '\n' :: back)) =
      entries (Text.linesFrom '\n' '\r' current front) ++ entries (Text.lines back) := by
  induction front generalizing current with
  | nil =>
    have closed : entries (Text.linesFrom '\n' '\r' current []) = (readLine current.reverse).toList := by
      cases current with
      | nil => rfl
      | cons c before => exact entries_singleton (c :: before).reverse
    have ended : Text.linesFrom '\n' '\r' current ('\n' :: back) =
        Text.closeLine '\r' current :: Text.lines back := rfl
    rw [List.nil_append, ended, entries_cons, readLine_closeLine, closed]
  | cons c rest ih =>
    rw [List.cons_append, Text.linesFrom, Text.linesFrom]
    by_cases lf : c = '\n'
    · rw [if_pos lf, if_pos lf, entries_cons, ih, entries_cons, List.append_assoc]
    · rw [if_neg lf, if_neg lf, ih]

/-- The entries of two texts with a line feed between them follow each other. -/
theorem entries_lines_append (front back : List Char) :
    entries (Text.lines (front ++ '\n' :: back)) =
      entries (Text.lines front) ++ entries (Text.lines back) :=
  entries_linesFrom_append [] front back

/-- A text without line feeds is at most one line. -/
theorem entries_lines_of_not_mem {s : List Char} (single : '\n' ∉ s) :
    entries (Text.lines s) = (readLine s).toList := by
  suffices all : ∀ current, entries (Text.linesFrom '\n' '\r' current s) =
      (readLine (current.reverse ++ s)).toList from all []
  induction s with
  | nil =>
    intro current
    rw [List.append_nil]
    cases current with
    | nil => rfl
    | cons c before => exact entries_singleton (c :: before).reverse
  | cons c rest ih =>
    intro current
    have other : c ≠ '\n' := fun e => single (e ▸ List.mem_cons_self)
    have later : '\n' ∉ rest := fun found => single (List.mem_cons_of_mem c found)
    rw [Text.linesFrom, if_neg other, ih later, List.reverse_cons, List.append_assoc,
      List.singleton_append]

/-- A text of blanks has no entries, however many lines it has. -/
theorem entries_lines_of_blank {s : List Char} (blank : ∀ c ∈ s, Text.isBlank c = true) :
    entries (Text.lines s) = [] := by
  -- At each line feed the text in front of it is one line of blanks.
  by_cases lf : '\n' ∈ s
  · obtain ⟨front, back, rfl, single⟩ := List.eq_append_cons_of_mem lf
    have before : ∀ c ∈ front, Text.isBlank c = true := fun c found =>
      blank c (List.mem_append_left _ found)
    have behind : ∀ c ∈ back, Text.isBlank c = true := fun c found =>
      blank c (List.mem_append_right _ (List.mem_cons_of_mem _ found))
    rw [entries_lines_append, entries_lines_of_not_mem single, readLine_of_blank before,
      entries_lines_of_blank behind]
    rfl
  · rw [entries_lines_of_not_mem lf, readLine_of_blank blank]
    rfl
termination_by s.length

/-- Of blanks in front of a text only those behind their last line feed belong to a line of it. -/
theorem exists_blanks_ahead {front : List Char} (blank : ∀ c ∈ front, Text.isBlank c = true) :
    ∃ own, '\n' ∉ own ∧ (∀ c ∈ own, Text.isBlank c = true) ∧
      ∀ s, entries (Text.lines (front ++ s)) = entries (Text.lines (own ++ s)) := by
  by_cases lf : '\n' ∈ front
  · obtain ⟨first, rest, rfl, -⟩ := List.eq_append_cons_of_mem lf
    have firstBlank : ∀ c ∈ first, Text.isBlank c = true := fun c found =>
      blank c (List.mem_append_left _ found)
    have restBlank : ∀ c ∈ rest, Text.isBlank c = true := fun c found =>
      blank c (List.mem_append_right _ (List.mem_cons_of_mem _ found))
    obtain ⟨own, single, ownBlank, same⟩ := exists_blanks_ahead restBlank
    refine ⟨own, single, ownBlank, fun s => ?_⟩
    rw [List.append_assoc, List.cons_append, entries_lines_append,
      entries_lines_of_blank firstBlank, List.nil_append, same]
  · exact ⟨front, lf, blank, fun _ => rfl⟩
termination_by front.length

/-- Of blanks behind a text only those before their first line feed belong to a line of it. -/
theorem exists_blanks_behind {back : List Char} (blank : ∀ c ∈ back, Text.isBlank c = true) :
    ∃ own, '\n' ∉ own ∧ (∀ c ∈ own, Text.isBlank c = true) ∧
      ∀ s, entries (Text.lines (s ++ back)) = entries (Text.lines (s ++ own)) := by
  by_cases lf : '\n' ∈ back
  · obtain ⟨own, rest, rfl, single⟩ := List.eq_append_cons_of_mem lf
    have restBlank : ∀ c ∈ rest, Text.isBlank c = true := fun c found =>
      blank c (List.mem_append_right _ (List.mem_cons_of_mem _ found))
    refine ⟨own, single, fun c found => blank c (List.mem_append_left _ found), fun s => ?_⟩
    rw [← List.append_assoc, entries_lines_append, entries_lines_of_blank restBlank,
      List.append_nil]
  · exact ⟨back, lf, blank, fun _ => rfl⟩

/-- A text with line feeds among the blanks at its ends only has the entry of a single line. -/
theorem entries_lines_of_trim {s : List Char} (single : '\n' ∉ Text.trim s) :
    entries (Text.lines s) = (readLine s).toList := by
  obtain ⟨front, back, whole, before, behind⟩ := Text.exists_blanks s
  obtain ⟨ahead, aheadSingle, aheadBlank, sameAhead⟩ := exists_blanks_ahead before
  obtain ⟨after, afterSingle, afterBlank, sameAfter⟩ := exists_blanks_behind behind
  have own : '\n' ∉ ahead ++ Text.trim s ++ after := by
    simp only [List.mem_append, not_or]
    exact ⟨⟨aheadSingle, single⟩, afterSingle⟩
  have trimmed : Text.trim (ahead ++ Text.trim s ++ after) = Text.trim s := by
    rw [Text.trim_between_blanks aheadBlank afterBlank, ← Text.trim_between_blanks before behind,
      ← whole]
  calc entries (Text.lines s)
      = entries (Text.lines (front ++ (Text.trim s ++ back))) := by
        rw [← List.append_assoc, ← whole]
    _ = entries (Text.lines (ahead ++ (Text.trim s ++ back))) := sameAhead _
    _ = entries (Text.lines (ahead ++ Text.trim s ++ back)) := by rw [List.append_assoc]
    _ = entries (Text.lines (ahead ++ Text.trim s ++ after)) := sameAfter _
    _ = (readLine (ahead ++ Text.trim s ++ after)).toList := entries_lines_of_not_mem own
    _ = (readLine s).toList := by rw [readLine_congr trimmed]

/-- The entries of texts with line feeds between them follow each other. -/
theorem entries_lines_joinWith_eq_flatMap (texts : List (List Char)) :
    entries (Text.lines (Text.joinWith '\n' texts)) =
      texts.flatMap fun s => entries (Text.lines s) := by
  induction texts with
  | nil => rfl
  | cons s rest ih =>
    by_cases more : rest = []
    · rw [more, Text.joinWith_singleton, List.flatMap_singleton]
    · rw [Text.joinWith_cons '\n' s more, entries_lines_append, ih, List.flatMap_cons]

/-- A text that has no line feed between other characters than blanks counts as one line when it is joined
with others. -/
theorem entries_lines_joinWith {texts : List (List Char)}
    (single : ∀ s ∈ texts, '\n' ∉ Text.trim s) :
    entries (Text.lines (Text.joinWith '\n' texts)) = entries texts := by
  rw [entries_lines_joinWith_eq_flatMap, entries, List.filterMap_eq_flatMap_toList]
  exact List.flatMap_congr fun s found => entries_lines_of_trim (single s found)

end Detour.Rule
