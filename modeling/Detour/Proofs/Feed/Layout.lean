import Detour.Proofs.Feed.Parts
import Detour.Proofs.Reading
import Mathlib.Logic.Relation
/-!
# The layout of a list

How a list is laid out is how its lines end, what blanks stand around them, and which lines without a
rule stand between them. Main statement: the layout carries no meaning, so that lists that differ in
nothing else keep the same rules in the same order, and count as many.
-/

namespace Detour.Feed

open Rule (entries)

/-- A list with one thing more in its layout. Where a line ends with a carriage return and a line feed, a blank
is put in front of both by taking the carriage return out before and putting it in again after. -/
inductive Loosens : List Char → List Char → Prop where
  /-- A carriage return in front of a line feed. -/
  | returned (front back : List Char) : Loosens (front ++ '\n' :: back) (front ++ '\r' :: '\n' :: back)
  /-- A line feed at the end of the list. -/
  | ended (list : List Char) : Loosens list (list ++ ['\n'])
  /-- A blank at the start of a line. -/
  | ahead (front back : List Char) (c : Char) (start : Text.EndsLine front)
    (blank : Text.isBlank c = true) (inLine : c ≠ '\n') : Loosens (front ++ back) (front ++ c :: back)
  /-- A blank at the end of a line. -/
  | behind (front back : List Char) (c : Char) (stop : ∀ d ∈ back.head?, d = '\n')
    (blank : Text.isBlank c = true) (inLine : c ≠ '\n') : Loosens (front ++ back) (front ++ c :: back)
  /-- A line that is empty, a comment or a header once its blanks are trimmed. -/
  | remark (front line back : List Char) (start : Text.EndsLine front) (single : '\n' ∉ line)
    (silent : Reading.isSilent (Text.trim line) = true) :
    Loosens (front ++ back) (front ++ line ++ '\n' :: back)

/-- A blank behind a text, which is at the end of its last line, leaves the entries as they are. -/
theorem entries_lines_concat_blank (s : List Char) {c : Char} (blank : Text.isBlank c = true)
    (inLine : c ≠ '\n') : entries (Text.lines (s ++ [c])) = entries (Text.lines s) := by
  -- By recursion on the text: the first line is split off until the last one is left, which is trimmed.
  by_cases lf : '\n' ∈ s
  · obtain ⟨line, rest, rfl, -⟩ := List.eq_append_cons_of_mem lf
    have later := entries_lines_concat_blank rest blank inLine
    rw [List.append_assoc, List.cons_append, Rule.entries_lines_append, Rule.entries_lines_append,
      later]
  · have single : '\n' ∉ s ++ [c] := by
      rw [List.mem_append, List.mem_singleton]
      rintro (inside | same)
      · exact lf inside
      · exact inLine same.symm
    have blanks : ∀ d ∈ [c], Text.isBlank d = true := List.forall_mem_singleton.2 blank
    rw [Rule.entries_lines_of_not_mem single, Rule.entries_lines_of_not_mem lf,
      Rule.readLine_congr (Text.trim_append_of_blank blanks s)]
termination_by s.length

/-- A blank in front of a text, which is at the start of its first line, leaves the entries as they are. -/
theorem entries_lines_cons_blank (s : List Char) {c : Char} (blank : Text.isBlank c = true)
    (inLine : c ≠ '\n') : entries (Text.lines (c :: s)) = entries (Text.lines s) := by
  have line {own : List Char} (single : '\n' ∉ own) :
      entries (Text.lines (c :: own)) = entries (Text.lines own) := by
    have longer : '\n' ∉ c :: own := by
      rw [List.mem_cons]
      rintro (same | inside)
      · exact inLine same.symm
      · exact single inside
    have blanks : ∀ d ∈ [c], Text.isBlank d = true := List.forall_mem_singleton.2 blank
    have trimmed : Text.trim (c :: own) = Text.trim own :=
      congrArg Text.trimEnd (Text.trimStart_append_of_blank blanks own)
    rw [Rule.entries_lines_of_not_mem longer, Rule.entries_lines_of_not_mem single,
      Rule.readLine_congr trimmed]
  -- Only the first line is longer, whether others follow it or not.
  by_cases lf : '\n' ∈ s
  · obtain ⟨own, rest, rfl, single⟩ := List.eq_append_cons_of_mem lf
    rw [← List.cons_append, Rule.entries_lines_append, Rule.entries_lines_append, line single]
  · exact line lf

/-- One thing more in the layout of a list leaves its entries as they are. -/
theorem entries_of_loosens {list looser : List Char} (h : Loosens list looser) :
    entries (Text.lines list) = entries (Text.lines looser) := by
  cases h with
  | returned front back =>
    have blank : Text.isBlank '\r' = true := by decide
    have ending := entries_lines_concat_blank front blank (by decide)
    rw [List.append_cons front '\r', Rule.entries_lines_append, Rule.entries_lines_append, ending]
  | ended =>
    rw [Rule.entries_lines_append, Text.lines_nil, Rule.entries_nil, List.append_nil]
  | ahead front back c start blank inLine =>
    rw [Text.lines_append start, Text.lines_append start, Rule.entries_append, Rule.entries_append,
      entries_lines_cons_blank back blank inLine]
  | behind front back c stop blank inLine =>
    have ending := entries_lines_concat_blank front blank inLine
    cases back with
    | nil => rw [List.append_nil, ending]
    | cons d rest =>
      rw [stop d rfl, List.append_cons front c, Rule.entries_lines_append, Rule.entries_lines_append,
        ending]
  | remark front line back start single silent =>
    have none : entries (Text.lines line) = [] := by
      rw [Reading.isSilent_eq] at silent
      rw [Rule.entries_lines_of_not_mem single, Rule.readLine_of_isRemark silent]
      rfl
    rw [List.append_assoc, Text.lines_append start, Text.lines_append start, Rule.entries_append,
      Rule.entries_append, Rule.entries_lines_append, none, List.nil_append]

/-- Any number of such changes, to and fro, leaves the entries as they are. -/
theorem entries_of_eqvGen {list other : List Char} (h : Relation.EqvGen Loosens list other) :
    entries (Text.lines list) = entries (Text.lines other) := by
  induction h with
  | rel _ _ more => exact entries_of_loosens more
  | refl _ => rfl
  | symm _ _ _ ih => exact ih.symm
  | trans _ _ _ _ _ first second => exact first.trans second

/-- The layout of a list carries no meaning. However often and wherever carriage returns in front of line
feeds, a line feed at the end, blanks around lines and lines without a rule are put into a list or taken
out of it, the same rules are kept under the same domains and in the same order, and as many lines
have made a rule. -/
theorem sameRules_of_layout {list other : List Char} (changed : Relation.EqvGen Loosens list other) :
    (∀ f : Feed, SameRules (f.text list) (f.text other)) ∧
      RuleSet.ofText list = RuleSet.ofText other := by
  have same : ∀ f : Feed, SameRules (f.text list) (f.text other) := fun f =>
    sameRules_lines f (entries_of_eqvGen changed)
  exact ⟨same, (same empty).ruleSet_eq⟩

/-- A list that ends with a line feed, and one that does not but has a blank, a comment and a carriage return
more. -/
theorem sameRules_of_comment_between_lines :
    Relation.EqvGen Loosens ['a', '\n', '/', '\n'] ['\t', 'a', '\r', '\n', '!', '\n', '/'] ∧
      RuleSet.ofText ['a', '\n', '/', '\n'] =
        RuleSet.ofText ['\t', 'a', '\r', '\n', '!', '\n', '/'] := by
  have ended : Loosens ['a', '\n', '/'] ['a', '\n', '/', '\n'] := .ended ['a', '\n', '/']
  have returned : Loosens ['a', '\n', '/'] ['a', '\r', '\n', '/'] := .returned ['a'] ['/']
  have ahead : Loosens ['a', '\r', '\n', '/'] ['\t', 'a', '\r', '\n', '/'] :=
    .ahead [] ['a', '\r', '\n', '/'] '\t' (.inl rfl) (by decide) (by decide)
  have remark : Loosens ['\t', 'a', '\r', '\n', '/'] ['\t', 'a', '\r', '\n', '!', '\n', '/'] :=
    .remark ['\t', 'a', '\r', '\n'] ['!'] ['/'] (.inr rfl) (by decide) (by decide)
  have changed := (((Relation.EqvGen.rel _ _ ended).symm _ _).trans _ _ _ (.rel _ _ returned)).trans _ _ _
    ((Relation.EqvGen.rel _ _ ahead).trans _ _ _ (.rel _ _ remark))
  exact ⟨changed, (sameRules_of_layout changed).2⟩

end Detour.Feed
