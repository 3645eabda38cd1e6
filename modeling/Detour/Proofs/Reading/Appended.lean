import Detour.Proofs.Feed.Joined
import Detour.Proofs.HostRule
import Detour.Proofs.Reading
import Detour.Proofs.Rule.Spelling
import Detour.Proofs.RuleSet
import Detour.Proofs.Target
/-!
# Lines at the end of a list

Of the lines for one domain the last decides, and of the lines in order the first that matches. A line
at the end is the last for its domain and the least of those in order. Main statement: a line for
the host of a query settles the answer, whatever the list says, whereas a line in order can block
what was not blocked, and nothing else.
-/

namespace Detour.RuleSet

/-- The rule that looks for a host in hosts decides about all its targets, if it is kept under the host. -/
theorem blocks_of_lookup_host {s : RuleSet} {t : Target} {isException : Bool}
    (kept : s.lookup t.host = some ⟨.hostPart t.host, isException⟩) : s.blocks t = !isException := by
  have rule : s.hostRule t.host = some ⟨.hostPart t.host, isException⟩ := by
    rw [hostRule, kept]
    rfl
  have fits : Rule.fits ⟨.hostPart t.host, isException⟩ t = true :=
    Target.isIn_authority_of_belongsTo (.refl t.host)
  rw [blocks, rule]
  dsimp only
  rw [Rule.blocks, fits, Bool.true_bne]

end Detour.RuleSet

namespace Detour.Reading

open Rule (readLine lastUnder inOrder)

/-- The rules of a list with one more line at its end. -/
inductive Extends (list line : List Char) : RuleSet → Prop where
  /-- The line is the last one of a longer list. -/
  | last {longer : List Char} (lines : Text.lines longer = Text.lines list ++ [line]) :
    Extends list line (.ofText longer)
  /-- The line is put behind the list and a line feed. -/
  | behindFeed (single : '\n' ∉ line) : Extends list line (.ofText (list ++ '\n' :: line))
  /-- The line is fed on its own after the list, even if it holds line ends. -/
  | fed : Extends list line ((Feed.empty.text list).line line).ruleSet

variable {list line : List Char} {s : RuleSet}

/-- However a line is put at the end of a list, it might have been fed on its own. -/
theorem Extends.eq_fed (h : Extends list line s) :
    s = ((Feed.empty.text list).line line).ruleSet := by
  have fed : (Feed.empty.text list).line line = Feed.empty.lines (Text.lines list ++ [line]) := by
    rw [Feed.lines_append]
    rfl
  cases h with
  | last lines =>
    rw [fed, ← lines]
    rfl
  | behindFeed single =>
    rw [fed]
    refine Feed.ruleSet_lines_of_entries ?_
    rw [Rule.entries_lines_append, Rule.entries_lines_of_not_mem single, Rule.entries_append,
      Rule.entries_singleton]
  | fed => rfl

/-- What is kept under a domain with one more line. -/
theorem Extends.lookup_eq (h : Extends list line s) (key : List Char) :
    s.lookup key = (lastUnder key (readLine line).toList).or ((RuleSet.ofText list).lookup key) := by
  rw [h.eq_fed]
  exact Feed.getElem?_index_line _ line key

/-- What is kept in order with one more line. -/
theorem Extends.ordered_eq (h : Extends list line s) :
    s.ordered = (RuleSet.ofText list).ordered ++ inOrder (readLine line).toList := by
  rw [h.eq_fed, Feed.ruleSet, Feed.reversed_line, List.reverse_append, List.reverse_reverse]
  rfl

/-- A line for a host is read as such, as a plain one and as an exception. -/
theorem readLine_of_host {host : List Char} (visible : ∀ c ∈ host, Text.isVisible c = true)
    (isException : Bool) :
    readLine (Rule.line ⟨.hostPart host, isException⟩) =
      some ⟨⟨.hostPart host, isException⟩, .indexed host⟩ := by
  have marks : ∀ c ∈ "@|".toList, Text.isVisible c = true := Text.forall_mem_of_all (by decide)
  have chars : ∀ c ∈ Rule.line ⟨.hostPart host, isException⟩, c ∈ "@|".toList ∨ c ∈ host := by
    cases isException <;> simp +contextual [Rule.line, Rule.exceptionMark, Rule.Kind.line]
  have trimmed : Text.trim (Rule.line ⟨.hostPart host, isException⟩) =
      Rule.line ⟨.hostPart host, isException⟩ :=
    Text.trim_of_isVisible fun c found => (chars c found).elim (marks c) (visible c)
  exact (Rule.readLine_line_iff trimmed).2 trivial

/-- A line for the host of a target settles what is decided about it. -/
theorem Extends.blocks_of_host {t : Target} (normal : t.url.IsNormal) (isException : Bool)
    (h : Extends list (Rule.line ⟨.hostPart t.host, isException⟩) s) : s.blocks t = !isException := by
  have visible : ∀ c ∈ t.host, Text.isVisible c = true := fun c found =>
    (Url.of_mem_text normal.host found).1
  refine RuleSet.blocks_of_lookup_host ?_
  rw [h.lookup_eq, readLine_of_host visible]
  simp [lastUnder]

/-- A line whose place matters adds at most a rule in order, which is an exception if the line makes one. -/
theorem Extends.ordered_of_isOrdered (h : Extends list line s)
    (ordered : isOrdered (Text.trim line) = true) :
    (∀ key, s.lookup key = (RuleSet.ofText list).lookup key) ∧
      ∃ more : List Rule, s.ordered = (RuleSet.ofText list).ordered ++ more ∧
        ∀ r ∈ more, r.isException = exempts (Text.trim line) := by
  cases read : readLine line with
  | none =>
    refine ⟨fun key => ?_, [], ?_, List.forall_mem_nil _⟩
    · rw [h.lookup_eq, read]
      rfl
    · rw [h.ordered_eq, read]
      rfl
  | some e =>
    obtain ⟨-, own⟩ := Rule.readLine_eq_some_iff.1 read
    have place : e.place = .ordered := by
      rw [← own, readTrimmed_eq]
      exact (place_readText_eq_ordered_iff _).2 ordered
    refine ⟨fun key => ?_, [e.rule], ?_, List.forall_mem_singleton.2 ?_⟩
    · rw [h.lookup_eq, read]
      simp [lastUnder, place]
    · rw [h.ordered_eq, read]
      simp [inOrder, place]
    · rw [← own, readTrimmed_eq]

/-- A line whose place matters unblocks no target. -/
theorem Extends.blocks_of_isOrdered (h : Extends list line s)
    (ordered : isOrdered (Text.trim line) = true) {t : Target}
    (blocked : (RuleSet.ofText list).blocks t = true) : s.blocks t = true := by
  obtain ⟨same, more, longer, -⟩ := h.ordered_of_isOrdered ordered
  rcases RuleSet.blocks_of_lookup_eq same t with alike | ⟨own, before⟩
  · rw [alike, blocked]
  · rw [own, longer]
    exact RuleSet.orderedVerdict_append_of_true (before.symm.trans blocked) more

/-- A line whose place matters and that makes an exception changes nothing. -/
theorem Extends.blocks_of_exempts (h : Extends list line s)
    (ordered : isOrdered (Text.trim line) = true) (marked : exempts (Text.trim line) = true)
    (t : Target) : s.blocks t = (RuleSet.ofText list).blocks t := by
  obtain ⟨same, more, longer, exceptions⟩ := h.ordered_of_isOrdered ordered
  have exempt : ∀ r ∈ more, r.isException = true := fun r found =>
    (exceptions r found).trans marked
  rcases RuleSet.blocks_of_lookup_eq same t with alike | ⟨own, before⟩
  · exact alike
  · rw [own, before, longer, RuleSet.orderedVerdict_append_exceptions exempt]

/-- What one more line at the end of a list does to the answer to a query. A line for the host of the query
has it blocked, and one that makes an exception of the host has it go straight, whatever the list
says. A line whose place matters unblocks nothing, with or without the mark of an exception, and with it
changes nothing at all. -/
theorem isBlocked_of_extends (extended : Extends list line s) (query : List Char) :
    (∀ t, Target.parse query = some t → line = '|' :: '|' :: t.host → s.isBlocked query = true) ∧
      (∀ t, Target.parse query = some t → line = '@' :: '@' :: '|' :: '|' :: t.host →
        s.isBlocked query = false) ∧
      (isOrdered (Text.trim line) = true → (RuleSet.ofText list).isBlocked query = true →
        s.isBlocked query = true) ∧
      (isOrdered (Text.trim line) = true → exempts (Text.trim line) = true →
        s.isBlocked query = (RuleSet.ofText list).isBlocked query) := by
  refine ⟨?_, ?_, ?_, ?_⟩
  · rintro t asked rfl
    rw [RuleSet.isBlocked, asked]
    exact Extends.blocks_of_host (Target.isNormal_of_parse asked) false extended
  · rintro t asked rfl
    rw [RuleSet.isBlocked, asked]
    exact Extends.blocks_of_host (Target.isNormal_of_parse asked) true extended
  · intro ordered blocked
    obtain ⟨t, asked, before⟩ := (Option.any_eq_true _ _).1 blocked
    rw [RuleSet.isBlocked, asked, Option.any_some]
    exact extended.blocks_of_isOrdered ordered before
  · intro ordered marked
    have same : s.blocks = (RuleSet.ofText list).blocks :=
      funext (extended.blocks_of_exempts ordered marked)
    rw [RuleSet.isBlocked, RuleSet.isBlocked, same]

/-- Lines at the end of a list that says much about a host: one for the host turns the answer, and an
exception in order does not. -/
theorem isBlocked_behind_lines_for_host :
    (RuleSet.ofText "||a.b\n@@.a.b\n@@||a.b".toList).isBlocked "git://a.b:1/c".toList = false ∧
      (RuleSet.ofText "||a.b\n@@.a.b\n@@||a.b\n||a.b".toList).isBlocked "git://a.b:1/c".toList =
        true ∧
      ((Feed.empty.text "|git://a".toList).line "@@/c".toList).ruleSet.isBlocked
        "git://a.b:1/c".toList = true := by
  have asked : Target.parse "git://a.b:1/c".toList =
      some ⟨⟨"git".toList, [], .name "a.b".toList, some 1, "/c".toList, none, none⟩⟩ := by
    decide
  have longer : Extends "||a.b\n@@.a.b\n@@||a.b".toList "||a.b".toList
      (RuleSet.ofText "||a.b\n@@.a.b\n@@||a.b\n||a.b".toList) :=
    .behindFeed (by decide)
  have exempted : Extends "|git://a".toList "@@/c".toList
      ((Feed.empty.text "|git://a".toList).line "@@/c".toList).ruleSet :=
    .fed
  obtain ⟨blocked, -, -, -⟩ := isBlocked_of_extends longer "git://a.b:1/c".toList
  obtain ⟨-, -, -, unchanged⟩ := isBlocked_of_extends exempted "git://a.b:1/c".toList
  have before : (RuleSet.ofText "|git://a".toList).isBlocked "git://a.b:1/c".toList = true := by
    decide
  exact ⟨by decide, blocked _ asked rfl, (unchanged (by decide) (by decide)).trans before⟩

end Detour.Reading
