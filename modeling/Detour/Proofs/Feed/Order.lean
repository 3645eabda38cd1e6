import Detour.Proofs.Feed.Tally
import Detour.Proofs.RuleSet
/-!
# The order of lines

Lines may stand in many orders that mean the same. Main statement: the lines that are kept at one place of
a rule set, under one domain or in order, must keep their order among each other, and nothing else
about the order of a list matters. Of the lines in order, those that stand next to each other and
all make exceptions, or all make none, may even change places with each other.
-/

namespace Detour.Feed

open Reading (carrying exempts)
open Rule (Entry Place entries inOrder lastUnder readLine)

/-- The lines among some whose rules are kept at a place. -/
def linesAt (place : Place) (lines : List (List Char)) : List (List Char) :=
  lines.filter fun line => (readLine line).any (·.place = place)

/-- The same lines in another order, which differs only between lines whose rules are kept at different
places. -/
structure Rearranges (lines others : List (List Char)) : Prop where
  /-- The lines are the same. -/
  perm : lines.Perm others
  /-- Those that are kept in order stand in the same order. -/
  ordered : linesAt .ordered lines = linesAt .ordered others
  /-- Those that are kept under one domain stand in the same order. -/
  indexed : ∀ key, linesAt (.indexed key) lines = linesAt (.indexed key) others

/-- The same lines in another order, which differs only within runs of lines that all make exceptions or
all make none. -/
inductive ShufflesRuns : List (List Char) → List (List Char) → Prop where
  /-- There are no lines. -/
  | done : ShufflesRuns [] []
  /-- The lines of the first run change places, and so do those of later runs. -/
  | run {lines others rest more : List (List Char)} (isException : Bool)
    (alike : ∀ line ∈ lines, exempts (Text.trim line) = isException) (perm : lines.Perm others)
    (later : ShufflesRuns rest more) : ShufflesRuns (lines ++ rest) (others ++ more)

variable {lines others : List (List Char)}

/-! ### What is kept -/

/-- The entries at a place are those of the lines that are kept there. -/
theorem entries_linesAt (place : Place) (lines : List (List Char)) :
    entries (linesAt place lines) = (entries lines).filter (·.place = place) := by
  induction lines with
  | nil => rfl
  | cons line rest ih =>
    rw [Rule.entries_cons, List.filter_append, ← ih, linesAt, List.filter_cons]
    cases read : readLine line with
    | none => rfl
    | some e =>
      by_cases own : e.place = place
      · simp [own, linesAt, Rule.entries_cons, read]
      · simp [own, linesAt]

/-- What is kept under a domain comes from the lines that are kept there. -/
theorem lookup_of_linesAt {list other key : List Char}
    (same : linesAt (.indexed key) (Text.lines list) = linesAt (.indexed key) (Text.lines other)) :
    (RuleSet.ofText list).lookup key = (RuleSet.ofText other).lookup key := by
  rw [RuleSet.lookup_ofText, RuleSet.lookup_ofText, lastUnder, lastUnder, ← entries_linesAt, same,
    entries_linesAt]

/-- What is kept in order comes from the lines that are kept there. -/
theorem ordered_ofText_eq_map (list : List Char) :
    (RuleSet.ofText list).ordered = (entries (linesAt .ordered (Text.lines list))).map Entry.rule := by
  rw [RuleSet.ordered_ofText, inOrder, entries_linesAt]

/-! ### What is counted -/

/-- In whatever order lines are fed, as many of them make a rule. -/
theorem rules_of_perm (perm : lines.Perm others) :
    (empty.lines lines).rules = (empty.lines others).rules := by
  have same : (entries lines).length = (entries others).length := (perm.filterMap readLine).length_eq
  rw [rules_lines, rules_lines, same]

/-- In whatever order lines are fed, as many of them make none. -/
theorem skipped_of_perm (perm : lines.Perm others) :
    (empty.lines lines).skipped = (empty.lines others).skipped := by
  have first := rules_add_skipped_lines empty lines
  have second := rules_add_skipped_lines empty others
  have rules := rules_of_perm perm
  have length := perm.length_eq
  omega

/-- In whatever order lines are fed, there is a rule under as many domains. -/
theorem indexedSize_of_perm (perm : lines.Perm others) :
    (empty.lines lines).ruleSet.indexedSize = (empty.lines others).ruleSet.indexedSize := by
  have carried : (carrying lines).Perm (carrying others) := (perm.map Text.trim).filter _
  have domains : (keys (carrying lines)).toFinset = (keys (carrying others)).toFinset :=
    List.toFinset_eq_of_perm _ _ (carried.filterMap Reading.key?)
  rw [RuleSet.indexedSize, RuleSet.indexedSize, ruleSet, ruleSet, index_empty_lines, index_empty_lines,
    size_indexOf, size_indexOf, domains]

/-! ### What is decided -/

/-- The rules of lines that all make exceptions, or all make none, are alike. -/
theorem isException_of_mem_entries {isException : Bool}
    (alike : ∀ line ∈ lines, exempts (Text.trim line) = isException) :
    ∀ r ∈ (entries lines).map Entry.rule, r.isException = isException := by
  intro r found
  obtain ⟨e, entry, rfl⟩ := List.mem_map.1 found
  obtain ⟨line, own, read⟩ := List.mem_filterMap.1 entry
  have trimmed := (Rule.readLine_eq_some_iff.1 read).2
  rw [← trimmed, Reading.readTrimmed_eq]
  exact alike line own

/-- Lines that change places within runs leave what the order decides. -/
theorem ShufflesRuns.orderedVerdict_eq (h : ShufflesRuns lines others) (t : Target) :
    RuleSet.orderedVerdict ((entries lines).map Entry.rule) t =
      RuleSet.orderedVerdict ((entries others).map Entry.rule) t := by
  induction h with
  | done => rfl
  | @run run shuffled rest more isException alike perm later ih =>
    have alikeToo : ∀ line ∈ shuffled, exempts (Text.trim line) = isException := fun line found =>
      alike line (perm.mem_iff.2 found)
    have matched : ((entries run).map Entry.rule).any (·.fits t) =
        ((entries shuffled).map Entry.rule).any (·.fits t) :=
      ((perm.filterMap readLine).map Entry.rule).any_eq
    rw [Rule.entries_append, Rule.entries_append, List.map_append, List.map_append,
      RuleSet.orderedVerdict_append, RuleSet.orderedVerdict_append, ih, matched,
      RuleSet.orderedVerdict_of_alike (isException_of_mem_entries alike),
      RuleSet.orderedVerdict_of_alike (isException_of_mem_entries alikeToo), matched]

/-- Which orders of lines mean the same. If lines kept in order stay in their order, and so do those kept
under each domain, the same rules are kept at the same places, as many lines and rules are counted,
and every query is answered as before. If lines kept in order change places within runs of lines that
all make exceptions or all make none, and those kept under each domain stay in their order, every
query is answered as before, too. -/
theorem isBlocked_of_order (list other : List Char) :
    (Rearranges (Text.lines list) (Text.lines other) →
      (∀ key, (RuleSet.ofText list).lookup key = (RuleSet.ofText other).lookup key) ∧
        (RuleSet.ofText list).ordered = (RuleSet.ofText other).ordered ∧
        (empty.text list).rules = (empty.text other).rules ∧
        (empty.text list).skipped = (empty.text other).skipped ∧
        (RuleSet.ofText list).indexedSize = (RuleSet.ofText other).indexedSize ∧
        (RuleSet.ofText list).orderedSize = (RuleSet.ofText other).orderedSize ∧
        ∀ query, (RuleSet.ofText list).isBlocked query = (RuleSet.ofText other).isBlocked query) ∧
      (ShufflesRuns (linesAt .ordered (Text.lines list)) (linesAt .ordered (Text.lines other)) →
        (∀ key, linesAt (.indexed key) (Text.lines list) = linesAt (.indexed key) (Text.lines other)) →
        ∀ query, (RuleSet.ofText list).isBlocked query = (RuleSet.ofText other).isBlocked query) := by
  constructor
  · intro h
    have lookup : ∀ key, (RuleSet.ofText list).lookup key = (RuleSet.ofText other).lookup key :=
      fun key => lookup_of_linesAt (h.indexed key)
    have ordered : (RuleSet.ofText list).ordered = (RuleSet.ofText other).ordered := by
      rw [ordered_ofText_eq_map, ordered_ofText_eq_map, h.ordered]
    have orderedSize : (RuleSet.ofText list).orderedSize = (RuleSet.ofText other).orderedSize :=
      congrArg List.length ordered
    have answers := RuleSet.isBlocked_of_lookup_eq lookup fun t =>
      congrArg (RuleSet.orderedVerdict · t) ordered
    exact ⟨lookup, ordered, rules_of_perm h.perm, skipped_of_perm h.perm, indexedSize_of_perm h.perm,
      orderedSize, answers⟩
  · intro shuffled indexed
    refine RuleSet.isBlocked_of_lookup_eq (fun key => lookup_of_linesAt (indexed key)) fun t => ?_
    rw [ordered_ofText_eq_map, ordered_ofText_eq_map]
    exact shuffled.orderedVerdict_eq t

/-- Lines for one domain that stand among others, and exceptions next to each other. -/
theorem isBlocked_of_moved_lines :
    Rearranges (Text.lines "||a\n/b\n.a\n@@/c\n@@/d".toList)
        (Text.lines "/b\n||a\n@@/c\n.a\n@@/d".toList) ∧
      (RuleSet.ofText "||a\n/b\n.a\n@@/c\n@@/d".toList).lookup ['a'] =
        (RuleSet.ofText "/b\n||a\n@@/c\n.a\n@@/d".toList).lookup ['a'] ∧
      ∀ query, (RuleSet.ofText "||a\n/b\n.a\n@@/c\n@@/d".toList).isBlocked query =
        (RuleSet.ofText "||a\n/b\n.a\n@@/d\n@@/c".toList).isBlocked query := by
  have moved : Rearranges (Text.lines "||a\n/b\n.a\n@@/c\n@@/d".toList)
      (Text.lines "/b\n||a\n@@/c\n.a\n@@/d".toList) :=
    ⟨by decide, by decide, fun key => by cbv⟩
  have before : linesAt .ordered (Text.lines "||a\n/b\n.a\n@@/c\n@@/d".toList) =
      [['/', 'b']] ++ ([['@', '@', '/', 'c'], ['@', '@', '/', 'd']] ++ []) := by
    decide
  have behind : linesAt .ordered (Text.lines "||a\n/b\n.a\n@@/d\n@@/c".toList) =
      [['/', 'b']] ++ ([['@', '@', '/', 'd'], ['@', '@', '/', 'c']] ++ []) := by
    decide
  have shuffled : ShufflesRuns (linesAt .ordered (Text.lines "||a\n/b\n.a\n@@/c\n@@/d".toList))
      (linesAt .ordered (Text.lines "||a\n/b\n.a\n@@/d\n@@/c".toList)) := by
    rw [before, behind]
    exact .run false (by decide) (.refl _) (.run true (by decide) (.swap _ _ _) .done)
  have indexed : ∀ key, linesAt (.indexed key) (Text.lines "||a\n/b\n.a\n@@/c\n@@/d".toList) =
      linesAt (.indexed key) (Text.lines "||a\n/b\n.a\n@@/d\n@@/c".toList) := by
    intro key
    cbv
  obtain ⟨lookup, -⟩ := (isBlocked_of_order _ _).1 moved
  have answers := (isBlocked_of_order _ _).2 shuffled indexed
  exact ⟨moved, lookup ['a'], answers⟩

end Detour.Feed
