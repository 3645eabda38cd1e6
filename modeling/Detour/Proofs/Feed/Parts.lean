import Detour.Proofs.Feed.Joined
import Detour.Proofs.Feed.Tally
import Detour.Proofs.Text.Line
/-!
# Feeding a list in parts

A list may come in parts, each of which is fed as a text of its own. Main statement: a list that is cut
behind line feeds is fed as a whole, and texts fed in turn keep and count the rules of one text
that has them between line feeds, whatever ends their last lines.
-/

namespace Detour.Feed

open Rule (entries)

/-- Feeds that keep the same rules, and have counted as many. They may have counted other numbers of lines
without a rule. -/
structure SameRules (f g : Feed) : Prop where
  /-- The same rules are kept under the same domains. -/
  index : f.index = g.index
  /-- The same rules are kept in order. -/
  ordered : f.ruleSet.ordered = g.ruleSet.ordered
  /-- As many lines made a rule. -/
  rules : f.rules = g.rules

/-- Feeds that keep the same rules make the same rule set. -/
theorem SameRules.ruleSet_eq {f g : Feed} (h : SameRules f g) : f.ruleSet = g.ruleSet := by
  have ordered : f.reversed.reverse = g.reversed.reverse := h.ordered
  rw [ruleSet, ruleSet, h.index, ordered]

/-- Lines with the same entries leave the same rules behind. -/
theorem sameRules_lines (f : Feed) {lines others : List (List Char)}
    (same : entries lines = entries others) : SameRules (f.lines lines) (f.lines others) where
  index := by rw [index_lines, index_lines, same]
  ordered := by rw [ruleSet, ruleSet, reversed_lines, reversed_lines, same]
  rules := by rw [rules_lines, rules_lines, same]

/-- Feeding texts in turn is feeding the lines of each. -/
theorem foldl_text (f : Feed) (texts : List (List Char)) :
    texts.foldl text f = f.lines (texts.flatMap Text.lines) := by
  have pieces := foldl_piece f (texts.map .text)
  rw [List.foldl_map, List.flatMap_map] at pieces
  exact pieces

/-- Parts of a text that is cut behind line feeds only: every part but the last ends its last line. -/
def CutBehindFeeds (parts : List (List Char)) : Prop := ∀ part ∈ parts.dropLast, Text.EndsLine part

instance (parts : List (List Char)) : Decidable (CutBehindFeeds parts) :=
  inferInstanceAs (Decidable (∀ part ∈ parts.dropLast, Text.EndsLine part))

/-- The lines of a text that is cut behind line feeds are those of its parts. -/
theorem lines_flatten {parts : List (List Char)} (cut : CutBehindFeeds parts) :
    Text.lines parts.flatten = parts.flatMap Text.lines := by
  induction parts with
  | nil => rfl
  | cons part rest ih =>
    cases rest with
    | nil => simp
    | cons next rest =>
      have ended : Text.EndsLine part := cut part List.mem_cons_self
      have later : CutBehindFeeds (next :: rest) := fun p found =>
        cut p (List.mem_cons_of_mem part found)
      rw [List.flatten_cons, Text.lines_append ended, ih later, ← List.flatMap_cons]

/-- Feeding a list in parts. If it is cut behind line feeds, feeding the parts in turn is the same as feeding
the whole. Any texts that are fed in turn keep the same rules, and count as many, as one text that has
them in this order with a line feed between any two. -/
theorem foldl_text_of_parts :
    (∀ (f : Feed) (parts : List (List Char)), CutBehindFeeds parts →
      parts.foldl text f = f.text parts.flatten) ∧
      ∀ texts : List (List Char),
        SameRules (texts.foldl text empty) (empty.text (Text.joinWith '\n' texts)) ∧
          (texts.foldl text empty).ruleSet = RuleSet.ofText (Text.joinWith '\n' texts) := by
  refine ⟨fun f parts cut => ?_, fun texts => ?_⟩
  · rw [foldl_text, ← lines_flatten cut, text]
  · have same : entries (texts.flatMap Text.lines) =
        entries (Text.lines (Text.joinWith '\n' texts)) := by
      rw [Rule.entries_lines_joinWith_eq_flatMap, entries, List.filterMap_flatMap]
      rfl
    have kept : SameRules (texts.foldl text empty) (empty.text (Text.joinWith '\n' texts)) := by
      rw [foldl_text]
      exact sameRules_lines empty same
    exact ⟨kept, kept.ruleSet_eq⟩

/-- A list is fed as a whole, though a part of it is empty and another one holds nothing but a line feed. -/
theorem foldl_text_of_empty_parts :
    CutBehindFeeds ["||a\r\n".toList, [], ['\n'], "@@.a".toList] ∧
      ["||a\r\n".toList, [], ['\n'], "@@.a".toList].foldl text empty =
        empty.text "||a\r\n\n@@.a".toList := by
  have cut : CutBehindFeeds ["||a\r\n".toList, [], ['\n'], "@@.a".toList] := by decide
  have whole : ["||a\r\n".toList, [], ['\n'], "@@.a".toList].flatten = "||a\r\n\n@@.a".toList := by
    decide
  have fed := foldl_text_of_parts.1 empty _ cut
  exact ⟨cut, fed.trans (congrArg empty.text whole)⟩

end Detour.Feed
