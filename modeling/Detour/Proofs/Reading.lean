import Detour.Proofs.Feed
import Detour.Proofs.Rule.Line
/-!
# The plain reading of a rule list

What a list means can be read off its lines, with no index and no entries: the last line for the host of
a target decides, or else the last line for its root domain, or else the first of the other lines
that matches. The definitions say this of the lines themselves. Main statement: the rule set made
from a list answers every query as this reading does.
-/

namespace Detour.Reading

/-- Whether a line without blanks at its ends carries no rule. -/
def isSilent (line : List Char) : Bool :=
  line.isEmpty || line.head? = some '!' || line.head? = some '['

/-- The lines of a list that carry a rule, without blanks at their ends. -/
def ruleLines (list : List Char) : List (List Char) :=
  ((Text.lines list).map Text.trim).filter (!isSilent ·)

/-- Whether a line makes an exception. -/
def exempts (line : List Char) : Bool := ['@', '@'].isPrefixOf line

/-- What a line compares, without the mark of an exception. -/
def body (line : List Char) : List Char := if exempts line then line.drop 2 else line

/-- The domain for which a line is meant, if it is meant for one. -/
def key? (line : List Char) : Option (List Char) :=
  if ['|', '|'].isPrefixOf (body line) then some ((body line).drop 2)
  else if '/' ∈ body line ∨ (body line).head? = some '|' then none
  else if (body line).head? = some '.' then some ((body line).drop 1)
  else some (body line)

/-- Whether the place of a line among the others matters. -/
def isOrdered (line : List Char) : Bool :=
  !(['|', '|'].isPrefixOf (body line)) && ('/' ∈ body line || (body line).head? = some '|')

/-- Whether a text stands between two slashes. -/
def isBetweenSlashes (s : List Char) : Bool :=
  2 ≤ s.length && s.head? = some '/' && s.getLast? = some '/'

/-- Whether a line matches a target. -/
def matchesTarget (line : List Char) (t : Target) : Bool :=
  if ['|', '|'].isPrefixOf (body line) then Text.isIn ((body line).drop 2) t.authority
  else if (body line).head? = some '|' then ((body line).drop 1).isPrefixOf t.text
  else if isBetweenSlashes (body line) then
    (Expression.ofSource ((body line).drop 1).dropLast).isIn t.text
  else if '/' ∈ body line then Text.isIn (body line) t.text
  else Text.isIn (body line) t.authority

/-- The last line for a domain. -/
def lastFor (key : List Char) (lines : List (List Char)) : Option (List Char) :=
  (lines.filter (key? · = some key)).getLast?

/-- The line that decides by the host alone. -/
def hostLine (lines : List (List Char)) (host : List Char) : Option (List Char) :=
  (lastFor host lines).or (lastFor (rootDomain host) lines)

/-- What lines say about a target. -/
def decides (lines : List (List Char)) (t : Target) : Bool :=
  match hostLine lines t.host with
  | some line => matchesTarget line t ^^ exempts line
  | none => ((lines.filter isOrdered).find? (matchesTarget · t)).any (!exempts ·)

/-- What a list says about a query; nothing is blocked that has no target. -/
def blocks (list query : List Char) : Bool :=
  match Target.parse query with
  | some t => decides (ruleLines list) t
  | none => false

/-- A line is silent exactly if it is a remark. -/
theorem isSilent_eq (line : List Char) : isSilent line = Rule.isRemark line := by
  cases line with
  | nil => rfl
  | cons c rest => simp [isSilent, Rule.isRemark]

/-- The mark of an exception is found and taken away. -/
theorem splitException_eq (line : List Char) :
    Rule.splitException line = (exempts line, body line) := by
  unfold Rule.splitException body
  split
  · rfl
  · rename_i h
    have plain : exempts line = false := by
      rw [exempts, Bool.eq_false_iff]
      intro marked
      obtain ⟨rest, rfl⟩ := List.isPrefixOf_iff_prefix.1 marked
      exact h rest rfl
    simp [plain]

/-- The entry of a line that carries a rule. -/
theorem readTrimmed_eq (line : List Char) :
    Rule.readTrimmed line =
      ⟨⟨(Rule.readText (body line)).1, exempts line⟩, (Rule.readText (body line)).2⟩ := by
  simp only [Rule.readTrimmed, splitException_eq]

/-- The entries of lines are those of the lines among them that carry a rule. -/
theorem entries_eq (lines : List (List Char)) :
    Rule.entries lines =
      ((lines.map Text.trim).filter (!isSilent ·)).map Rule.readTrimmed := by
  rw [Rule.entries]
  induction lines with
  | nil => rfl
  | cons line rest ih =>
    rw [List.filterMap_cons, ih, Rule.readLine, ← isSilent_eq, List.map_cons, List.filter_cons]
    cases isSilent (Text.trim line) <;> rfl

/-- The entries of a list are those of the lines that carry a rule. -/
theorem entries_lines (list : List Char) :
    Rule.entries (Text.lines list) = (ruleLines list).map Rule.readTrimmed :=
  entries_eq (Text.lines list)

/-- A text that does not start with a bar does not start with two. -/
theorem isPrefixOf_bars_of_head? {s : List Char} (bar : s.head? ≠ some '|') :
    ['|', '|'].isPrefixOf s = false := by
  rw [Bool.eq_false_iff]
  intro bars
  obtain ⟨rest, rfl⟩ := List.isPrefixOf_iff_prefix.1 bars
  exact bar rfl

/-- A text behind one bar does not start with two. -/
theorem isPrefixOf_bars_cons {s : List Char} (bar : s.head? ≠ some '|') :
    ['|', '|'].isPrefixOf ('|' :: s) = false := by
  rw [Bool.eq_false_iff]
  intro bars
  obtain ⟨rest, e⟩ := List.isPrefixOf_iff_prefix.1 bars
  cases e
  exact bar rfl

/-- One point in front does not belong to the domain of a text. -/
theorem keyOf_eq (s : List Char) :
    Rule.keyOf s = if s.head? = some '.' then s.drop 1 else s := by
  unfold Rule.keyOf
  split
  · rfl
  · rename_i other
    rw [if_neg]
    intro point
    obtain ⟨rest, rfl⟩ := List.head?_eq_some_iff.1 point
    exact other rest rfl

/-- A rule is kept under the domain for which its line is meant. -/
theorem place_readText_eq_indexed_iff (line key : List Char) :
    (Rule.readText (body line)).2 = .indexed key ↔ key? line = some key := by
  have form := Rule.form_readText (body line)
  unfold key?
  generalize body line = s at form ⊢
  generalize Rule.readText s = read at form ⊢
  obtain ⟨kind, place⟩ := read
  cases form with
  | domain => simp
  | start text bar => simp [isPrefixOf_bars_cons bar]
  | expression => simp
  | part _ bar slash => simp [isPrefixOf_bars_of_head? bar, slash]
  | host _ bar slash =>
    rw [isPrefixOf_bars_of_head? bar, keyOf_eq]
    split <;> simp_all

/-- A rule is kept in order if the place of its line matters. -/
theorem place_readText_eq_ordered_iff (line : List Char) :
    (Rule.readText (body line)).2 = .ordered ↔ isOrdered line = true := by
  have form := Rule.form_readText (body line)
  unfold isOrdered
  generalize body line = s at form ⊢
  generalize Rule.readText s = read at form ⊢
  obtain ⟨kind, place⟩ := read
  cases form with
  | domain => simp
  | start text bar => simp [isPrefixOf_bars_cons bar]
  | expression =>
    rw [isPrefixOf_bars_of_head? (by simp)]
    simp
  | part _ bar slash => simp [isPrefixOf_bars_of_head? bar, slash]
  | host _ bar slash => simp [isPrefixOf_bars_of_head? bar, slash, bar]

/-- A text stands between slashes exactly if something is left without them. -/
theorem isBetweenSlashes_eq (s : List Char) :
    isBetweenSlashes s = (Rule.betweenSlashes s).isSome := by
  match s with
  | [] => rfl
  | [c] =>
    -- A lone slash is both first and last, but nothing stands between it and itself.
    by_cases slash : c = '/'
    · simp [isBetweenSlashes, Rule.betweenSlashes, slash]
    · simp [isBetweenSlashes, Rule.betweenSlashes, slash]
  | c :: d :: rest =>
    by_cases slash : c = '/'
    · subst slash
      by_cases last : (d :: rest).getLast? = some '/'
      · simp [isBetweenSlashes, Rule.betweenSlashes, List.getLast?_cons_cons, last]
      · simp [isBetweenSlashes, Rule.betweenSlashes, List.getLast?_cons_cons, last]
    · simp [isBetweenSlashes, Rule.betweenSlashes, slash]

/-- A rule matches what its line matches. -/
theorem fits_readText (line : List Char) (t : Target) :
    (Rule.readText (body line)).1.fits t = matchesTarget line t := by
  have form := Rule.form_readText (body line)
  unfold matchesTarget
  generalize body line = s at form ⊢
  generalize Rule.readText s = read at form ⊢
  obtain ⟨kind, place⟩ := read
  cases form with
  | domain => simp [Rule.Kind.fits]
  | start text bar => simp [Rule.Kind.fits, isPrefixOf_bars_cons bar]
  | expression source =>
    have between : isBetweenSlashes ('/' :: (source ++ ['/'])) = true := by
      rw [isBetweenSlashes_eq, Rule.betweenSlashes_eq_some_iff.2 rfl, Option.isSome_some]
    simp [Rule.Kind.fits, between]
  | part _ bar slash loose =>
    rw [isPrefixOf_bars_of_head? bar, isBetweenSlashes_eq, loose]
    simp [Rule.Kind.fits, bar, slash]
  | host _ bar slash =>
    rw [isPrefixOf_bars_of_head? bar, isBetweenSlashes_eq, Rule.betweenSlashes_of_not_mem slash]
    simp [Rule.Kind.fits, bar, slash]

/-- The rule of a line that carries one. -/
def ruleOf (line : List Char) : Rule := (Rule.readTrimmed line).rule

/-- The rule of a line matches what the line matches. -/
theorem fits_ruleOf (line : List Char) (t : Target) : (ruleOf line).fits t = matchesTarget line t := by
  rw [ruleOf, readTrimmed_eq]
  exact fits_readText line t

/-- The rule of a line is an exception if the line makes one. -/
theorem isException_ruleOf (line : List Char) : (ruleOf line).isException = exempts line := by
  rw [ruleOf, readTrimmed_eq]

/-- Of the entries of lines, the last one under a domain is that of the last line for it. -/
theorem lastUnder_map (key : List Char) (lines : List (List Char)) :
    Rule.lastUnder key (lines.map Rule.readTrimmed) = (lastFor key lines).map ruleOf := by
  have same (line : List Char) :
      decide ((Rule.readTrimmed line).place = .indexed key) = decide (key? line = some key) := by
    rw [readTrimmed_eq, decide_eq_decide]
    exact place_readText_eq_indexed_iff line key
  rw [Rule.lastUnder, lastFor, List.filter_map, List.getLast?_map, Option.map_map]
  simp only [Function.comp_def, same]
  rfl

/-- Of the entries of lines, those kept in order are those of the lines whose place matters. -/
theorem inOrder_map (lines : List (List Char)) :
    Rule.inOrder (lines.map Rule.readTrimmed) = (lines.filter isOrdered).map ruleOf := by
  have same (line : List Char) :
      decide ((Rule.readTrimmed line).place = .ordered) = isOrdered line := by
    rw [readTrimmed_eq, Bool.eq_iff_iff, decide_eq_true_eq]
    exact place_readText_eq_ordered_iff line
  rw [Rule.inOrder, List.filter_map, List.map_map]
  simp only [Function.comp_def, same]
  rfl

/-- Under a domain a list keeps the rule of the last line for it. -/
theorem lookup_ofText_eq (list key : List Char) :
    (RuleSet.ofText list).lookup key = (lastFor key (ruleLines list)).map ruleOf := by
  rw [RuleSet.lookup_ofText, entries_lines, lastUnder_map]

/-- In order a list keeps the rules of the lines whose place matters. -/
theorem ordered_ofText_eq (list : List Char) :
    (RuleSet.ofText list).ordered = ((ruleLines list).filter isOrdered).map ruleOf := by
  rw [RuleSet.ordered_ofText, entries_lines, inOrder_map]

/-- The rule for a host is that of the line for it. -/
theorem hostRule_ofText_eq (list host : List Char) :
    (RuleSet.ofText list).hostRule host = (hostLine (ruleLines list) host).map ruleOf := by
  rw [RuleSet.hostRule, lookup_ofText_eq, lookup_ofText_eq, hostLine]
  cases lastFor host (ruleLines list) <;> rfl

/-- A target is blocked by the rules of a list exactly if the lines of the list say so. -/
theorem blocks_ofText_eq (list : List Char) (t : Target) :
    (RuleSet.ofText list).blocks t = decides (ruleLines list) t := by
  rw [RuleSet.blocks, hostRule_ofText_eq, decides]
  cases hostLine (ruleLines list) t.host with
  | some line =>
    simp [Rule.blocks, fits_ruleOf, isException_ruleOf]
  | none =>
    simp only [Option.map_none, RuleSet.orderedVerdict, ordered_ofText_eq, List.find?_map,
      Function.comp_def, fits_ruleOf, Option.any_map, isException_ruleOf]

/-- The rules of a list answer every query as the plain reading of the list does: the last line for the
host decides, or else the last for its root domain, by whether it matches and whether it makes an
exception; else the first of the other lines that matches blocks, unless it makes an exception. -/
theorem isBlocked_ofText_eq_blocks (list query : List Char) :
    (RuleSet.ofText list).isBlocked query = blocks list query := by
  rw [RuleSet.isBlocked, blocks]
  cases Target.parse query with
  | some t => exact blocks_ofText_eq list t
  | none => rfl

example : blocks "||example.org\n@@||example.org".toList "git://example.org".toList = false := by decide

example : blocks "|git://a\n@@/b/c".toList "git://a/b/c".toList = true := by decide

end Detour.Reading
