import Detour.Proofs.HostRule
import Detour.Proofs.Reading.Reach
import Mathlib.Data.Finset.Card
/-!
# What a feed keeps and counts

Texts and single lines are fed in any order. The index grows with every new domain and forgets the rule
that a later line for the same domain replaces, the order only grows, and two counters tell lines
with a rule from the others. Main statement: at every point the index, the order and the counters are
what a look at the lines fed so far says, so that no rule is lost but those that were replaced.
-/

namespace Detour.Feed

open Reading (carrying key? isOrdered ruleOf lastFor)
open Rule (entries readLine)

/-- What is fed at once. -/
inductive Piece where
  /-- A text, line by line. -/
  | text (s : List Char)
  /-- One line, even if it holds line ends. -/
  | line (s : List Char)

/-- The lines of a piece. -/
def Piece.lines : Piece → List (List Char)
  | .text s => Text.lines s
  | .line s => [s]

/-- Feed a piece. -/
def piece (f : Feed) : Piece → Feed
  | .text s => f.text s
  | .line s => f.line s

/-- What is reached when pieces are fed in turn. -/
def reached (pieces : List Piece) : Feed := pieces.foldl piece empty

/-- Feeding pieces is feeding their lines. -/
theorem foldl_piece (f : Feed) (pieces : List Piece) :
    pieces.foldl piece f = f.lines (pieces.flatMap Piece.lines) := by
  induction pieces generalizing f with
  | nil => rfl
  | cons p rest ih =>
    have first : f.piece p = f.lines p.lines := by cases p <;> rfl
    rw [List.foldl_cons, ih, first, List.flatMap_cons, lines_append]

/-- What is reached by pieces is reached by their lines. -/
theorem reached_eq (pieces : List Piece) :
    reached pieces = empty.lines (pieces.flatMap Piece.lines) :=
  foldl_piece empty pieces

/-! ### The counters -/

@[simp] theorem rules_note (f : Feed) (r : Rule) : (f.note r).rules = f.rules := by
  unfold note
  split <;> rfl

@[simp] theorem rules_put (f : Feed) (e : Rule.Entry) : (f.put e).rules = f.rules := by
  unfold put
  split <;> rfl

@[simp] theorem skipped_note (f : Feed) (r : Rule) : (f.note r).skipped = f.skipped := by
  unfold note
  split <;> rfl

@[simp] theorem skipped_put (f : Feed) (e : Rule.Entry) : (f.put e).skipped = f.skipped := by
  unfold put
  split <;> rfl

/-- The lines with an entry are counted. -/
theorem rules_lines (f : Feed) (lines : List (List Char)) :
    (f.lines lines).rules = f.rules + (entries lines).length := by
  induction lines generalizing f with
  | nil => rfl
  | cons line rest ih =>
    have one : (f.line line).rules = f.rules + (readLine line).toList.length := by
      cases h : readLine line with
      | none => simp [Feed.line, h]
      | some e => simp [Feed.line, h]
    change ((f.line line).lines rest).rules = _
    rw [ih, one, Rule.entries_cons, List.length_append]
    omega

/-- Every line counts once, with its entry or as one without. -/
theorem rules_add_skipped_lines (f : Feed) (lines : List (List Char)) :
    (f.lines lines).rules + (f.lines lines).skipped = f.rules + f.skipped + lines.length := by
  induction lines generalizing f with
  | nil => rfl
  | cons line rest ih =>
    have one : (f.line line).rules + (f.line line).skipped = f.rules + f.skipped + 1 := by
      cases h : readLine line with
      | none =>
        simp only [Feed.line, h]
        omega
      | some e =>
        simp only [Feed.line, h, rules_put, rules_note, skipped_put, skipped_note]
        omega
    have all := ih (f.line line)
    change ((f.line line).lines rest).rules + ((f.line line).lines rest).skipped = _
    rw [List.length_cons]
    omega

/-! ### The size of the index -/

/-- The domains for which lines are meant. -/
def keys (lines : List (List Char)) : List (List Char) := lines.filterMap key?

/-- How many lines are meant for a domain for which a later line is meant, too. -/
def replaced : List (List Char) → Nat
  | [] => 0
  | line :: rest =>
    match key? line with
    | none => replaced rest
    | some key => (if (keys rest).contains key then 1 else 0) + replaced rest

/-- What lines leave under a domain is the rule of the last line for it. -/
theorem lookup_lines (lines : List (List Char)) (key : List Char) :
    (empty.lines lines).ruleSet.lookup key = (lastFor key (carrying lines)).map ruleOf := by
  rw [lookup_ruleSet_lines, Reading.entries_eq, ← carrying, Reading.lastUnder_map]

/-- What lines leave in order are the rules of the lines whose place matters. -/
theorem ordered_lines (lines : List (List Char)) :
    (empty.lines lines).ruleSet.ordered = ((carrying lines).filter isOrdered).map ruleOf := by
  rw [ordered_ruleSet_lines, Reading.entries_eq, ← carrying, Reading.inOrder_map]

/-- A line that carries a rule adds it to the index under the domain for which it is meant. -/
theorem addTo_readTrimmed (index : Std.TreeMap (List Char) Rule) (line : List Char) :
    addTo index (Rule.readTrimmed line) =
      (key? line).toList.foldl (fun index key => index.insert key (ruleOf line)) index := by
  have place : (Rule.readTrimmed line).place = (Rule.readText (Reading.body line)).2 := by
    rw [Reading.readTrimmed_eq]
  cases own : key? line with
  | some key =>
    rw [(Reading.place_readText_eq_indexed_iff line key).2 own] at place
    simp [addTo, place, ruleOf]
  | none =>
    cases kept : (Rule.readTrimmed line).place with
    | ordered => simp [addTo, kept]
    | indexed key =>
      have other := (Reading.place_readText_eq_indexed_iff line key).1 (place.symm.trans kept)
      rw [own] at other
      cases other

/-- The index made of lines that carry rules. -/
def indexOf (lines : List (List Char)) : Std.TreeMap (List Char) Rule :=
  (lines.map Rule.readTrimmed).foldl addTo empty.index

/-- The index of fed lines is made of those that carry rules. -/
theorem index_empty_lines (lines : List (List Char)) :
    (empty.lines lines).index = indexOf (carrying lines) := by
  rw [index_lines, Reading.entries_eq, ← carrying, indexOf]

/-- One more line adds its rule under its domain. -/
theorem indexOf_concat (lines : List (List Char)) (line : List Char) :
    indexOf (lines ++ [line]) =
      (key? line).toList.foldl (fun index key => index.insert key (ruleOf line)) (indexOf lines) := by
  rw [indexOf, List.map_append, List.foldl_append, ← indexOf, List.map_singleton, List.foldl_cons,
    List.foldl_nil, addTo_readTrimmed]

/-- One more line adds its domain. -/
theorem keys_concat (lines : List (List Char)) (line : List Char) :
    keys (lines ++ [line]) = keys lines ++ (key? line).toList := by
  cases own : key? line <;> simp [keys, own]

/-- A domain has an entry in the index exactly if a line is meant for it. -/
theorem mem_indexOf (lines : List (List Char)) (key : List Char) :
    key ∈ indexOf lines ↔ key ∈ keys lines := by
  induction lines using List.reverseRecOn with
  | nil => simp [indexOf, keys, empty]
  | append_singleton lines line ih =>
    rw [indexOf_concat, keys_concat]
    cases key? line with
    | none => simpa using ih
    | some own =>
      simp only [Option.toList_some, List.foldl_cons, List.foldl_nil, Std.TreeMap.mem_insert,
        List.mem_append, List.mem_singleton, Std.compare_eq_iff_eq, ih]
      constructor
      · rintro (same | earlier)
        · exact .inr same.symm
        · exact .inl earlier
      · rintro (earlier | same)
        · exact .inr earlier
        · exact .inl same.symm

/-- The index has one entry for each domain for which a line is meant. -/
theorem size_indexOf (lines : List (List Char)) :
    (indexOf lines).size = (keys lines).toFinset.card := by
  induction lines using List.reverseRecOn with
  | nil => rfl
  | append_singleton lines line ih =>
    rw [indexOf_concat, keys_concat]
    cases key? line with
    | none => simpa using ih
    | some own =>
      have known : (indexOf lines).contains own = true ↔ own ∈ (keys lines).toFinset := by
        rw [List.mem_toFinset, ← mem_indexOf, Std.TreeMap.mem_iff_contains]
      have grown : (keys lines ++ [own]).toFinset = insert own (keys lines).toFinset := by
        rw [List.toFinset_append, List.toFinset_cons, List.toFinset_nil, Finset.union_comm,
          Finset.insert_union, Finset.empty_union]
      rw [Option.toList_some, List.foldl_cons, List.foldl_nil, Std.TreeMap.size_insert, grown,
        Finset.card_insert_eq_ite, ih]
      exact if_congr known rfl rfl

/-- Of the lines that are meant for a domain, each is the last one for it or is replaced. -/
theorem length_keys (lines : List (List Char)) :
    (keys lines).length = (keys lines).toFinset.card + replaced lines := by
  induction lines with
  | nil => rfl
  | cons line rest ih =>
    cases own : key? line with
    | none =>
      have same : keys (line :: rest) = keys rest := by simp [keys, own]
      simpa [replaced, own, same] using ih
    | some key =>
      have more : keys (line :: rest) = key :: keys rest := by simp [keys, own]
      simp only [more, List.length_cons, List.toFinset_cons, replaced, own, List.contains_iff_mem]
      by_cases later : key ∈ keys rest
      · rw [Finset.card_insert_of_mem (List.mem_toFinset.2 later), if_pos later]
        omega
      · have fresh : key ∉ (keys rest).toFinset := fun found => later (List.mem_toFinset.1 found)
        rw [Finset.card_insert_of_notMem fresh, if_neg later]
        omega

/-- A line that carries a rule is meant for a domain, or its place matters. -/
theorem length_carrying (lines : List (List Char)) :
    lines.length = (keys lines).length + (lines.filter isOrdered).length := by
  induction lines with
  | nil => rfl
  | cons line rest ih =>
    cases own : key? line with
    | none =>
      have ordered : isOrdered line = true := by
        rw [← Reading.place_readText_eq_ordered_iff]
        cases place : (Rule.readText (Reading.body line)).2 with
        | ordered => rfl
        | indexed key =>
          rw [(Reading.place_readText_eq_indexed_iff line key).1 place] at own
          cases own
      have same : keys (line :: rest) = keys rest := by simp [keys, own]
      rw [same, List.filter_cons_of_pos ordered, List.length_cons, List.length_cons]
      omega
    | some key =>
      have unordered : ¬isOrdered line = true := by
        rw [Reading.isOrdered_of_key own]
        exact Bool.false_ne_true
      have more : keys (line :: rest) = key :: keys rest := by simp [keys, own]
      rw [more, List.filter_cons_of_neg unordered, List.length_cons, List.length_cons]
      omega

/-- At every point a feed is what a look at the lines fed so far says. Under a domain it keeps the rule of
the last line for this domain, which looks for the domain in hosts, possibly behind a point; in order
it keeps the rules of all lines whose place matters, none of which looks at hosts. The counters add
up to the number of lines, the index has one entry for each domain, and the rules that are in
neither are those that a later line for the same domain replaced. -/
theorem tally_of_pieces (pieces : List Piece) :
    let f := reached pieces
    let fed := pieces.flatMap Piece.lines
    let lines := carrying fed
    (∀ key, f.ruleSet.lookup key = (lastFor key lines).map ruleOf) ∧
      (∀ key rule, f.ruleSet.lookup key = some rule →
        rule.kind = .hostPart key ∨ rule.kind = .hostPart ('.' :: key)) ∧
      f.ruleSet.ordered = (lines.filter isOrdered).map ruleOf ∧
      (∀ rule ∈ f.ruleSet.ordered, ∀ text, rule.kind ≠ .hostPart text) ∧
      f.rules + f.skipped = fed.length ∧
      f.ruleSet.orderedSize = (lines.filter isOrdered).length ∧
      f.ruleSet.indexedSize = (keys lines).toFinset.card ∧
      f.rules = f.ruleSet.indexedSize + f.ruleSet.orderedSize + replaced lines := by
  intro f fed lines
  have all : f = empty.lines fed := reached_eq pieces
  have ordered : f.ruleSet.ordered = (lines.filter isOrdered).map ruleOf := by
    rw [all]
    exact ordered_lines fed
  have orderedSize : f.ruleSet.orderedSize = (lines.filter isOrdered).length := by
    rw [RuleSet.orderedSize, ordered, List.length_map]
  have indexedSize : f.ruleSet.indexedSize = (keys lines).toFinset.card := by
    rw [all, RuleSet.indexedSize, ruleSet, index_empty_lines, size_indexOf]
  have rules : f.rules = lines.length := by
    have counted := rules_lines empty fed
    rw [← all, Reading.entries_eq, List.length_map] at counted
    exact counted.trans (Nat.zero_add _)
  refine ⟨?_, ?_, ordered, ?_, ?_, orderedSize, indexedSize, ?_⟩
  · intro key
    rw [all]
    exact lookup_lines fed key
  · intro key rule kept
    rw [all, lookup_ruleSet_lines] at kept
    exact Rule.kind_of_lastUnder kept
  · intro rule kept text
    rw [all, ordered_ruleSet_lines] at kept
    exact Rule.kind_of_mem_inOrder kept text
  · have counted := rules_add_skipped_lines empty fed
    rw [← all] at counted
    exact counted.trans (Nat.zero_add _)
  · have parts := length_carrying lines
    have single := length_keys lines
    omega

end Detour.Feed
