import Detour.Feed
/-!
# What a feed keeps

Lines are fed one after another, and each that is no remark has an entry. Main statements: under a
domain a feed keeps the rule of the last entry for that domain, and in order it keeps the rules of
all entries that are kept in order. A rule set made from lines is therefore known by their entries.
-/

namespace Detour.Rule

/-- The entries of lines, in order. A remark has none. -/
def entries (lines : List (List Char)) : List Entry := lines.filterMap readLine

/-- The rule of the last of some entries that are kept under a domain. -/
def lastUnder (key : List Char) (entries : List Entry) : Option Rule :=
  (entries.filter (·.place = .indexed key)).getLast?.map Entry.rule

/-- The rules of the entries that are kept in order. -/
def inOrder (entries : List Entry) : List Rule :=
  (entries.filter (·.place = .ordered)).map Entry.rule

@[simp] theorem entries_nil : entries [] = [] := rfl

/-- A line contributes at most one entry. -/
theorem entries_cons (line : List Char) (rest : List (List Char)) :
    entries (line :: rest) = (readLine line).toList ++ entries rest := by
  cases h : readLine line with
  | none => simp [entries, h]
  | some e => simp [entries, h]

/-- The entries of two lists of lines follow each other. -/
theorem entries_append (front back : List (List Char)) :
    entries (front ++ back) = entries front ++ entries back := List.filterMap_append

/-- The entries of lines around one that has an entry. -/
theorem entries_middle {line : List Char} {e : Entry} (read : readLine line = some e)
    (front back : List (List Char)) :
    entries (front ++ line :: back) = entries front ++ e :: entries back := by
  rw [entries_append, entries_cons, read]
  rfl

@[simp] theorem lastUnder_nil (key : List Char) : lastUnder key [] = none := rfl

/-- Later entries come before earlier ones. -/
theorem lastUnder_append (key : List Char) (front back : List Entry) :
    lastUnder key (front ++ back) = (lastUnder key back).or (lastUnder key front) := by
  simp only [lastUnder, List.filter_append, List.getLast?_append]
  cases (back.filter (·.place = .indexed key)).getLast? <;> rfl

/-- A rule kept under a domain is that of one of the entries. -/
theorem mem_of_lastUnder {key : List Char} {entries : List Entry} {r : Rule}
    (h : lastUnder key entries = some r) : (⟨r, .indexed key⟩ : Entry) ∈ entries := by
  obtain ⟨e, last, rfl⟩ := Option.map_eq_some_iff.1 h
  have found := List.mem_filter.1 (List.mem_of_getLast? last)
  have place : e.place = .indexed key := of_decide_eq_true found.2
  rw [← place]
  exact found.1

@[simp] theorem inOrder_nil : inOrder [] = [] := rfl

/-- Entries kept in order stay in order. -/
theorem inOrder_append (front back : List Entry) :
    inOrder (front ++ back) = inOrder front ++ inOrder back := by
  simp [inOrder]

/-- A rule kept in order is that of one of the entries. -/
theorem mem_of_mem_inOrder {entries : List Entry} {r : Rule} (h : r ∈ inOrder entries) :
    (⟨r, .ordered⟩ : Entry) ∈ entries := by
  obtain ⟨e, found, rfl⟩ := List.mem_map.1 h
  have found := List.mem_filter.1 found
  have place : e.place = .ordered := of_decide_eq_true found.2
  rw [← place]
  exact found.1

end Detour.Rule

namespace Detour.Feed

open Rule (entries lastUnder inOrder readLine)

@[simp] theorem index_note (f : Feed) (r : Rule) : (f.note r).index = f.index := by
  unfold note
  split <;> rfl

@[simp] theorem reversed_note (f : Feed) (r : Rule) : (f.note r).reversed = f.reversed := by
  unfold note
  split <;> rfl

/-- Keep the rule of an entry in an index, if it has a domain. -/
def addTo (index : Std.TreeMap (List Char) Rule) (e : Rule.Entry) : Std.TreeMap (List Char) Rule :=
  match e.place with
  | .indexed key => index.insert key e.rule
  | .ordered => index

/-- An entry changes what is kept under its own domain only. -/
theorem getElem?_addTo (index : Std.TreeMap (List Char) Rule) (e : Rule.Entry) (key : List Char) :
    (addTo index e)[key]? = (lastUnder key [e]).or index[key]? := by
  cases place : e.place with
  | indexed domain =>
    by_cases same : domain = key
    · simp [addTo, lastUnder, place, same]
    · simp [addTo, lastUnder, place, same, Std.TreeMap.getElem?_insert]
  | ordered => simp [addTo, lastUnder, place]

/-- Under a domain the rule of the last entry for it is kept. -/
theorem getElem?_foldl_addTo (index : Std.TreeMap (List Char) Rule) (entries : List Rule.Entry)
    (key : List Char) :
    (entries.foldl addTo index)[key]? = (lastUnder key entries).or index[key]? := by
  -- Every entry is added to what those before it left, so this is about all indexes.
  induction entries generalizing index with
  | nil => rfl
  | cons e rest ih =>
    have split : lastUnder key (e :: rest) = (lastUnder key rest).or (lastUnder key [e]) :=
      Rule.lastUnder_append key [e] rest
    rw [List.foldl_cons, ih, getElem?_addTo, split, Option.or_assoc]

/-- The index after an entry. -/
theorem index_put (f : Feed) (e : Rule.Entry) : (f.put e).index = addTo f.index e := by
  cases place : e.place <;> simp [put, addTo, place]

/-- An entry that is kept in order comes last. -/
theorem reversed_put (f : Feed) (e : Rule.Entry) :
    (f.put e).reversed = (inOrder [e]).reverse ++ f.reversed := by
  cases place : e.place <;> simp [put, inOrder, place]

/-- The index after a line. -/
theorem index_line (f : Feed) (line : List Char) :
    (f.line line).index = (readLine line).toList.foldl addTo f.index := by
  cases h : readLine line with
  | none => simp [Feed.line, h]
  | some e => simp [Feed.line, h, index_put]

/-- What is kept under a domain after a line. -/
theorem getElem?_index_line (f : Feed) (line : List Char) (key : List Char) :
    (f.line line).index[key]? = (lastUnder key (readLine line).toList).or f.index[key]? := by
  rw [index_line, getElem?_foldl_addTo]

/-- What is kept in order after a line. -/
theorem reversed_line (f : Feed) (line : List Char) :
    (f.line line).reversed = (inOrder (readLine line).toList).reverse ++ f.reversed := by
  cases h : readLine line with
  | none => simp [Feed.line, h]
  | some e => simp [Feed.line, h, reversed_put]

/-- Lines fed after others are fed with them. -/
theorem lines_append (f : Feed) (front back : List (List Char)) :
    f.lines (front ++ back) = (f.lines front).lines back := by
  rw [Feed.lines, Feed.lines, Feed.lines, List.foldl_append]

/-- The index after lines is made of their entries, in order. -/
theorem index_lines (f : Feed) (lines : List (List Char)) :
    (f.lines lines).index = (entries lines).foldl addTo f.index := by
  induction lines generalizing f with
  | nil => rfl
  | cons line rest ih =>
    change ((f.line line).lines rest).index = _
    rw [ih, index_line, Rule.entries_cons, List.foldl_append]

/-- In order a feed keeps the rules of the entries that are kept so. -/
theorem reversed_lines (f : Feed) (lines : List (List Char)) :
    (f.lines lines).reversed = (inOrder (entries lines)).reverse ++ f.reversed := by
  induction lines generalizing f with
  | nil => rfl
  | cons line rest ih =>
    change ((f.line line).lines rest).reversed = _
    rw [ih, reversed_line, Rule.entries_cons, Rule.inOrder_append, List.reverse_append,
      List.append_assoc]

/-- What the set of fed lines keeps under a domain. -/
theorem lookup_ruleSet_lines (lines : List (List Char)) (key : List Char) :
    (empty.lines lines).ruleSet.lookup key = lastUnder key (entries lines) := by
  change (empty.lines lines).index[key]? = _
  rw [index_lines, getElem?_foldl_addTo]
  simp [empty]

/-- What the set of fed lines keeps in order. -/
theorem ordered_ruleSet_lines (lines : List (List Char)) :
    (empty.lines lines).ruleSet.ordered = inOrder (entries lines) := by
  simp [ruleSet, reversed_lines, empty]

/-- Lines with the same entries make the same rule set. -/
theorem ruleSet_lines_of_entries {lines others : List (List Char)}
    (same : entries lines = entries others) :
    (empty.lines lines).ruleSet = (empty.lines others).ruleSet := by
  rw [ruleSet, ruleSet, index_lines, index_lines, reversed_lines, reversed_lines, same]

end Detour.Feed

namespace Detour.RuleSet

/-- What a list keeps under a domain. -/
theorem lookup_ofText (text key : List Char) :
    (ofText text).lookup key = Rule.lastUnder key (Rule.entries (Text.lines text)) :=
  Feed.lookup_ruleSet_lines (Text.lines text) key

/-- What a list keeps in order. -/
theorem ordered_ofText (text : List Char) :
    (ofText text).ordered = Rule.inOrder (Rule.entries (Text.lines text)) :=
  Feed.ordered_ruleSet_lines (Text.lines text)

end Detour.RuleSet
