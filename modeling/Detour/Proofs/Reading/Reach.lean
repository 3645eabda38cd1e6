import Detour.Proofs.Reading
import Detour.Proofs.Text.Line
/-!
# How far one line reaches

A line put into a list can change the answer to some queries only. A remark changes none. A line for a
domain matters to the hosts of this domain, and any other line only to the targets that it matches
and that nothing in front of it has decided. Main statement: whatever the list, the place and the line
are, a query whose answer changes is one of these.
-/

namespace Detour.Reading

/-- A list is another one with a line put in behind so many lines, or at its end. -/
def InsertsLine (line : List Char) (place : Nat) (list longer : List Char) : Prop :=
  Text.lines longer = (Text.lines list).take place ++ line :: (Text.lines list).drop place

/-- A line is put in front of a list with a line feed behind it, unless it ends with a carriage return. -/
theorem insertsLine_front {line : List Char} (single : '\n' ∉ line) (plain : line.getLast? ≠ some '\r')
    (list : List Char) : InsertsLine line 0 list (line ++ '\n' :: list) :=
  Text.lines_append_feed single plain list

/-- The lines among some that carry a rule, without blanks at their ends. -/
def carrying (lines : List (List Char)) : List (List Char) :=
  (lines.map Text.trim).filter (!isSilent ·)

/-- The lines of a list that carry a rule are found line by line. -/
theorem ruleLines_eq (list : List Char) : ruleLines list = carrying (Text.lines list) := rfl

/-- The lines in front and those behind carry their rules on their own. -/
theorem carrying_append (front back : List (List Char)) :
    carrying (front ++ back) = carrying front ++ carrying back := by
  simp [carrying]

/-- A line carries a rule unless it is silent. -/
theorem carrying_cons (line : List Char) (rest : List (List Char)) :
    carrying (line :: rest) =
      if isSilent (Text.trim line) then carrying rest else Text.trim line :: carrying rest := by
  cases silent : isSilent (Text.trim line) <;> simp [carrying, silent]

/-- A line for a domain has no place in the order of the others. -/
theorem isOrdered_of_key {line key : List Char} (h : key? line = some key) : isOrdered line = false := by
  have place := (place_readText_eq_indexed_iff line key).2 h
  rw [Bool.eq_false_iff]
  intro ordered
  rw [(place_readText_eq_ordered_iff line).2 ordered] at place
  cases place

/-- A line whose place matters is meant for no domain. -/
theorem key_of_isOrdered {line : List Char} (h : isOrdered line = true) (key : List Char) :
    key? line ≠ some key := by
  intro found
  rw [isOrdered_of_key found] at h
  cases h

/-- A line does not change which line is the last for a domain that it is not meant for. -/
theorem lastFor_insert {line key : List Char} (other : key? line ≠ some key)
    (front back : List (List Char)) :
    lastFor key (front ++ line :: back) = lastFor key (front ++ back) := by
  simp [lastFor, other]

/-- Lines that agree on the last line for a host and for its root domain, and on the others in their
order, decide alike. -/
theorem decides_congr {lines others : List (List Char)} {t : Target}
    (host : lastFor t.host lines = lastFor t.host others)
    (root : lastFor (rootDomain t.host) lines = lastFor (rootDomain t.host) others)
    (order : lines.filter isOrdered = others.filter isOrdered) : decides lines t = decides others t := by
  simp only [decides, hostLine, host, root, order]

/-- Where a line for a domain changes what lines decide, the domain is the host, or its root domain and
no line is meant for the host. -/
theorem host_of_decides_ne {line key : List Char} {front back : List (List Char)} {t : Target}
    (own : key? line = some key)
    (changed : decides (front ++ line :: back) t ≠ decides (front ++ back) t) :
    t.host = key ∨ rootDomain t.host = key ∧ lastFor t.host (front ++ back) = none := by
  by_cases host : t.host = key
  · exact .inl host
  have otherHost : key? line ≠ some t.host := by
    rw [own]
    exact fun e => host (Option.some.inj e).symm
  have sameHost := lastFor_insert otherHost front back
  by_cases root : rootDomain t.host = key
  · refine .inr ⟨root, ?_⟩
    cases found : lastFor t.host (front ++ back) with
    | none => rfl
    | some hostLine =>
      -- The line for the host decides, whatever is said about its root domain.
      refine absurd ?_ changed
      simp only [decides, Reading.hostLine, sameHost, found, Option.some_or]
  · have otherRoot : key? line ≠ some (rootDomain t.host) := by
      rw [own]
      exact fun e => root (Option.some.inj e).symm
    refine absurd (decides_congr sameHost (lastFor_insert otherRoot front back) ?_) changed
    simp [isOrdered_of_key own]

/-- Where a line whose place matters changes what lines decide, no line decides by the host, the line
matches the target, and none of the lines in front whose place matters does. -/
theorem order_of_decides_ne {line : List Char} {front back : List (List Char)} {t : Target}
    (own : isOrdered line = true)
    (changed : decides (front ++ line :: back) t ≠ decides (front ++ back) t) :
    hostLine (front ++ back) t.host = none ∧ matchesTarget line t = true ∧
      ∀ earlier ∈ front, isOrdered earlier = true → matchesTarget earlier t = false := by
  have sameHost : hostLine (front ++ line :: back) t.host = hostLine (front ++ back) t.host := by
    simp only [hostLine, lastFor_insert (key_of_isOrdered own _)]
  cases host : hostLine (front ++ back) t.host with
  | some decisive =>
    refine absurd ?_ changed
    simp only [decides, sameHost, host]
  | none =>
    simp only [decides, sameHost, host, List.filter_append, List.filter_cons, own, if_true,
      List.find?_append] at changed
    refine ⟨rfl, ?_, ?_⟩
    · rw [← Bool.not_eq_false]
      intro misses
      simp [misses] at changed
    · intro earlier found ordered
      rw [← Bool.not_eq_true]
      intro hits
      -- Both lists are decided by the first line in front that matches.
      cases first : (front.filter isOrdered).find? (matchesTarget · t) with
      | some decisive => simp [first] at changed
      | none =>
        have none := List.find?_eq_none.1 first earlier (List.mem_filter.2 ⟨found, ordered⟩)
        exact none hits

/-- A list keeps no rule under a domain exactly if no line is meant for it. -/
theorem lookup_ofText_eq_none_iff (list key : List Char) :
    (RuleSet.ofText list).lookup key = none ↔ lastFor key (ruleLines list) = none := by
  rw [lookup_ofText_eq, Option.map_eq_none_iff]

/-- A line that is put into a list changes the answer to a query at most as follows. It is no remark. If
it is meant for a domain, then this is the host of the target, or it is its root domain and the
list keeps nothing under the host itself. If its place matters, the list keeps nothing under
either, the line matches the target, and no line in front of it whose place matters does. -/
theorem reach_of_insertsLine {line list longer query : List Char} {place : Nat} {t : Target}
    (inserted : InsertsLine line place list longer) (asked : Target.parse query = some t)
    (changed : (RuleSet.ofText longer).isBlocked query ≠ (RuleSet.ofText list).isBlocked query) :
    isSilent (Text.trim line) = false ∧
      (∀ key, key? (Text.trim line) = some key →
        t.host = key ∨
          rootDomain t.host = key ∧ (RuleSet.ofText list).lookup t.host = none) ∧
      (isOrdered (Text.trim line) = true →
        (RuleSet.ofText list).lookup t.host = none ∧
          (RuleSet.ofText list).lookup (rootDomain t.host) = none ∧
          matchesTarget (Text.trim line) t = true ∧
          ∀ earlier ∈ (Text.lines list).take place, isSilent (Text.trim earlier) = false →
            isOrdered (Text.trim earlier) = true → matchesTarget (Text.trim earlier) t = false) := by
  obtain ⟨front, back, inFront, lines, linesLonger⟩ : ∃ front back,
      (Text.lines list).take place = front ∧ Text.lines list = front ++ back ∧
        Text.lines longer = front ++ line :: back := by
    refine ⟨(Text.lines list).take place, (Text.lines list).drop place, rfl,
      (List.take_append_drop _ _).symm, inserted⟩
  have before : ruleLines list = carrying front ++ carrying back := by
    rw [ruleLines_eq, lines, carrying_append]
  simp only [RuleSet.isBlocked, asked, Option.any_some, blocks_ofText_eq, ruleLines_eq longer,
    linesLonger, carrying_append, carrying_cons, before] at changed
  cases silent : isSilent (Text.trim line) with
  | true => simp [silent] at changed
  | false =>
    rw [silent, if_neg Bool.false_ne_true] at changed
    simp only [lookup_ofText_eq_none_iff, before]
    refine ⟨trivial, fun key own => host_of_decides_ne own changed, fun own => ?_⟩
    obtain ⟨host, hits, misses⟩ := order_of_decides_ne own changed
    obtain ⟨noHost, noRoot⟩ := Option.or_eq_none_iff.1 host
    refine ⟨noHost, noRoot, hits, fun earlier found audible ordered => ?_⟩
    refine misses _ ?_ ordered
    rw [inFront] at found
    refine List.mem_filter.2 ⟨List.mem_map_of_mem found, ?_⟩
    rw [audible]
    rfl

/-- A line behind an exception reaches a target that the exception does not match. -/
theorem reach_of_line_behind_exception :
    InsertsLine "a/b".toList 1 "@@|git://a/x\n||c".toList "@@|git://a/x\na/b\n||c".toList ∧
      (RuleSet.ofText "@@|git://a/x\n||c".toList).lookup ['a'] = none ∧
      matchesTarget "@@|git://a/x".toList
        ⟨⟨"git".toList, [], .name ['a'], none, ['/', 'b'], none, none⟩⟩ = false := by
  have inserted : InsertsLine "a/b".toList 1 "@@|git://a/x\n||c".toList
      "@@|git://a/x\na/b\n||c".toList := by
    unfold InsertsLine
    decide
  have asked : Target.parse "git://a/b".toList =
      some ⟨⟨"git".toList, [], .name ['a'], none, ['/', 'b'], none, none⟩⟩ := by
    decide
  have changed : (RuleSet.ofText "@@|git://a/x\na/b\n||c".toList).isBlocked "git://a/b".toList ≠
      (RuleSet.ofText "@@|git://a/x\n||c".toList).isBlocked "git://a/b".toList := by
    decide
  obtain ⟨-, -, ordered⟩ := reach_of_insertsLine inserted asked changed
  obtain ⟨host, -, -, earlier⟩ := ordered (by decide)
  exact ⟨inserted, host, earlier "@@|git://a/x".toList (by decide) (by decide) (by decide)⟩

end Detour.Reading
