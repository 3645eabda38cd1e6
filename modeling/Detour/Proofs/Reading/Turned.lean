import Detour.Proofs.Rule.Spelling
import Detour.Proofs.RuleSet.Deciding
import Detour.Proofs.Text.Blank
/-!
# Lines turned into their opposite

A line makes an exception or it does not, and this plays no part in which line decides about a target. Main
statement: if a line of a list is turned into its opposite, the answers that change are those to the
queries about which this line decides, and each line decides about the same targets as before.
-/

namespace Detour.Rule

/-- The same entry with the opposite meaning. -/
def Entry.turned (e : Entry) : Entry := ⟨e.rule.turned, e.place⟩

/-- An entry without its meaning: what it compares and where it is kept. -/
def Entry.outline (e : Entry) : Kind × Place := (e.rule.kind, e.place)

@[simp] theorem Entry.outline_turned (e : Entry) : e.turned.outline = e.outline := rfl

/-- Whether the entry at some place among others decides about a target. -/
def DecidesAt (entries : List Entry) (place : Nat) (t : Target) : Prop :=
  ∃ e, entries[place]? = some e ∧ Decides (entries.take place) e (entries.drop (place + 1)) t

variable {front others back : List Entry} {e other : Entry} {key : List Char} {t : Target}

/-- Whether an entry is kept under a domain can be told from the outlines. -/
theorem NoneUnder.of_outline (same : front.map Entry.outline = others.map Entry.outline)
    (h : NoneUnder key front) : NoneUnder key others := by
  have outlines : ∀ o ∈ front.map Entry.outline, o.2 ≠ .indexed key := List.forall_mem_map.2 h
  rw [same] at outlines
  exact fun e found => outlines e.outline (List.mem_map_of_mem found)

/-- Which entry is the last one for a domain can be told from the outlines. -/
theorem IsLastUnder.of_outline (own : e.outline = other.outline)
    (same : back.map Entry.outline = others.map Entry.outline) (h : IsLastUnder key e back) :
    IsLastUnder key other others := by
  have place : e.place = other.place := congrArg Prod.snd own
  exact ⟨place ▸ h.place, h.last.of_outline same⟩

/-- Which entry in order is the first to match can be told from the outlines. -/
theorem IsFirstFor.of_outline (own : e.outline = other.outline)
    (same : front.map Entry.outline = others.map Entry.outline) (h : IsFirstFor t front e) :
    IsFirstFor t others other := by
  have kind : e.rule.kind = other.rule.kind := congrArg Prod.fst own
  have place : e.place = other.place := congrArg Prod.snd own
  have hits : e.rule.kind.fits t = true := h.hits
  have outlines : ∀ o ∈ front.map Entry.outline, o.2 = .ordered → o.1.fits t = false :=
    List.forall_mem_map.2 h.first
  rw [same] at outlines
  rw [kind] at hits
  exact ⟨place ▸ h.place, hits, List.forall_mem_map.1 outlines⟩

/-- Which entry decides about a target can be told from the outlines. -/
theorem Decides.of_outline {front' back' : List Entry}
    (ahead : front.map Entry.outline = front'.map Entry.outline) (own : e.outline = other.outline)
    (behind : back.map Entry.outline = back'.map Entry.outline) (h : Decides front e back t) :
    Decides front' other back' t := by
  have all : (front ++ e :: back).map Entry.outline = (front' ++ other :: back').map Entry.outline := by
    rw [List.map_append, List.map_append, List.map_cons, List.map_cons, ahead, own, behind]
  cases h with
  | host last => exact .host (last.of_outline own behind)
  | root noHost last => exact .root (noHost.of_outline all) (last.of_outline own behind)
  | order noHost noRoot first =>
    exact .order (noHost.of_outline all) (noRoot.of_outline all) (first.of_outline own ahead)

/-- An entry decides about the same targets as its opposite. -/
theorem decides_turned_iff : Decides front e.turned back t ↔ Decides front e back t := by
  constructor
  · exact Decides.of_outline rfl e.outline_turned rfl
  · exact Decides.of_outline rfl e.outline_turned.symm rfl

/-- At which place the entry stands that decides about a target can be told from the outlines. -/
theorem DecidesAt.of_outline {entries entries' : List Entry} {place : Nat}
    (same : entries.map Entry.outline = entries'.map Entry.outline) (h : DecidesAt entries place t) :
    DecidesAt entries' place t := by
  obtain ⟨e, found, decides⟩ := h
  have outline : (entries'[place]?).map Entry.outline = some e.outline := by
    rw [← List.getElem?_map, ← same, List.getElem?_map, found, Option.map_some]
  obtain ⟨other, there, own⟩ := Option.map_eq_some_iff.1 outline
  refine ⟨other, there, decides.of_outline ?_ own.symm ?_⟩
  · rw [List.map_take, List.map_take, same]
  · rw [List.map_drop, List.map_drop, same]

/-- A mark in front of a line without blanks at its ends leaves it without them. -/
theorem trim_exceptionMark_append (line : List Char) :
    Text.trim (exceptionMark ++ Text.trim line) = exceptionMark ++ Text.trim line := by
  refine Text.trim_of_ends (fun c first => ?_) fun c last => ?_
  · cases first
    decide
  · rw [Option.mem_def, List.getLast?_append, Option.or_eq_some_iff] at last
    rcases last with own | ⟨-, marked⟩
    · exact Text.isBlank_of_getLast?_trim c own
    · cases marked
      decide

/-- A line is turned into its opposite by a mark in front, if it has none. -/
theorem readLine_exceptionMark {line : List Char} {e : Entry} (read : readLine line = some e)
    (plain : e.rule.isException = false) :
    readLine (exceptionMark ++ Text.trim line) = some e.turned := by
  obtain ⟨audible, rfl⟩ := readLine_eq_some_iff.1 read
  have unmarked : Reading.exempts (Text.trim line) = false := by
    rw [Reading.readTrimmed_eq] at plain
    exact plain
  have before : readTrimmed (mark false ++ Text.trim line) = _ := readTrimmed_mark_append fun _ => unmarked
  have behind : readTrimmed (mark true ++ Text.trim line) = _ := readTrimmed_mark_append nofun
  rw [readLine_eq_some_iff, trim_exceptionMark_append]
  refine ⟨rfl, behind.trans ?_⟩
  exact congrArg Entry.turned before.symm

end Detour.Rule

namespace Detour.Reading

open Rule (Entry Decides DecidesAt entries readLine)

/-- The rules of a list in which the line between others, whose entry is given, is turned into its
opposite. -/
inductive Turns (front : List (List Char)) (e : Entry) (back : List (List Char)) : RuleSet → Prop where
  /-- Another line stands in its place, with the same rule but for the opposite meaning. -/
  | written {other line : List Char} (lines : Text.lines other = front ++ line :: back)
    (read : readLine line = some e.turned) : Turns front e back (.ofText other)
  /-- The entries are put together anew with the opposite one, whether a line can be written for it or
  not. -/
  | built : Turns front e back (.ofEntries (entries front ++ e.turned :: entries back))

variable {front back : List (List Char)} {line list : List Char} {e : Entry} {s : RuleSet}

/-- However a line is turned, the entries might have been put together anew. -/
theorem Turns.eq_ofEntries (h : Turns front e back s) :
    s = .ofEntries (entries front ++ e.turned :: entries back) := by
  cases h with
  | written lines read => rw [RuleSet.ofText_eq_ofEntries, lines, Rule.entries_middle read]
  | built => rfl

/-- Turning the entry that decides about a target turns what is decided. -/
theorem blocks_turned_of_decides {front back : List Entry} {t : Target}
    (decides : Decides front e back t) :
    (RuleSet.ofEntries (front ++ e.turned :: back)).blocks t =
      !(RuleSet.ofEntries (front ++ e :: back)).blocks t := by
  have turned := Rule.decides_turned_iff.2 decides
  rw [RuleSet.blocks_of_decides turned, RuleSet.blocks_of_decides decides]
  exact Rule.blocks_turned e.rule t

/-- Turning another entry does not. -/
theorem blocks_turned_of_not_decides {front back : List Entry} {t : Target}
    (other : ¬Decides front e back t) :
    (RuleSet.ofEntries (front ++ e.turned :: back)).blocks t =
      (RuleSet.ofEntries (front ++ e :: back)).blocks t := by
  have turned : ¬Decides front e.turned back t := fun h => other (Rule.decides_turned_iff.1 h)
  rw [RuleSet.blocks_of_not_decides turned, RuleSet.blocks_of_not_decides other]

/-- Turning a line of a list into its opposite changes the answers to the queries about which this line
decides, and no others: those for whose host it is the last line or, where there is none, for whose
root domain, and where there is none for either those for which it is the first line in order that
matches. Which line decides about a target stays the same. -/
theorem isBlocked_turned_iff (lines : Text.lines list = front ++ line :: back)
    (read : readLine line = some e) (turns : Turns front e back s) :
    (∀ query, s.isBlocked query = !(RuleSet.ofText list).isBlocked query ↔
        ∃ t, Target.parse query = some t ∧ Decides (entries front) e (entries back) t) ∧
      ∀ place t, DecidesAt (entries front ++ e.turned :: entries back) place t ↔
        DecidesAt (entries (Text.lines list)) place t := by
  have whole : entries (Text.lines list) = entries front ++ e :: entries back := by
    rw [lines, Rule.entries_middle read]
  constructor
  · intro query
    rw [turns.eq_ofEntries, RuleSet.ofText_eq_ofEntries, whole, RuleSet.isBlocked, RuleSet.isBlocked]
    cases asked : Target.parse query with
    | none => simp
    | some t =>
      simp only [Option.any_some, Option.some.injEq, exists_eq_left']
      constructor
      · intro changed
        by_cases decides : Decides (entries front) e (entries back) t
        · exact decides
        · rw [blocks_turned_of_not_decides decides] at changed
          exact absurd changed (Bool.not_eq_not.2 rfl)
      · exact blocks_turned_of_decides
  · intro place t
    have same : (entries front ++ e.turned :: entries back).map Entry.outline =
        (entries (Text.lines list)).map Entry.outline := by
      rw [whole, List.map_append, List.map_append, List.map_cons, List.map_cons, e.outline_turned]
    exact ⟨DecidesAt.of_outline same, DecidesAt.of_outline same.symm⟩

/-- A domain behind a point does not match the domain itself. A mark in front of such a line, which is the
last one for the domain, blocks it. -/
theorem isBlocked_turned_behind_point :
    Text.lines "||a.b\n.a.b\n|git://".toList = ["||a.b".toList] ++ ".a.b".toList :: ["|git://".toList] ∧
      (RuleSet.ofText "||a.b\n.a.b\n|git://".toList).isBlocked "git://a.b/c".toList = false ∧
      (RuleSet.ofText "||a.b\n@@.a.b\n|git://".toList).isBlocked "git://a.b/c".toList = true := by
  have lines : Text.lines "||a.b\n.a.b\n|git://".toList =
      ["||a.b".toList] ++ ".a.b".toList :: ["|git://".toList] := by
    decide
  have read : readLine ".a.b".toList =
      some ⟨⟨.hostPart ".a.b".toList, false⟩, .indexed "a.b".toList⟩ := by
    decide
  have marked := Rule.readLine_exceptionMark read rfl
  have turned : Turns ["||a.b".toList] ⟨⟨.hostPart ".a.b".toList, false⟩, .indexed "a.b".toList⟩
      ["|git://".toList] (.ofText "||a.b\n@@.a.b\n|git://".toList) :=
    .written (by decide) marked
  have asked : Target.parse "git://a.b/c".toList =
      some ⟨⟨"git".toList, [], .name "a.b".toList, none, ['/', 'c'], none, none⟩⟩ := by
    decide
  have answer : (RuleSet.ofText "||a.b\n.a.b\n|git://".toList).isBlocked "git://a.b/c".toList =
      false := by
    decide
  have flipped := ((isBlocked_turned_iff lines read turned).1 "git://a.b/c".toList).2
    ⟨_, asked, .host (by decide)⟩
  exact ⟨lines, answer, flipped.trans (congrArg not answer)⟩

end Detour.Reading
