import Detour.Proofs.Reading.Reach
import Detour.Proofs.RuleSet.Deciding
/-!
# Lines that never decide

A rule stands in the shadow of another one that matches whatever it matches. Behind the other one it is
never the first to match, and a rule whose expression cannot be read is not the first anywhere. Main
statement: a line for such a rule can be deleted, and every query is answered as before.
-/

namespace Detour.Rule

/-- Whether it can be told from what is written in two rules that the first matches whatever the second
matches. -/
inductive Kind.Shadows : Kind → Kind → Prop where
  /-- A text that is looked for in URLs is part of another one. -/
  | part {short long : List Char} (inside : short <:+: long) : Shadows (.urlPart short) (.urlPart long)
  /-- A text that is looked for in URLs is part of one that they start with. -/
  | start {short long : List Char} (inside : short <:+: long) :
    Shadows (.urlPart short) (.urlStart long)
  /-- A text that URLs start with is the start of another one. -/
  | starts {short long : List Char} (ahead : short <+: long) :
    Shadows (.urlStart short) (.urlStart long)
  /-- The same is written in both. -/
  | same (k : Kind) : Shadows k k

/-- Whether a rule of some kind, kept in order behind some entries, is never the first to match. -/
inductive Kind.IsDead (front : List Entry) (k : Kind) : Prop where
  /-- It stands in the shadow of one of them. -/
  | shadowed {earlier : Entry} (found : earlier ∈ front) (ordered : earlier.place = .ordered)
    (shadow : earlier.rule.kind.Shadows k)
  /-- Its expression cannot be read. -/
  | unreadable {e : Expression} (own : k = .expression e) (invalid : e.isValid = false)

/-- What stands in the shadow of a rule matches nothing else. -/
theorem Kind.Shadows.fits {k other : Kind} (h : k.Shadows other) {t : Target}
    (hits : other.fits t = true) : k.fits t = true := by
  cases h with
  | part inside =>
    have found := Text.isIn_iff.1 hits
    exact Text.isIn_iff.2 (inside.trans found)
  | start inside =>
    have first := List.isPrefixOf_iff_prefix.1 hits
    exact Text.isIn_iff.2 (inside.trans first.isInfix)
  | starts ahead =>
    have first := List.isPrefixOf_iff_prefix.1 hits
    exact List.isPrefixOf_iff_prefix.2 (ahead.trans first)
  | same => exact hits

/-- A rule that is dead is not the first in order that matches. -/
theorem Kind.IsDead.not_isFirstFor {front : List Entry} {e : Entry}
    (dead : e.rule.kind.IsDead front) (t : Target) : ¬IsFirstFor t front e := by
  intro first
  have hits : e.rule.kind.fits t = true := first.hits
  cases dead with
  | shadowed found ordered shadow =>
    have misses : Kind.fits _ t = false := first.first _ found ordered
    rw [shadow.fits hits] at misses
    cases misses
  | unreadable own invalid =>
    rw [own, Kind.fits, Expression.isIn_of_not_isValid invalid] at hits
    cases hits

/-- An entry kept in order decides only where it is the first that matches. -/
theorem Decides.isFirstFor {front back : List Entry} {e : Entry} {t : Target}
    (decides : Decides front e back t) (ordered : e.place = .ordered) : IsFirstFor t front e := by
  cases decides with
  | host last =>
    have indexed := last.place
    rw [ordered] at indexed
    cases indexed
  | root noHost last =>
    have indexed := last.place
    rw [ordered] at indexed
    cases indexed
  | order noHost noRoot first => exact first

end Detour.Rule

namespace Detour.Reading

open Rule (Entry entries readLine)

/-- A line that is kept in order can be deleted from a list if what it compares stands in the shadow of an
earlier line, if an earlier line compares the same, or if it is an expression that cannot be read. No
query is answered otherwise. It does not matter which of the lines make exceptions. -/
theorem isBlocked_of_isDead {line list longer : List Char} {place : Nat} {e : Entry}
    (inserted : InsertsLine line place list longer) (read : readLine line = some e)
    (ordered : e.place = .ordered)
    (dead : e.rule.kind.IsDead (entries ((Text.lines list).take place))) (query : List Char) :
    (RuleSet.ofText list).isBlocked query = (RuleSet.ofText longer).isBlocked query := by
  have shorter : entries (Text.lines list) =
      entries ((Text.lines list).take place) ++ entries ((Text.lines list).drop place) := by
    rw [← Rule.entries_append, List.take_append_drop]
  have whole : entries (Text.lines longer) =
      entries ((Text.lines list).take place) ++ e :: entries ((Text.lines list).drop place) := by
    rw [inserted, Rule.entries_middle read]
  have same (t : Target) : (RuleSet.ofText longer).blocks t = (RuleSet.ofText list).blocks t := by
    rw [RuleSet.ofText_eq_ofEntries, RuleSet.ofText_eq_ofEntries, shorter, whole]
    exact RuleSet.blocks_of_not_decides fun decides =>
      dead.not_isFirstFor t (decides.isFirstFor ordered)
  have sets : (RuleSet.ofText longer).blocks = (RuleSet.ofText list).blocks := funext same
  rw [RuleSet.isBlocked, RuleSet.isBlocked, sets]

/-- An exception behind a rule with part of its text does not exempt anything. -/
theorem isBlocked_behind_part_of_text :
    InsertsLine "@@|git://a/b".toList 1 "/a\n||c".toList "/a\n@@|git://a/b\n||c".toList ∧
      (RuleSet.ofText "/a\n||c".toList).isBlocked "git://a/b".toList = true ∧
      (RuleSet.ofText "/a\n@@|git://a/b\n||c".toList).isBlocked "git://a/b".toList = true := by
  have inserted : InsertsLine "@@|git://a/b".toList 1 "/a\n||c".toList
      "/a\n@@|git://a/b\n||c".toList := by
    unfold InsertsLine
    decide
  have read : readLine "@@|git://a/b".toList =
      some ⟨⟨.urlStart "git://a/b".toList, true⟩, .ordered⟩ := by
    decide
  have inside : "/a".toList <:+: "git://a/b".toList := ⟨"git:/".toList, "/b".toList, by decide⟩
  have first : (⟨⟨.urlPart "/a".toList, false⟩, .ordered⟩ : Entry) ∈
      entries ((Text.lines "/a\n||c".toList).take 1) := by
    decide
  have blocked : (RuleSet.ofText "/a\n||c".toList).isBlocked "git://a/b".toList = true := by decide
  have same := isBlocked_of_isDead inserted read rfl (.shadowed first rfl (.start inside))
  exact ⟨inserted, blocked, (same "git://a/b".toList).symm.trans blocked⟩

end Detour.Reading
