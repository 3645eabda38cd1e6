import Detour.Proofs.Feed.Joined
import Detour.Proofs.Refresher.Run
import Detour.Settings.Read
/-!
# Rules of the settings

The rules of the settings follow those of the list, each as one line. Main statement: a refresh installs
what a list would make that has these rules as further lines. A rule with a line feed between other
characters than blanks is an exception, since it stays one line, and a list has no such line.
-/

namespace Detour.Refresher

/-- The rules that files hold for a refresher are those of the lines of its list and of the rules of its
own. -/
theorem listIn_of_decode {r : Refresher} {files : File.Tree} {payload : List UInt8}
    {text : List Char} (read : files.read r.source.path = .ok payload)
    (decoded : Payload.decode r.encoding payload = .ok text) :
    r.listIn files = some (Feed.empty.lines (Text.lines text ++ r.extraRules)).ruleSet := by
  rw [Feed.lines_append, listIn, read]
  dsimp only
  rw [decoded]
  rfl

/-- A refresh installs the rules of the lines of the list followed by one line for each rule of the
settings. These are the rules of the list with the rules of the settings put behind it, each on a line
of its own, if no rule of the settings has a line feed between other characters than blanks. -/
theorem refresh_with_extra_rules {settings : Settings} {usual : File.Path} {files : File.Tree}
    {payload : List UInt8} {text : List Char} (store : Store)
    (read : files.read (settings.source usual).path = .ok payload)
    (decoded : Payload.decode settings.encoding payload = .ok text) :
    let r : Refresher := { ofSettings settings usual with store := store }
    (r.refresh files).1 = .ok () ∧
      (r.refresh files).2.store.active =
        (Feed.empty.lines (Text.lines text ++ settings.rules)).ruleSet ∧
      ((∀ rule ∈ settings.rules, '\n' ∉ Text.trim rule) →
        (r.refresh files).2.store.active =
          RuleSet.ofText (text ++ '\n' :: Text.joinWith '\n' settings.rules)) := by
  intro r
  have list : r.listIn files =
      some (Feed.empty.lines (Text.lines text ++ settings.rules)).ruleSet :=
    listIn_of_decode read decoded
  obtain ⟨rules, installed, held, refreshed, active⟩ | ⟨fault, left, none, -⟩ :=
    refresh_cases r files
  · rw [list, Option.some.injEq] at held
    refine ⟨by rw [refreshed], ?_, ?_⟩
    · rw [refreshed, held]
      exact active
    · intro single
      have entries : Rule.entries (Text.lines text ++ settings.rules) =
          Rule.entries (Text.lines (text ++ '\n' :: Text.joinWith '\n' settings.rules)) := by
        rw [Rule.entries_append, Rule.entries_lines_append, Rule.entries_lines_joinWith single]
      rw [refreshed, RuleSet.ofText, Feed.text, ← Feed.ruleSet_lines_of_entries entries, held]
      exact active
  · rw [list] at none
    cases none

/-- A directory with one empty file. -/
def oneFile : File.Tree := ⟨.directory 0o755 [(['p'], .file 0o644 [])], [], false⟩

/-- Rules with line feeds at their ends. -/
def withFeeds : Settings :=
  ⟨.file ['p'], .plain, ["\n||a\n".toList, "@@.a\r".toList], none, 30, none, .standard⟩

/-- Rules with line feeds at their ends stand on lines of their own. -/
theorem refresh_with_feeds_at_ends :
    oneFile.read ['p'] = .ok [] ∧ Payload.decode .plain [] = .ok [] ∧
      (∀ rule ∈ withFeeds.rules, '\n' ∉ Text.trim rule) ∧
      ((ofSettings withFeeds []).refresh oneFile).2.store.active =
        RuleSet.ofText "\n\n||a\n\n@@.a\r".toList := by
  have read : oneFile.read (withFeeds.source []).path = .ok [] := by decide +kernel
  have decoded : Payload.decode withFeeds.encoding [] = .ok [] := rfl
  have single : ∀ rule ∈ withFeeds.rules, '\n' ∉ Text.trim rule := by decide
  exact ⟨read, decoded, single, (refresh_with_extra_rules .empty read decoded).2.2 single⟩

/-- A rule of two lines. -/
def ofTwoLines : Settings :=
  ⟨.file ['p'], .plain, ["||a\n||b".toList], none, 30, none, .standard⟩

/-- A rule of two lines, which settings may hold, is not the same as two lines of a list. -/
theorem refresh_with_rule_of_two_lines :
    (Settings.ofText
      "rules=['''||a\n||b''']\n[source]\ntype='file'\npath='p'\nencoding='plain'".toList).toOption =
        some ofTwoLines ∧
      oneFile.read (ofTwoLines.source []).path = .ok [] ∧
      Payload.decode ofTwoLines.encoding [] = .ok [] ∧
      ((ofSettings ofTwoLines []).refresh oneFile).2.store.active ≠
        RuleSet.ofText "\n||a\n||b".toList := by
  refine ⟨by decide +kernel, by decide +kernel, rfl, ?_⟩
  intro same
  have found : ((ofSettings ofTwoLines []).refresh oneFile).2.store.active.lookup ['b'] =
      (RuleSet.ofText "\n||a\n||b".toList).lookup ['b'] := congrArg (·.lookup ['b']) same
  have none : ((ofSettings ofTwoLines []).refresh oneFile).2.store.active.lookup ['b'] = none := by
    decide +kernel
  have some : (RuleSet.ofText "\n||a\n||b".toList).lookup ['b'] =
      some ⟨.hostPart ['b'], false⟩ := by
    decide +kernel
  rw [none, some] at found
  cases found

end Detour.Refresher
