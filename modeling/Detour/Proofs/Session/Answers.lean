import Detour.Proofs.Refresher.Run
import Detour.Proofs.Text.Blank
import Detour.Proofs.Text.Line
import Detour.Proofs.Text.Utf8
import Detour.Session
/-!
# The answers of a session

A session answers the lines of its input one after another, leaves out the blank ones, and stops at the
first one that is no text. Main statement: what it writes is one line for each query in these lines, in
order, with what the rules that were loaded say about it, and nothing if no rules were loaded. So the
queries and their answers can be read back from what it writes.
-/

namespace Detour.Refresher

/-- The rules of a list in bytes, followed by the rules of the refresher's own. -/
def listOf (r : Refresher) (payload : List UInt8) : Option RuleSet :=
  match Payload.decode r.encoding payload with
  | .error _ => none
  | .ok text => some (r.extraRules.foldl Feed.line (Feed.empty.text text)).ruleSet

/-- The rules that are there for a refresher: those of a remote list that was downloaded, and else those
that files hold. -/
def listFrom (r : Refresher) (download : Option Source.Download) (files : File.Tree) :
    Option RuleSet :=
  match r.source, download with
  | .remote _ _, some d => r.listOf d.payload
  | _, _ => r.listIn files

/-- What a refresh can do with what it is given: install it, or say why it cannot. -/
def Installs (r : Refresher) (rules : Option RuleSet)
    (result : Except Source.Fault Unit × Refresher) : Prop :=
  match rules with
  | some rules => ∃ store : Store, store.active = rules ∧ result = (.ok (), { r with store := store })
  | none => ∃ fault store, result = (.error fault, { r with store := store })

/-- A refresh from what was downloaded installs it if it can be decoded. -/
theorem installs_refreshFrom (r : Refresher) (url : List Char) (cache : File.Path)
    (d : Source.Download) : r.Installs (r.listOf d.payload) (r.refreshFrom url cache d) := by
  unfold listOf refreshFrom feed
  cases Payload.decode r.encoding d.payload with
  | error fault => exact ⟨_, _, rfl⟩
  | ok text => exact ⟨_, rfl, rfl⟩

/-- A refresh from files installs what they hold. -/
theorem installs_refresh (r : Refresher) (files : File.Tree) :
    r.Installs (r.listIn files) (r.refresh files) := by
  rcases refresh_cases r files with ⟨rules, store, list, refreshed, active⟩ |
    ⟨fault, store, list, refreshed, -⟩
  · rw [list]
    exact ⟨store, active, refreshed⟩
  · rw [list]
    exact ⟨fault, store, refreshed⟩

/-- A refresh installs the rules that are there. -/
theorem installs_refreshOnline (r : Refresher) (download : Option Source.Download)
    (files : File.Tree) :
    r.Installs (r.listFrom download files)
      (r.refreshOnline download (files.read r.source.path)) := by
  obtain ⟨source, encoding, extraRules, store⟩ := r
  cases source with
  | file path => exact installs_refresh _ files
  | remote url cache =>
    cases download with
    | none => exact installs_refresh _ files
    | some d => exact installs_refreshFrom _ url cache d

end Detour.Refresher

namespace Detour.Session

/-- The texts of the lines in front of the first one that is no text. -/
def texts (lines : List (List UInt8)) : List (List Char) :=
  ((lines.map Text.Utf8.decode).takeWhile (·.isOk)).filterMap (·.toOption)

/-- The queries in lines: the trimmed texts that are not empty. -/
def queriesIn (lines : List (List UInt8)) : List (List Char) :=
  ((texts lines).map Text.trim).filter (!·.isEmpty)

/-- The rules of a session. -/
def rules (s : Session) : RuleSet := s.refresher.store.active

/-- Answering a query changes no rules. -/
theorem rules_answer (s : Session) (query : List Char) : (s.answer query).2.rules = s.rules :=
  Store.active_query s.refresher.store query

/-- The answer to a query is what the rules say. -/
theorem fst_answer (s : Session) (query : List Char) :
    (s.answer query).1 = answerText (s.rules.isBlocked query) query := rfl

/-- A line that is a text is answered by the rules if it holds a query, and changes none. -/
theorem answerLine_of_decode {s : Session} {line : List UInt8} {text : List Char}
    (h : Text.Utf8.decode line = .ok text) :
    ∃ next, s.answerLine line = some
        (([Text.trim text].filter (!·.isEmpty)).flatMap fun q => answerText (s.rules.isBlocked q) q,
          next) ∧ next.rules = s.rules := by
  unfold answerLine
  rw [h]
  dsimp only
  cases blank : (Text.trim text).isEmpty with
  | true => exact ⟨s, by simp [blank], rfl⟩
  | false => exact ⟨(s.answer (Text.trim text)).2, by simp [blank, ← fst_answer], s.rules_answer _⟩

/-- A line that is a text comes first in a list of lines. -/
theorem queriesIn_cons_of_decode {line : List UInt8} {text : List Char} (lines : List (List UInt8))
    (h : Text.Utf8.decode line = .ok text) :
    queriesIn (line :: lines) = [Text.trim text].filter (!·.isEmpty) ++ queriesIn lines := by
  have first : texts (line :: lines) = text :: texts lines := by
    simp [texts, h, Except.isOk, Except.toBool, Except.toOption]
  rw [queriesIn, first, List.map_cons, ← List.singleton_append, List.filter_append]
  rfl

/-- Lines are answered up to the first one that is no text, each query by the same rules. -/
theorem fst_answerLines (s : Session) (lines : List (List UInt8)) :
    (s.answerLines lines).1 =
      (queriesIn lines).flatMap fun q => answerText (s.rules.isBlocked q) q := by
  induction lines generalizing s with
  | nil => rfl
  | cons line rest ih =>
    cases read : Text.Utf8.decode line with
    -- What follows is not read, whatever it is.
    | error fault =>
      have broken : s.answerLine line = none := by rw [answerLine, read]
      have none : queriesIn (line :: rest) = [] := by
        simp [queriesIn, texts, read, Except.isOk, Except.toBool]
      rw [answerLines, broken, none]
      rfl
    | ok text =>
      obtain ⟨next, answered, same⟩ := answerLine_of_decode (s := s) read
      rw [answerLines, answered, queriesIn_cons_of_decode rest read, List.flatMap_append, ← same,
        ← ih next]

/-- What the answers to an input are. -/
theorem fst_serve (s : Session) (input : List UInt8) :
    (s.serve input false).1 =
      (queriesIn (Text.byteLines input)).flatMap fun q => answerText (s.rules.isBlocked q) q :=
  s.fst_answerLines (Text.byteLines input)

/-- What an outcome leaves is what it came to. -/
theorem eq_ok_of_toOption {ε α : Type} {outcome : Except ε α} {a : α}
    (h : outcome.toOption = some a) : outcome = .ok a := by
  cases outcome with
  | error fault => cases h
  | ok other =>
    cases h
    rfl

/-- A query is what a line reads as, without the blanks around it. -/
theorem exists_decode_of_mem_queriesIn {lines : List (List UInt8)} {q : List Char}
    (h : q ∈ queriesIn lines) :
    ∃ line ∈ lines, ∃ text, Text.Utf8.decode line = .ok text ∧ Text.trim text = q := by
  obtain ⟨text, kept, rfl⟩ := List.mem_map.1 (List.mem_filter.1 h).1
  obtain ⟨read, front, good⟩ := List.mem_filterMap.1 kept
  obtain ⟨line, found, rfl⟩ := List.mem_map.1 ((List.takeWhile_prefix _).subset front)
  exact ⟨line, found, text, eq_ok_of_toOption good, rfl⟩

/-- A query in the lines of an input holds no line feed. -/
theorem not_mem_of_mem_queriesIn {input : List UInt8} {q : List Char}
    (h : q ∈ queriesIn (Text.byteLines input)) : '\n' ∉ q := by
  intro inside
  obtain ⟨line, found, text, decoded, rfl⟩ := exists_decode_of_mem_queriesIn h
  have written : line = Text.Utf8.encode text := Text.Utf8.decode_eq_ok_iff.1 decoded
  -- The line would hold the byte of the line feed, at which it was cut.
  have feed : (10 : UInt8) ∈ Text.Utf8.encodeChar '\n' := List.mem_singleton.2 rfl
  refine (Text.cut_linesOf 10 13 input).not_mem line found ?_
  rw [written]
  exact List.mem_flatMap.2 ⟨'\n', Text.mem_of_mem_trim inside, feed⟩

/-- A query is some text, and does not end with a carriage return. -/
theorem ends_of_mem_queriesIn {lines : List (List UInt8)} {q : List Char} (h : q ∈ queriesIn lines) :
    q ≠ [] ∧ q.getLast? ≠ some '\r' := by
  obtain ⟨line, -, text, -, rfl⟩ := exists_decode_of_mem_queriesIn h
  refine ⟨by simpa using (List.mem_filter.1 h).2, fun ends => ?_⟩
  have blank : Text.isBlank '\r' = false := Text.isBlank_of_getLast?_trim _ ends
  exact absurd blank (by decide)

/-- The word that answers a query. -/
def verdict (blocked : Bool) : List Char := if blocked then "blocked".toList else "direct".toList

/-- The line that answers a query, without its line feed. -/
def answerLineOf (blocked : Bool) (query : List Char) : List Char := verdict blocked ++ '\t' :: query

/-- Whether a line says that its query is blocked, and the query. -/
def readAnswer (line : List Char) : Bool × List Char :=
  (line.takeWhile (· ≠ '\t') = verdict true, (line.dropWhile (· ≠ '\t')).drop 1)

/-- An answer is read back. -/
theorem readAnswer_answerLineOf (blocked : Bool) (query : List Char) :
    readAnswer (answerLineOf blocked query) = (blocked, query) := by
  cases blocked <;> rfl

/-- The answers to the queries of an input are lines that each hold one of them. -/
theorem lines_answers (blocked : List Char → Bool) (input : List UInt8) :
    Text.lines ((queriesIn (Text.byteLines input)).flatMap fun q => answerText (blocked q) q) =
      (queriesIn (Text.byteLines input)).map fun q => answerLineOf (blocked q) q := by
  have feeds : ((queriesIn (Text.byteLines input)).flatMap fun q => answerText (blocked q) q) =
      ((queriesIn (Text.byteLines input)).map fun q => answerLineOf (blocked q) q).flatMap
        (· ++ ['\n']) := by
    rw [List.flatMap_map]
    rfl
  rw [feeds]
  refine Text.lines_of_feeds ?_ ?_
  · intro line found
    obtain ⟨q, asked, rfl⟩ := List.mem_map.1 found
    have other : '\n' ∉ verdict (blocked q) := by
      cases blocked q <;> decide
    simp [answerLineOf, other, not_mem_of_mem_queriesIn asked]
  · intro line found
    obtain ⟨q, asked, rfl⟩ := List.mem_map.1 found
    obtain ⟨some, ends⟩ := ends_of_mem_queriesIn asked
    -- The line ends as its query does, since the query is not empty.
    obtain ⟨c, rest, rfl⟩ := List.exists_cons_of_ne_nil some
    have last : (answerLineOf (blocked (c :: rest)) (c :: rest)).getLast? = (c :: rest).getLast? := by
      rw [answerLineOf, List.getLast?_append, List.getLast?_cons_cons]
      simp [List.getLast?_cons]
    rw [last]
    exact ends

/-- Loading the list gives a session with the rules that are there, or says why there are none. -/
theorem loadOnline_cases (s : Session) (download : Option Source.Download) (t : File.Tree) :
    match s.refresher.listFrom download t with
    | some rules => ∃ ready, ready.rules = rules ∧
        s.loadOnline download (t.read s.refresher.source.path) = (.ok (), ready)
    | none => ∃ fault failed,
        s.loadOnline download (t.read s.refresher.source.path) = (.error (.list fault), failed) := by
  have installs := s.refresher.installs_refreshOnline download t
  unfold Refresher.Installs at installs
  unfold loadOnline
  cases list : s.refresher.listFrom download t with
  | some rules =>
    rw [list] at installs
    obtain ⟨store, active, refreshed⟩ := installs
    rw [refreshed]
    refine ⟨_, ?_, rfl⟩
    exact active
  | none =>
    rw [list] at installs
    obtain ⟨fault, store, refreshed⟩ := installs
    rw [refreshed]
    exact ⟨fault, _, rfl⟩

/-- Settings without metrics give a session with the refresher that they describe. -/
theorem ofSettings_of_disabled {settings : Settings} (disabled : settings.metrics.enabled = false)
    (usual : File.Path) :
    ∃ store, ofSettings settings usual =
      .ok ⟨settings, { Refresher.ofSettings settings usual with store := store }⟩ := by
  have free : metricsFault? settings.metrics = none := by
    rw [metricsFault?, disabled]
    rfl
  rw [ofSettings, free]
  exact ⟨_, rfl⟩

/-- What a session without metrics comes to that loads its list once. -/
theorem runOnline_cases {t : File.Tree} {settingsPath : File.Path} {settings : Settings}
    (accepted : Settings.ofFile (t.read settingsPath) = .ok settings)
    (disabled : settings.metrics.enabled = false) (usual : File.Path)
    (download : Option Source.Download) (input : List UInt8) :
    match (Refresher.ofSettings settings usual).listFrom download t with
    | some rules => ∃ log, runOnline download t settingsPath usual input false =
        ⟨(queriesIn (Text.byteLines input)).flatMap fun q => answerText (rules.isBlocked q) q,
          none, log⟩
    | none => ∃ fault log, runOnline download t settingsPath usual input false =
        ⟨[], some fault, log⟩ := by
  obtain ⟨store, started⟩ := ofSettings_of_disabled disabled usual
  have loads := loadOnline_cases
    ⟨settings, { Refresher.ofSettings settings usual with store := store }⟩ download t
  -- What was noted at the start makes no difference to what is loaded.
  have same : ({ Refresher.ofSettings settings usual with store := store } : Refresher).listFrom
      download t = (Refresher.ofSettings settings usual).listFrom download t := rfl
  dsimp only at loads
  rw [same] at loads
  rw [runOnline, accepted]
  dsimp only
  rw [started]
  dsimp only
  cases list : (Refresher.ofSettings settings usual).listFrom download t with
  | some rules =>
    rw [list] at loads
    obtain ⟨ready, active, loaded⟩ := loads
    rw [loaded, ← active]
    dsimp only
    rw [fst_serve]
    exact ⟨_, rfl⟩
  | none =>
    rw [list] at loads
    obtain ⟨fault, failed, loaded⟩ := loads
    rw [loaded]
    exact ⟨_, _, rfl⟩

/-- A session without metrics that loads its list once answers every query once and in order. The lines
of its input end at line feeds, each of which may have one carriage return in front, and the last one
may have none. If there is a list, each line in front of the first one that is no text is answered by
what the rules say about its trimmed text, unless that is empty; each answer is a line of its
own, from which the query can be read back. If there is none, nothing is answered. -/
theorem output_of_settings {t : File.Tree} {settingsPath : File.Path} {settings : Settings}
    (accepted : Settings.ofFile (t.read settingsPath) = .ok settings)
    (disabled : settings.metrics.enabled = false) (usual : File.Path)
    (download : Option Source.Download) (input : List UInt8) :
    let outcome := runOnline download t settingsPath usual input false
    let lines := Text.byteLines input
    Text.Cut 10 13 input lines ∧
      match (Refresher.ofSettings settings usual).listFrom download t with
      | none => outcome.fault.isSome ∧ outcome.output = []
      | some rules =>
        outcome.fault = none ∧
          outcome.output =
            (queriesIn lines).flatMap (fun q => verdict (rules.isBlocked q) ++ '\t' :: q ++ ['\n']) ∧
          (Text.lines outcome.output).map readAnswer =
            (queriesIn lines).map fun q => (rules.isBlocked q, q) := by
  intro outcome lines
  refine ⟨Text.cut_linesOf 10 13 input, ?_⟩
  have ran := runOnline_cases accepted disabled usual download input
  cases list : (Refresher.ofSettings settings usual).listFrom download t with
  | some rules =>
    rw [list] at ran
    obtain ⟨log, answered⟩ := ran
    have output : outcome.output =
        (queriesIn lines).flatMap fun q => answerText (rules.isBlocked q) q :=
      congrArg Outcome.output answered
    refine ⟨congrArg Outcome.fault answered, output, ?_⟩
    rw [output, lines_answers, List.map_map]
    exact List.map_congr_left fun q _ => readAnswer_answerLineOf _ q
  | none =>
    rw [list] at ran
    obtain ⟨fault, log, stopped⟩ := ran
    have failed : outcome.fault = some fault := congrArg Outcome.fault stopped
    refine ⟨?_, congrArg Outcome.output stopped⟩
    rw [failed]
    rfl

/-- Settings that name a list. -/
def namingList : List Char := "[source]\ntype='file'\npath='l'\nencoding='plain'".toList

/-- A directory with settings and the list that they name. -/
def settingsAndList : File.Tree :=
  ⟨.directory 0o755 [(['l'], .file 0o644 (Text.Utf8.encode "||a.b".toList)),
    (['s'], .file 0o644 (Text.Utf8.encode namingList))], [], false⟩

/-- The settings that name the list. -/
def ofNamingList : Settings := ⟨.file ['l'], .plain, [], none, 30, none, .standard⟩

/-- A query with a carriage return behind it, a blank line, another query, a line that is no text, and
a query behind it. -/
def mixedInput : List UInt8 :=
  Text.Utf8.encode "a.b\r\n \n c\n".toList ++ 0xff :: Text.Utf8.encode "\na.b".toList

/-- Two queries are answered, and none behind the line that is no text. -/
theorem output_of_mixedInput :
    Settings.ofFile (settingsAndList.read ['s']) = .ok ofNamingList ∧
      ofNamingList.metrics.enabled = false ∧
      ((Refresher.ofSettings ofNamingList []).listFrom none settingsAndList).isSome ∧
      (runOnline none settingsAndList ['s'] [] mixedInput false).output =
        "blocked\ta.b\ndirect\tc\n".toList := by
  have accepted : Settings.ofFile (settingsAndList.read ['s']) = .ok ofNamingList :=
    eq_ok_of_toOption (by decide +kernel)
  have queries : queriesIn (Text.byteLines mixedInput) = ["a.b".toList, ['c']] := by
    decide +kernel
  have verdicts : ((Refresher.ofSettings ofNamingList []).listFrom none settingsAndList).map
      (fun rules => (rules.isBlocked "a.b".toList, rules.isBlocked ['c'])) = some (true, false) := by
    decide +kernel
  obtain ⟨-, answers⟩ := output_of_settings accepted rfl [] none mixedInput
  cases list : (Refresher.ofSettings ofNamingList []).listFrom none settingsAndList with
  | none =>
    rw [list] at verdicts
    cases verdicts
  | some rules =>
    rw [list, Option.map_some, Option.some.injEq, Prod.mk.injEq] at verdicts
    rw [list, queries] at answers
    refine ⟨accepted, rfl, rfl, answers.2.1.trans ?_⟩
    simp only [List.flatMap_cons, List.flatMap_nil, verdicts]
    rfl

end Detour.Session
