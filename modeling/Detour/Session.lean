import Detour.Event.Filter
import Detour.Refresher
import Detour.Settings.Read
/-!
# Sessions

A session takes its settings from a file, loads the rule list, and then answers the queries on its input,
one in each line, until the input ends, a line is no text, or it is interrupted. Main statement: a
session that could not be started answers nothing.
-/

namespace Detour

/-- Settings and what refreshes the rules by them. -/
structure Session where
  /-- The settings. -/
  settings : Settings
  /-- What refreshes the rules. -/
  refresher : Refresher

namespace Session

/-- Why a session could not be started. -/
inductive Fault where
  /-- There are no settings. -/
  | settings (fault : Settings.ReadFault)
  /-- The metrics cannot be served. -/
  | metrics (complaint : String)
  /-- The rule list could not be loaded. -/
  | list (fault : Source.Fault)
  deriving Repr

/-- The wording of a fault. -/
def Fault.message : Fault → String
  | .settings _ => "Failed to load configuration"
  | .metrics _ => "Failed to initialize metrics"
  | .list _ => "Failed to load rule list"

/-- What is behind a fault, outermost first. -/
def Fault.causes : Fault → List String
  | .settings fault => ["configuration error: " ++ fault.message, fault.message, fault.cause]
  | .metrics complaint => ["metrics error: failed to create HTTP listener: " ++ complaint]
  | .list fault => fault.message :: fault.causes

/-- A fault with what is behind it. Several causes are numbered. -/
def Fault.report (fault : Fault) : String :=
  let numbered (cause : String × Nat) : String := "\n    " ++ toString cause.2 ++ ": " ++ cause.1
  match fault.causes with
  | [] => fault.message
  | [cause] => fault.message ++ "\n\nCaused by:\n    " ++ cause
  | causes => fault.message ++ "\n\nCaused by:" ++ String.join (causes.zipIdx.map numbered)

/-- Something that a user may want to know. -/
def info (message : String) : Event := .session .info message

/-- Note what happens. -/
def note (s : Session) (e : Event) : Session :=
  { s with refresher.store := s.refresher.store.note e }

/-- What happened, first event first. -/
def log (s : Session) : List Event := s.refresher.store.log.reverse

/-- What happened, and the session with nothing noted. -/
def takeLog (s : Session) : List Event × Session :=
  (s.log, { s with refresher.store := { s.refresher.store with log := [] } })

/-- The file where settings are found if nothing else is said. -/
def usualSettings : File.Path := "config.toml".toList

/-- What is said about a place. -/
def placeText : Place → String
  | .file path => "file " ++ String.ofList path
  | .remote url => String.ofList url

/-- What is said about settings before the list is loaded. -/
def openingEvents (s : Settings) : List Event :=
  (if s.metrics.enabled then
      [info ("Metrics enabled on " ++ String.ofList s.metrics.listen.text)] else []) ++
    [info ("List source: " ++ placeText s.place),
      info ("Inline rules: " ++ toString s.rules.length)]

/-- Why the metrics cannot be served, if they are to be served. -/
def metricsFault? (m : MetricsSettings) : Option Fault :=
  if m.enabled && m.listen.isGroup then some (.metrics "Invalid argument (os error 22)") else none

/-- A session with settings, before the list is loaded. Copies of downloads are in the usual
directory unless the settings name another one. -/
def ofSettings (settings : Settings) (usualCache : File.Path) : Except Fault Session :=
  match metricsFault? settings.metrics with
  | some fault => .error fault
  | none =>
    let r := Refresher.start (settings.source usualCache) settings.encoding settings.rules
    .ok ⟨settings, { r with store := r.store.noteAll (openingEvents settings) }⟩

/-- What is said once the list is loaded. -/
def readyEvents (s : Settings) (rules : Nat) : List Event :=
  info ("Rule list loaded with " ++ toString rules ++ " rules") ::
    (s.refreshSeconds.map fun n =>
      info ("Refreshing rule list every " ++ toString n ++ " seconds")).toList

/-- Load the list, given what a request for it brought, if it brought anything, and what reading the
source's path led to. -/
def loadOnline (s : Session) (download : Option Source.Download)
    (read : Except File.Fault (List UInt8)) : Except Fault Unit × Session :=
  let (outcome, r) := s.refresher.refreshOnline download read
  match outcome with
  | .error fault => (.error (.list fault), { s with refresher := r })
  | .ok _ =>
    let events := readyEvents s.settings r.store.active.size
    (.ok (), { s with refresher := { r with store := r.store.noteAll events } })

/-- Load the list without a request, given what reading the source's path led to. -/
def load (s : Session) (read : Except File.Fault (List UInt8)) : Except Fault Unit × Session :=
  s.loadOnline none read

/-- Load the list again, given what reading the source's path led to. -/
def reload (s : Session) (read : Except File.Fault (List UInt8)) : Session :=
  { s with refresher := (s.refresher.refreshWith read).2 }

/-- The line that answers a query. -/
def answerText (blocked : Bool) (query : List Char) : List Char :=
  (if blocked then "blocked".toList else "direct".toList) ++ '\t' :: query ++ ['\n']

/-- Answer a query. -/
def answer (s : Session) (query : List Char) : List Char × Session :=
  let (blocked, store) := s.refresher.store.query query
  (answerText blocked query, { s with refresher.store := store })

/-- Answer a line of the input. A blank line has no answer; none is given back for a line that is no
text. -/
def answerLine (s : Session) (line : List UInt8) : Option (List Char × Session) :=
  match Text.Utf8.decode line with
  | .error _ => none
  | .ok text =>
    let query := Text.trim text
    if query.isEmpty then some ([], s) else some (s.answer query)

/-- What is noted when a line is no text. -/
def brokenLine : Event :=
  .session .warn "Query loop stopped: Failed to read stdin: stream did not contain valid UTF-8"

/-- What is noted when the user interrupts. -/
def interruption : Event := info "Ctrl-C received, shutting down..."

/-- What is noted at the end. -/
def farewell : Event := info "Shutdown complete."

/-- Answer lines until one of them is no text. The answers are given back, and whether the end was
reached. -/
def answerLines (s : Session) : List (List UInt8) → List Char × Bool × Session
  | [] => ([], true, s)
  | line :: rest =>
    match s.answerLine line with
    | none => ([], false, s.note brokenLine)
    | some (output, s) =>
      let (more, finished, s) := answerLines s rest
      (output ++ more, finished, s)

/-- The lines of an input. If its end has not come, what follows the last line feed is no line yet. -/
def inputLines (input : List UInt8) (ended : Bool) : List (List UInt8) :=
  if ended then Text.byteLines input
  else Text.byteLines (input.reverse.dropWhile (· ≠ 10)).reverse

/-- Answer an input up to its end, or up to where the user interrupts. -/
def serve (s : Session) (input : List UInt8) (interrupted : Bool) : List Char × Session :=
  let (output, finished, s) := s.answerLines (inputLines input !interrupted)
  let s := if finished && interrupted then s.note interruption else s
  (output, s.note farewell)

/-- What has become of a session. -/
structure Outcome where
  /-- The answers. -/
  output : List Char
  /-- Why it could not be started. -/
  fault : Option Fault
  /-- What happened, first event first. -/
  log : List Event

/-- The number that tells the system whether all went well. -/
def Outcome.exitCode (o : Outcome) : Nat := if o.fault.isSome then 1 else 0

/-- A session from its start to its end, among files that stay as they are. The list is loaded once,
and `download` is what a request for it brought, if it brought anything. -/
def runOnline (download : Option Source.Download) (t : File.Tree) (settingsPath usualCache : File.Path)
    (input : List UInt8) (interrupted : Bool) : Outcome :=
  match Settings.ofFile (t.read settingsPath) with
  | .error fault => ⟨[], some (.settings fault), []⟩
  | .ok settings =>
    match ofSettings settings usualCache with
    | .error fault => ⟨[], some fault, []⟩
    | .ok s =>
      match s.loadOnline download (t.read s.refresher.source.path) with
      | (.error fault, s) => ⟨[], some fault, s.log⟩
      | (.ok _, s) =>
        let served := s.serve input interrupted
        ⟨served.1, none, served.2.log⟩

/-- A session without downloads from its start to its end, among files that stay as they are. -/
def run (t : File.Tree) (settingsPath usualCache : File.Path) (input : List UInt8)
    (interrupted : Bool) : Outcome :=
  runOnline none t settingsPath usualCache input interrupted

/-- A session starts or answers nothing. -/
theorem fault_runOnline_eq_none_or (download : Option Source.Download) (t : File.Tree)
    (settingsPath usualCache : File.Path) (input : List UInt8) (interrupted : Bool) :
    (runOnline download t settingsPath usualCache input interrupted).fault = none ∨
      (runOnline download t settingsPath usualCache input interrupted).output = [] := by
  unfold runOnline
  split
  · exact .inr rfl
  · split
    · exact .inr rfl
    · split
      · exact .inr rfl
      · exact .inl rfl

/-- A session that could not be started has answered nothing. -/
theorem output_runOnline_of_fault {download : Option Source.Download} {t : File.Tree}
    {settingsPath usualCache : File.Path} {input : List UInt8} {interrupted : Bool} {fault : Fault}
    (h : (runOnline download t settingsPath usualCache input interrupted).fault = some fault) :
    (runOnline download t settingsPath usualCache input interrupted).output = [] :=
  (fault_runOnline_eq_none_or download t settingsPath usualCache input interrupted).resolve_left
    (by simp [h])

end Session

end Detour
