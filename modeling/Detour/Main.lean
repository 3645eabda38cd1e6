import Detour.Schedule
import Detour.Session
/-!
# The command line

The program answers the queries on its standard input, as a session does, and writes events and reports
to the standard error. The environment names the settings file, the filter of the events and the
directories of the user. This module only reads and writes. Downloads are not made and count as failed,
no page is served for metrics, and an interruption is left to the system, which ends the program.
-/

namespace Detour.CommandLine

/-- What a failed access to a file amounts to. -/
def faultOf : IO.Error → File.Fault
  | .noFileOrDirectory .. => .notFound
  | .permissionDenied .. => .denied
  | .inappropriateType _ code _ => if code = 20 then .notDirectory else .isDirectory
  | e => .other (toString e)

/-- The bytes of a file. -/
def readFile (p : File.Path) : IO (Except File.Fault (List UInt8)) := do
  if '\x00' ∈ p then return .error .nullInName
  try
    let bytes ← IO.FS.readBinFile (String.ofList p)
    return .ok bytes.toList
  catch e => return .error (faultOf e)

/-- The value of a variable in the environment. -/
def environment? (name : String) : IO (Option (List Char)) := do
  return (← IO.getEnv name).map String.toList

/-- A session that several tasks share, and the filter of its events. -/
structure Shared where
  /-- The session. -/
  session : IO.Ref Session
  /-- The filter of its events. -/
  filter : Event.Filter

/-- Write the events that have not been written yet. -/
def Shared.writeLog (shared : Shared) : IO Unit := do
  let events ← shared.session.modifyGet Session.takeLog
  for e in events.filter shared.filter.admits do
    IO.eprintln e.line

/-- Note an event and write it. -/
def Shared.note (shared : Shared) (e : Event) : IO Unit := do
  shared.session.modify (·.note e)
  shared.writeLog

/-- Read the list again. -/
def Shared.reload (shared : Shared) : IO Unit := do
  let read ← readFile (← shared.session.get).refresher.source.path
  shared.session.modify (·.reload read)
  shared.writeLog

/-- The longest time to wait without looking at the clock, in milliseconds. -/
def longestWait : Nat := 50

/-- Read the list again whenever the schedule says so, until the task is cancelled. -/
partial def Shared.reloadBy (shared : Shared) (schedule : Schedule) : IO Unit := do
  if ← IO.checkCanceled then return
  let now ← IO.monoMsNow
  if schedule.countAt now = 0 then
    IO.sleep (UInt32.ofNat (min (schedule.due - now) longestWait))
    shared.reloadBy schedule
  else
    shared.reload
    shared.reloadBy (schedule.jumpTo now)

/-- Read a line without its line feed; none at the end of the input. The bytes read so far come last
one first. -/
partial def readLine (input : IO.FS.Stream) (reversed : List UInt8) :
    IO (Option (List UInt8)) := do
  match (← input.read 1).toList with
  | [] => return if reversed.isEmpty then none else some reversed.reverse
  | 10 :: _ => return some reversed.reverse
  | byte :: _ => readLine input (byte :: reversed)

/-- Answer the lines of the input. -/
partial def Shared.answer (shared : Shared) (input output : IO.FS.Stream) : IO Unit := do
  match ← readLine input [] with
  | none => return
  | some line =>
    let reply ← shared.session.modifyGet fun s =>
      match s.answerLine line with
      | some (text, s) => (some text, s)
      | none => (none, s)
    shared.writeLog
    match reply with
    | none => shared.note Session.brokenLine
    | some text =>
      output.putStr (String.ofList text)
      output.flush
      shared.answer input output

/-- Answer the input until it ends, while the list is read again on schedule. -/
def Shared.serve (shared : Shared) (refreshSeconds : Option Nat) : IO Unit := do
  let reloading ← refreshSeconds.mapM fun seconds => do
    let schedule := Schedule.start (← IO.monoMsNow) (1000 * seconds)
    IO.asTask (shared.reloadBy schedule) Task.Priority.dedicated
  shared.answer (← IO.getStdin) (← IO.getStdout)
  for task in reloading do
    IO.cancel task
  shared.note Session.farewell

/-- Report why there is no session. -/
def fail (fault : Session.Fault) : IO UInt32 := do
  IO.eprintln ("Error: " ++ fault.report)
  return 1

/-- Run a session in the environment of the program. -/
def run : IO UInt32 := do
  let filter := Event.Filter.ofText ((← environment? "RUST_LOG").getD [])
  let path := (← environment? "CONFIG_PATH").getD Session.usualSettings
  let usualCache := Settings.usualCache (← environment? "XDG_CACHE_HOME") (← environment? "HOME")
  match Settings.ofFile (← readFile path) with
  | .error fault => fail (.settings fault)
  | .ok settings =>
    match Session.ofSettings settings usualCache with
    | .error fault => fail fault
    | .ok s =>
      let (outcome, s) := s.load (← readFile s.refresher.source.path)
      let shared : Shared := ⟨← IO.mkRef s, filter⟩
      shared.writeLog
      match outcome with
      | .error fault => fail fault
      | .ok _ =>
        shared.serve settings.refreshSeconds
        return 0

end Detour.CommandLine

/-- Answer queries. -/
def main : IO UInt32 := Detour.CommandLine.run
