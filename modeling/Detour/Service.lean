import Detour.Refresher
import Detour.Schedule
/-!
# Refreshing on schedules

A service refreshes its rules when a schedule says so. Its clock shows milliseconds and moves in two ways:
time passes evenly, so that nothing that falls due is missed, or the clock is set ahead. Main
statement: where no schedule runs, the rules stay as they are.
-/

namespace Detour

/-- A refresher with a clock and schedules. -/
structure Service where
  /-- What is refreshed. -/
  refresher : Refresher
  /-- The time. -/
  now : Nat
  /-- The schedule that was started last, as long as it has not been stopped. -/
  current : Option Schedule
  /-- The schedules that were started before it. They cannot be stopped. -/
  others : List Schedule

namespace Service

/-- A service that runs no schedule. -/
def start (r : Refresher) : Service := ⟨r, 0, none, []⟩

/-- All schedules that run. -/
def schedules (s : Service) : List Schedule := s.current.toList ++ s.others

/-- A number of seconds in milliseconds. -/
def seconds (n : Nat) : Nat := 1000 * n

/-- The time that the service takes for a step of its own. -/
def stepTime : Nat := 1

/-- Refresh once. -/
def refresh (s : Service) (t : File.Tree) : Except Source.Fault Unit × Service :=
  let (outcome, r) := s.refresher.refresh t
  (outcome, { s with refresher := r })

/-- Move the clock to a time, with the number of refreshes and the new due time of each schedule. -/
def moveTo (s : Service) (t : File.Tree) (time : Nat) (count : Schedule → Nat)
    (next : Schedule → Schedule) : Service where
  refresher := s.refresher.refreshTimes t (Schedule.total count s.schedules)
  now := time
  current := s.current.map next
  others := s.others.map next

/-- Let time pass evenly, while the files stay as they are. -/
def pass (s : Service) (t : File.Tree) (duration : Nat) : Service :=
  let time := s.now + duration
  s.moveTo t time (·.countUntil time) (·.passTo time)

/-- Set the clock ahead. -/
def jump (s : Service) (t : File.Tree) (duration : Nat) : Service :=
  let time := s.now + duration
  (s.moveTo t time (·.countAt time) (·.jumpTo time)).pass t stepTime

/-- Start a schedule. -/
def schedule (s : Service) (t : File.Tree) (period : Nat) : Service :=
  { s with
    current := some (.start s.now period)
    others := s.current.toList ++ s.others }.pass t stepTime

/-- Stop the schedule that was started last. -/
def stop (s : Service) : Service := { s with current := none }

/-- Time alone changes nothing. -/
theorem refresher_pass_of_schedules_nil {s : Service} (h : s.schedules = []) (t : File.Tree)
    (duration : Nat) : (s.pass t duration).refresher = s.refresher := by
  simp [pass, moveTo, h, Schedule.total, Refresher.refreshTimes]

end Service

end Detour
