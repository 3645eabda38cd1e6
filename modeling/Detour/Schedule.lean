/-!
# Schedules

A schedule is when something that recurs is due next. Times are in milliseconds. As long as time passes
evenly, it recurs after every period; when the clock was set ahead past it, it takes place once and
then again one full period later.
-/

namespace Detour

/-- When something that recurs is due. -/
structure Schedule where
  /-- The time between two occurrences. -/
  period : Nat
  /-- The time of the next occurrence. -/
  due : Nat
  deriving DecidableEq, Repr

namespace Schedule

/-- A schedule that starts now; the first occurrence is one period away. -/
def start (now period : Nat) : Schedule := ⟨period, now + period⟩

/-- How often something takes place until a time, if time passes evenly. -/
def countUntil (s : Schedule) (time : Nat) : Nat :=
  if time < s.due ∨ s.period = 0 then 0 else (time - s.due) / s.period + 1

/-- The schedule after a time, if time passes evenly. -/
def passTo (s : Schedule) (time : Nat) : Schedule :=
  { s with due := s.due + s.countUntil time * s.period }

/-- How late an occurrence may be and still count as in time. -/
def tolerance : Nat := 5

/-- How often something takes place when the clock is set to a time. -/
def countAt (s : Schedule) (time : Nat) : Nat := if time < s.due ∨ s.period = 0 then 0 else 1

/-- The schedule after the clock was set to a time. -/
def jumpTo (s : Schedule) (time : Nat) : Schedule :=
  if s.countAt time = 0 then s
  else if s.due + tolerance < time then { s with due := time + s.period }
  else { s with due := s.due + s.period }

/-- The sum of what is counted of several schedules. -/
def total (count : Schedule → Nat) : List Schedule → Nat
  | [] => 0
  | s :: rest => count s + total count rest

/-- The next occurrence is later than the time up to which all took place. -/
theorem lt_due_passTo {s : Schedule} (h : 0 < s.period) (time : Nat) :
    time < (s.passTo time).due := by
  unfold passTo countUntil
  split
  · rename_i early
    simp only [Nat.zero_mul, Nat.add_zero]
    omega
  · have quotient := Nat.div_add_mod (time - s.due) s.period
    have rest := Nat.mod_lt (time - s.due) h
    simp only [Nat.add_mul, Nat.one_mul]
    rw [Nat.mul_comm] at quotient
    omega

end Schedule

end Detour
