/-!
# Sets of places as bits

A set of places in a list is a number whose bit `i` says whether place `i` belongs to it, so that
the sets are compared and combined all places at once. `ofList` collects the places of a list at
which a condition holds; its bits are those of the list.
-/

namespace Detour.Bits

/-- The places of a list at which a condition holds. -/
def ofList {α : Type} (holds : α → Bool) (s : List α) : Nat :=
  s.foldr (fun a bits => 2 * bits + (holds a).toNat) 0

/-- The places below `n`. -/
def below (n : Nat) : Nat := (1 <<< n) - 1

@[simp] theorem ofList_nil {α : Type} (holds : α → Bool) : ofList holds [] = 0 := rfl

@[simp] theorem ofList_cons {α : Type} (holds : α → Bool) (a : α) (s : List α) :
    ofList holds (a :: s) = 2 * ofList holds s + (holds a).toNat := rfl

/-- A place belongs to the set exactly if the list has it and the condition holds there. -/
theorem testBit_ofList {α : Type} (holds : α → Bool) (s : List α) (i : Nat) :
    (ofList holds s).testBit i = (s[i]?).any holds := by
  induction s generalizing i with
  | nil => simp
  | cons a s ih =>
    have half : (2 * ofList holds s + (holds a).toNat) / 2 = ofList holds s := by
      cases holds a
      · simp
      · simp
        omega
    cases i with
    | zero => cases h : holds a <;> simp [Nat.testBit_zero, h]
    | succ i => rw [ofList_cons, Nat.testBit_succ, half, ih]; simp

/-- The places below `n` are the numbers below `n`. -/
theorem testBit_below (n i : Nat) : (below n).testBit i = decide (i < n) := by
  rw [below, Nat.one_shiftLeft]
  exact Nat.testBit_two_pow_sub_one n i

/-- All places that can be reached from `frontier`, where `seen` holds the places reached before, in at
most `rounds` steps. A place that was seen once is not visited again. -/
def reach (step : Nat → Nat) : (rounds seen frontier : Nat) → Nat
  | 0, seen, _ => seen
  | rounds + 1, seen, frontier =>
    if frontier = 0 then seen
    else
      let all := seen ||| step frontier
      reach step rounds all (all ^^^ seen)

/-- Take the same step `count` times, or until it changes nothing any more. -/
def advance (step : Nat → Nat) : (count places : Nat) → Nat
  | 0, places => places
  | count + 1, places =>
    let next := step places
    if next = places then places else advance step count next

/-- Stopping early changes nothing. -/
theorem advance_succ (step : Nat → Nat) (count places : Nat) :
    advance step (count + 1) places = advance step count (step places) := by
  rw [advance]
  split
  · rename_i h
    rw [h]
    have still : ∀ n, advance step n places = places := by
      intro n
      cases n with
      | zero => rfl
      | succ n => rw [advance]; simp [h]
    exact (still count).symm
  · rfl

end Detour.Bits
