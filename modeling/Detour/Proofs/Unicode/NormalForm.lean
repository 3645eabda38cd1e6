import Detour.Unicode.NormalForm
/-!
# The composed normal form of ASCII texts

No character of ASCII has parts, is a mark or is the second part of a composed character. Main
statement: a text of such characters is its own composed form.
-/

namespace Detour.Unicode

/-- A character of ASCII has no parts. -/
theorem takeApart_of_ascii {c : Char} (h : c.toNat < 0x80) (fuel : Nat) (after : List Char) :
    takeApart fuel c after = c :: after := by
  cases fuel with
  | zero => rfl
  | succ fuel =>
    have whole : parts? c.toNat = none := if_pos h
    rw [takeApart, whole]

/-- A character of ASCII never moves. -/
theorem combiningClass_of_ascii {c : Char} (h : c.toNat < 0x80) : combiningClass c = 0 := if_pos h

/-- A character of ASCII is not composed with what stands in front of it. -/
theorem compose?_of_ascii {a : Nat} {c : Char} (h : c.toNat < 0x80) : compose? a c.toNat = none :=
  if_pos h

variable {s : List Char}

/-- A text of ASCII characters is not taken apart. -/
theorem decompose_of_ascii (h : ∀ c ∈ s, c.toNat < 0x80) : decompose s = s := by
  induction s with
  | nil => rfl
  | cons c rest ih =>
    obtain ⟨own, others⟩ := List.forall_mem_cons.1 h
    have later := ih others
    rw [decompose, List.flatMap_cons, takeApart_of_ascii own]
    exact congrArg (c :: ·) later

/-- A text of ASCII characters keeps its order. -/
theorem orderFrom_of_ascii (done : List Char) (h : ∀ c ∈ s, c.toNat < 0x80) :
    orderFrom done s = done.reverse ++ s := by
  induction s generalizing done with
  | nil => rw [orderFrom, List.append_nil]
  | cons c rest ih =>
    obtain ⟨own, others⟩ := List.forall_mem_cons.1 h
    rw [orderFrom, if_pos (combiningClass_of_ascii own), ih _ others]
    simp

/-- Nothing is composed in a text of ASCII characters. -/
theorem composeFrom_of_ascii (done : List Char) (letter : Char) (h : ∀ c ∈ s, c.toNat < 0x80) :
    composeFrom done letter [] s = done.reverse ++ letter :: s := by
  induction s generalizing done letter with
  | nil => simp [composeFrom]
  | cons c rest ih =>
    obtain ⟨own, others⟩ := List.forall_mem_cons.1 h
    have apart : (if isBlocked c [] then none else compose? letter.toNat c.toNat) = none :=
      compose?_of_ascii own
    rw [composeFrom, apart]
    dsimp only
    rw [if_pos (combiningClass_of_ascii own), ih _ _ others]
    simp

/-- A text of ASCII characters is its own composed form. -/
theorem compose_of_ascii (h : ∀ c ∈ s, c.toNat < 0x80) : compose s = s := by
  rw [compose, decompose_of_ascii h, order, orderFrom_of_ascii [] h, List.reverse_nil, List.nil_append]
  cases s with
  | nil => rfl
  | cons c rest =>
    obtain ⟨own, others⟩ := List.forall_mem_cons.1 h
    rw [composeStart, if_pos (combiningClass_of_ascii own), composeFrom_of_ascii _ _ others]
    rfl

end Detour.Unicode
