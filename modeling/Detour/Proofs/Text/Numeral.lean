import Detour.Text.Numeral
/-!
# Reading numerals back

A number that is written with digits is read as itself. Main statements: this holds in every base up to
sixteen; a numeral is made of digits only, and it does not start with a zero unless it is one; a
number that is read is bounded by the power of the base that has one digit more.
-/

namespace Detour.Text

/-- A digit reads as its value in every base that has it. -/
theorem digit?_digitChar {base d : Nat} (small : base ≤ 16) (h : d < base) :
    digit? base d.digitChar = some d := by
  have all : ∀ b ∈ List.range 17, ∀ e ∈ List.range b, digit? b e.digitChar = some e := by decide
  exact all base (List.mem_range.2 (by omega)) d (List.mem_range.2 h)

/-- Digits are read one after the other. -/
theorem digitsFrom?_append (base n : Nat) (s t : List Char) :
    digitsFrom? base n (s ++ t) = (digitsFrom? base n s).bind (digitsFrom? base · t) := by
  induction s generalizing n with
  | nil => rfl
  | cons c s ih =>
    simp only [List.cons_append, digitsFrom?]
    split
    · exact ih _
    · rfl

/-- A number is read from its digits. -/
theorem digitsFrom?_toDigits {base : Nat} (large : 1 < base) (small : base ≤ 16) (n : Nat) :
    digitsFrom? base 0 (Nat.toDigits base n) = some n := by
  induction n using Nat.strongRecOn with
  | ind n ih =>
    by_cases single : n < base
    · rw [Nat.toDigits_of_lt_base single, digitsFrom?, digit?_digitChar small single]
      simp [digitsFrom?]
    · have less : n / base < n := Nat.div_lt_self (by omega) large
      have last : n % base < base := Nat.mod_lt n (by omega)
      have value : n / base * base + n % base = n := Nat.div_add_mod' n base
      rw [Nat.toDigits_of_base_le large (by omega), digitsFrom?_append, ih _ less, Option.bind_some,
        digitsFrom?, digit?_digitChar small last]
      simp [digitsFrom?, value]

/-- A numeral is made of digits. -/
theorem exists_digitChar_of_mem {base n : Nat} {c : Char} (large : 1 < base)
    (h : c ∈ Nat.toDigits base n) : ∃ d < base, c = d.digitChar := by
  induction n using Nat.strongRecOn with
  | ind n ih =>
    by_cases single : n < base
    · rw [Nat.toDigits_of_lt_base single, List.mem_singleton] at h
      exact ⟨n, single, h⟩
    · rw [Nat.toDigits_of_base_le large (by omega), List.mem_append, List.mem_singleton] at h
      rcases h with front | last
      · exact ih _ (Nat.div_lt_self (by omega) large) front
      · exact ⟨n % base, Nat.mod_lt n (by omega), last⟩

/-- A numeral in base ten is made of decimal digits. -/
theorem isDigit_of_mem_decimal {n : Nat} {c : Char} (h : c ∈ decimal n) : c.isDigit = true :=
  Nat.isDigit_of_mem_toDigits (by decide) (by decide) h

/-- A numeral in base sixteen is made of letters and decimal digits. -/
theorem isAlphanum_of_mem_hexadecimal {n : Nat} {c : Char} (h : c ∈ hexadecimal n) :
    c.isAlphanum = true := by
  obtain ⟨d, below, rfl⟩ := exists_digitChar_of_mem (by decide) h
  have all : ∀ e ∈ List.range 16, e.digitChar.isAlphanum = true := by decide
  exact all d (List.mem_range.2 below)

/-- A numeral of a number above zero does not start with a zero. -/
theorem head?_toDigits {base n : Nat} (large : 1 < base) (small : base ≤ 16) (positive : 0 < n) :
    (Nat.toDigits base n).head? ≠ some '0' := by
  induction n using Nat.strongRecOn with
  | ind n ih =>
    by_cases single : n < base
    · rw [Nat.toDigits_of_lt_base single, List.head?_cons]
      have all : ∀ d ∈ List.range 16, 0 < d → some d.digitChar ≠ some '0' := by decide
      exact all n (List.mem_range.2 (by omega)) positive
    · have front := ih (n / base) (Nat.div_lt_self positive large) (Nat.div_pos (by omega) (by omega))
      obtain ⟨first, more, digits⟩ := List.exists_cons_of_ne_nil (Nat.toDigits_ne_nil (n := n / base))
      rw [digits] at front
      rw [Nat.toDigits_of_base_le large (by omega), digits]
      exact front

/-- The value of a digit is below the base. -/
theorem lt_of_digit? {base d : Nat} {c : Char} (h : digit? base c = some d) : d < base := by
  obtain ⟨below, value⟩ := Option.ite_none_right_eq_some.1 h
  rwa [Option.some.inj value] at below

/-- What is read as a number is made of digits. -/
theorem isDigit_of_mem_of_digitsFrom? {base n m : Nat} {s : List Char}
    (h : digitsFrom? base n s = some m) : ∀ c ∈ s, isDigit base c = true := by
  induction s generalizing n with
  | nil => exact List.forall_mem_nil _
  | cons c s ih =>
    rw [digitsFrom?] at h
    split at h
    · rename_i d value
      have own : isDigit base c = true := by rw [isDigit, value, Option.isSome_some]
      exact List.forall_mem_cons.2 ⟨own, ih h⟩
    · cases h

/-- What is read as a number is made of digits. -/
theorem isDigit_of_mem_of_ofDigits? {base n : Nat} {s : List Char} (h : ofDigits? base s = some n) :
    ∀ c ∈ s, isDigit base c = true := by
  rw [ofDigits?] at h
  split at h
  · cases h
  · exact isDigit_of_mem_of_digitsFrom? h

/-- Each digit makes room for as many numbers as the base says. -/
theorem lt_of_digitsFrom? {base n m : Nat} {s : List Char} (h : digitsFrom? base n s = some m) :
    m < (n + 1) * Nat.pow base s.length := by
  induction s generalizing n with
  | nil =>
    cases h
    exact Nat.lt_of_lt_of_eq (Nat.lt_succ_self m) (Nat.mul_one _).symm
  | cons c s ih =>
    rw [digitsFrom?] at h
    split at h
    · rename_i d value
      have next : n * base + d + 1 ≤ (n + 1) * base := by
        have below := lt_of_digit? value
        rw [Nat.succ_mul]
        omega
      calc m < (n * base + d + 1) * Nat.pow base s.length := ih h
        _ ≤ (n + 1) * base * Nat.pow base s.length := Nat.mul_le_mul_right _ next
        _ = (n + 1) * (Nat.pow base s.length * base) := by rw [Nat.mul_assoc, Nat.mul_comm base]
    · cases h

end Detour.Text
