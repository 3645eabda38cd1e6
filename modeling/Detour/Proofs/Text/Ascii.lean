import Detour.Proofs.Text.Blank
import Detour.Text.Numeral
/-!
# Visible characters

A statement about every character of a short text, or of ASCII, is settled by evaluation. The visible
characters of ASCII are those that a URL is made of. Main statements: letters and digits are
visible, and a text of visible characters has nothing to trim.
-/

namespace Detour.Text

/-- A statement about the characters of a text holds if it holds of each. It is evaluated over the
text: there is also a decision over all characters there are, which never ends. -/
theorem forall_mem_of_all {P : Char → Prop} [DecidablePred P] {s : List Char}
    (h : s.all (fun c => decide (P c)) = true) : ∀ c ∈ s, P c := by
  simpa using h

/-- What holds of each of the 128 characters of ASCII, in eight rows of sixteen. -/
theorem forall_of_ascii {P : Char → Prop}
    (all : ∀ a ∈ List.range 8, ∀ b ∈ List.range 16, P (Char.ofNat (a * 16 + b))) {c : Char}
    (h : c.toNat < 0x80) : P c := by
  have found := all (c.toNat / 16) (List.mem_range.2 (by omega)) (c.toNat % 16)
    (List.mem_range.2 (by omega))
  rwa [Nat.div_add_mod', Char.ofNat_toNat] at found

/-- The visible characters of ASCII. -/
def isVisible (c : Char) : Bool := 0x21 ≤ c.toNat && c.toNat ≤ 0x7e

/-- A visible character belongs to ASCII. -/
theorem lt_of_isVisible {c : Char} (h : isVisible c = true) : c.toNat < 0x80 := by
  simp only [isVisible, Bool.and_eq_true, decide_eq_true_eq] at h
  omega

/-- Letters and digits are visible. -/
theorem isVisible_of_isAlphanum {c : Char} (h : c.isAlphanum = true) : isVisible c = true := by
  have upper : c.isUpper = true → 65 ≤ c.toNat ∧ c.toNat ≤ 90 := of_decide_eq_true
  have lower (small : c.isLower = true) : 97 ≤ c.toNat ∧ c.toNat ≤ 122 := by
    obtain ⟨above, below⟩ := (Bool.and_eq_true _ _).mp small
    exact ⟨of_decide_eq_true above, of_decide_eq_true below⟩
  have digit (number : c.isDigit = true) : 48 ≤ c.toNat ∧ c.toNat ≤ 57 := by
    obtain ⟨above, below⟩ := (Bool.and_eq_true _ _).mp number
    exact ⟨of_decide_eq_true above, of_decide_eq_true below⟩
  simp only [isVisible, Bool.and_eq_true, decide_eq_true_eq]
  rcases (Bool.or_eq_true _ _).mp h with letter | number
  · rcases (Bool.or_eq_true _ _).mp letter with large | small
    · have bounds := upper large
      omega
    · have bounds := lower small
      omega
  · have bounds := digit number
    omega

/-- Digits are the ten numerals and, in bases that need them, letters. -/
theorem range_of_isDigit {base : Nat} {c : Char} (h : isDigit base c = true) :
    ('0' ≤ c ∧ c ≤ '9') ∨ ('a' ≤ c ∧ c ≤ 'f') ∨ 'A' ≤ c ∧ c ≤ 'F' := by
  obtain ⟨d, value⟩ := Option.isSome_iff_exists.1 h
  by_cases numeral : '0' ≤ c ∧ c ≤ '9'
  · exact .inl numeral
  by_cases small : 'a' ≤ c ∧ c ≤ 'f'
  · exact .inr (.inl small)
  by_cases large : 'A' ≤ c ∧ c ≤ 'F'
  · exact .inr (.inr large)
  · simp [digit?, numeral, small, large] at value

/-- The digits of every base are letters and decimal digits. -/
theorem isAlphanum_of_isDigit {base : Nat} {c : Char} (h : isDigit base c = true) :
    c.isAlphanum = true := by
  have ranges := range_of_isDigit h
  have ascii : c.toNat < 0x80 := by
    have bound {d : Char} (le : c ≤ d) (small : d.toNat < 0x80) : c.toNat < 0x80 :=
      Nat.lt_of_le_of_lt le small
    rcases ranges with ⟨-, le⟩ | ⟨-, le⟩ | ⟨-, le⟩
    · exact bound le (by decide)
    · exact bound le (by decide)
    · exact bound le (by decide)
  refine forall_of_ascii
    (P := fun d => (('0' ≤ d ∧ d ≤ '9') ∨ ('a' ≤ d ∧ d ≤ 'f') ∨ 'A' ≤ d ∧ d ≤ 'F') →
      d.isAlphanum = true) ?_ ascii ranges
  decide

/-- A visible character is no blank. -/
theorem isBlank_of_isVisible {c : Char} (h : isVisible c = true) : isBlank c = false := by
  refine forall_of_ascii (P := fun d => isVisible d = true → isBlank d = false) ?_
    (lt_of_isVisible h) h
  decide

/-- There is nothing to trim at a text of visible characters. -/
theorem trim_of_isVisible {s : List Char} (h : ∀ c ∈ s, isVisible c = true) : trim s = s :=
  trim_of_ends (fun c found => isBlank_of_isVisible (h c (List.mem_of_mem_head? found)))
    fun c found => isBlank_of_isVisible (h c (List.mem_of_getLast? found))

end Detour.Text
