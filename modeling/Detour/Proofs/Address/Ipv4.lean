import Detour.Address.Ipv4
import Detour.Proofs.Text.Numeral
import Detour.Proofs.Text.Split
/-!
# Reading addresses of four bytes back

Main statements: an address that was read fits into four bytes, and one that does is read from its
own text, which consists of decimal digits and points.
-/

namespace Detour.Address.Ipv4

/-- The bytes of an address, in base ten. -/
def pieces (n : Nat) : List (List Char) :=
  [n / 0x1000000, n / 0x10000 % 0x100, n / 0x100 % 0x100, n % 0x100].map Text.decimal

/-- There is no point in a number. -/
theorem point_not_mem_decimal (n : Nat) : '.' ∉ Text.decimal n :=
  fun h => absurd (Text.isDigit_of_mem_decimal h) (by decide)

/-- There is no point in a byte. -/
theorem point_not_mem_pieces {n : Nat} : ∀ p ∈ pieces n, '.' ∉ p := by
  intro p piece
  obtain ⟨m, -, rfl⟩ := List.mem_map.1 piece
  exact point_not_mem_decimal m

/-- The text of an address consists of decimal digits and points. -/
theorem isDigit_of_mem_text {n : Nat} {c : Char} (h : c ∈ text n) : c = '.' ∨ c.isDigit = true := by
  rcases Text.mem_joinWith h with point | ⟨p, piece, digit⟩
  · exact .inl point
  · obtain ⟨m, -, rfl⟩ := List.mem_map.1 piece
    exact .inr (Text.isDigit_of_mem_decimal digit)

/-- The text of an address is cut into its bytes. -/
theorem splitOn_text (n : Nat) : Text.splitOn '.' (text n) = pieces n :=
  Text.splitOn_joinWith (List.cons_ne_nil _ _) point_not_mem_pieces

/-- The parts of the text of an address are its bytes. -/
theorem parts_text (n : Nat) : parts (text n) = pieces n := by
  have last : (pieces n).getLast? = some (Text.decimal (n % 0x100)) := rfl
  have digits : Text.decimal (n % 0x100) ≠ [] := Nat.toDigits_ne_nil
  rw [parts, splitOn_text, last, if_neg]
  intro e
  exact digits (Option.some.inj e)

/-- A number in base ten is read as itself, for it does not start with a zero that would mean another
base. -/
theorem parseNumber_decimal (n : Nat) : parseNumber (Text.decimal n) = some n := by
  by_cases positive : 0 < n
  · have first : (Text.decimal n).head? ≠ some '0' :=
      Text.head?_toDigits (by decide) (by decide) positive
    have read : Text.digitsFrom? 10 0 (Text.decimal n) = some n :=
      Text.digitsFrom?_toDigits (by decide) (by decide) n
    have digits : Text.decimal n ≠ [] := Nat.toDigits_ne_nil
    unfold parseNumber
    split <;> simp_all
  · obtain rfl : n = 0 := by omega
    decide

/-- The text of an address must be an address. -/
theorem endsInNumber_text (n : Nat) : endsInNumber (text n) = true := by
  have last : (pieces n).getLast? = some (Text.decimal (n % 0x100)) := rfl
  simp [endsInNumber, parts_text, last, parseNumber_decimal]

/-- An address that fits into four bytes is read from its own text. -/
theorem parseLoose_text {n : Nat} (h : n < 0x100000000) : parseLoose (text n) = some n := by
  have read : (pieces n).mapM parseNumber =
      some [n / 0x1000000, n / 0x10000 % 0x100, n / 0x100 % 0x100, n % 0x100] := by
    simp [pieces, parseNumber_decimal]
  have value : (((0 * 0x100 + n / 0x1000000) * 0x100 + n / 0x10000 % 0x100) * 0x100 +
      n / 0x100 % 0x100) * 0x100 + n % 0x100 = n := by omega
  rw [parseLoose, parts_text, read]
  simp only [combine]
  rw [if_pos (by omega), if_pos (by omega), if_pos (by omega), room, if_pos (by omega), value]

/-- Each byte takes its share of the room for those behind it. -/
theorem room_eq {count : Nat} (h : count < 3) : room count = 0x100 * room (count + 1) := by
  obtain rfl | rfl | rfl : count = 0 ∨ count = 1 ∨ count = 2 := by omega
  · rfl
  · rfl
  · rfl

/-- The numbers of an address together fit into four bytes, for what is read of them leaves room for
the rest. -/
theorem lt_of_combine {value count n : Nat} {numbers : List Nat}
    (small : (value + 1) * room count ≤ 0x100000000) (h : combine value count numbers = some n) :
    n < 0x100000000 := by
  induction numbers generalizing value count with
  | nil => cases h
  | cons m rest ih =>
    cases rest with
    | nil =>
      rw [combine] at h
      split at h
      · rename_i fits
        cases h
        rw [Nat.succ_mul] at small
        omega
      · cases h
    | cons k rest =>
      simp only [combine] at h
      split at h
      · rename_i fits
        refine ih ?_ h
        calc (value * 0x100 + m + 1) * room (count + 1)
            ≤ (value + 1) * 0x100 * room (count + 1) := Nat.mul_le_mul_right _ (by omega)
          _ = (value + 1) * room count := by rw [Nat.mul_assoc, ← room_eq fits.2]
          _ ≤ 0x100000000 := small
      · cases h

/-- An address that was read fits into four bytes. -/
theorem lt_of_parseLoose {s : List Char} {n : Nat} (h : parseLoose s = some n) : n < 0x100000000 := by
  unfold parseLoose at h
  split at h
  · exact lt_of_combine (by decide) h
  · cases h

/-- A byte is at most 255. -/
theorem le_of_parseByte {s : List Char} {n : Nat} (h : parseByte s = some n) : n ≤ 255 := by
  unfold parseByte at h
  split at h
  · simpa using (Option.filter_eq_some_iff.1 h).2
  · cases h

/-- An address that was read in its usual form fits into four bytes. -/
theorem lt_of_parseDotted {s : List Char} {n : Nat} (h : parseDotted s = some n) :
    n < 0x100000000 := by
  unfold parseDotted at h
  split at h
  · rename_i a b c d bytes
    cases h
    have small : ∀ n ∈ [a, b, c, d], n ≤ 255 := fun n found => by
      obtain ⟨p, -, byte⟩ := Text.exists_mem_of_mapM bytes found
      exact le_of_parseByte byte
    simp only [List.forall_mem_cons] at small
    omega
  · cases h

end Detour.Address.Ipv4
