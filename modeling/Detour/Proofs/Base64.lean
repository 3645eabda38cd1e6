import Detour.Base64
import Detour.Proofs.Text.Utf8
/-!
# Reading Base64 back

Three bytes are four symbols, and the symbols give the bytes back. Main statement: a text is read as
some bytes exactly if it is what the bytes are written as: padding that is missing, superfluous or
at any other place is refused, and so are bits that belong to no byte.
-/

namespace Detour.Base64

open Text.Utf8 (toNat_byte)

/-- Only the symbol for some bits is read as them. -/
theorem eq_symbol_of_value {b : UInt8} {n : Nat} (h : value b = some n) : n < 64 ∧ b = symbol n := by
  have known {m : Nat} (same : b.toNat = m) : b = .ofNat m := by rw [← same, UInt8.ofNat_toNat]
  unfold value at h
  dsimp only at h
  split at h
  · cases h
    refine ⟨by omega, ?_⟩
    rw [symbol, if_pos (by omega)]
    exact known (by omega)
  split at h
  · cases h
    refine ⟨by omega, ?_⟩
    rw [symbol, if_neg (by omega), if_pos (by omega)]
    exact known (by omega)
  split at h
  · cases h
    refine ⟨by omega, ?_⟩
    rw [symbol, if_neg (by omega), if_neg (by omega), if_pos (by omega)]
    exact known (by omega)
  split at h
  · cases h
    exact ⟨by decide, known (m := 43) (by omega)⟩
  split at h
  · cases h
    exact ⟨by decide, known (m := 47) (by omega)⟩
  · cases h

/-- No symbol is padding. -/
theorem symbol_ne_pad {n : Nat} (h : n < 64) : symbol n ≠ pad := by
  intro same
  have read := value_symbol h
  rw [same, value_pad] at read
  cases read

/-- The bits of a symbol at some place. -/
theorem valueAt_symbol (offset : Nat) {n : Nat} (h : n < 64) : valueAt offset (symbol n) = .ok n := by
  rw [valueAt, value_symbol h]

/-- Only a symbol gives bits. -/
theorem eq_symbol_of_valueAt {offset : Nat} {b : UInt8} {n : Nat} (h : valueAt offset b = .ok n) :
    n < 64 ∧ b = symbol n := by
  unfold valueAt at h
  split at h
  · rename_i found
    cases h
    exact eq_symbol_of_value found
  · cases h

/-- The bytes of a full group of bits are written as its symbols. -/
theorem encode_full {x y z w : Nat} (hx : x < 64) (hy : y < 64) (hz : z < 64) (hw : w < 64)
    (rest : List UInt8) :
    encode (.ofNat (x * 4 + y / 16) :: .ofNat (y % 16 * 16 + z / 4) :: .ofNat (z % 4 * 64 + w) :: rest) =
      symbol x :: symbol y :: symbol z :: symbol w :: encode rest := by
  rw [encode, toNat_byte (n := x * 4 + y / 16) (by omega),
    toNat_byte (n := y % 16 * 16 + z / 4) (by omega), toNat_byte (n := z % 4 * 64 + w) (by omega)]
  have first : (x * 4 + y / 16) / 4 = x := by omega
  have second : (x * 4 + y / 16) % 4 * 16 + (y % 16 * 16 + z / 4) / 16 = y := by omega
  have third : (y % 16 * 16 + z / 4) % 16 * 4 + (z % 4 * 64 + w) / 64 = z := by omega
  have fourth : (z % 4 * 64 + w) % 64 = w := by omega
  rw [first, second, third, fourth]

/-- Two bytes that remain are written as three symbols. -/
theorem encode_two {x y z : Nat} (hx : x < 64) (hy : y < 64) (hz : z < 64) (full : z % 4 = 0) :
    encode [.ofNat (x * 4 + y / 16), .ofNat (y % 16 * 16 + z / 4)] =
      [symbol x, symbol y, symbol z, pad] := by
  rw [encode, toNat_byte (n := x * 4 + y / 16) (by omega),
    toNat_byte (n := y % 16 * 16 + z / 4) (by omega)]
  have first : (x * 4 + y / 16) / 4 = x := by omega
  have second : (x * 4 + y / 16) % 4 * 16 + (y % 16 * 16 + z / 4) / 16 = y := by omega
  have third : (y % 16 * 16 + z / 4) % 16 * 4 = z := by omega
  rw [first, second, third]

/-- One byte that remains is written as two symbols. -/
theorem encode_one {x y : Nat} (hx : x < 64) (hy : y < 64) (full : y % 16 = 0) :
    encode [.ofNat (x * 4 + y / 16)] = [symbol x, symbol y, pad, pad] := by
  rw [encode, toNat_byte (n := x * 4 + y / 16) (by omega)]
  have first : (x * 4 + y / 16) / 4 = x := by omega
  have second : (x * 4 + y / 16) % 4 * 16 = y := by omega
  rw [first, second]

/-- Three bytes have the bits of a full group. -/
theorem exists_full (a b c : UInt8) :
    ∃ x y z w, x < 64 ∧ y < 64 ∧ z < 64 ∧ w < 64 ∧ a = .ofNat (x * 4 + y / 16) ∧
      b = .ofNat (y % 16 * 16 + z / 4) ∧ c = .ofNat (z % 4 * 64 + w) := by
  have ha := a.toNat_lt
  have hb := b.toNat_lt
  have hc := c.toNat_lt
  have first : a.toNat / 4 * 4 + (a.toNat % 4 * 16 + b.toNat / 16) / 16 = a.toNat := by omega
  have second : (a.toNat % 4 * 16 + b.toNat / 16) % 16 * 16 +
      (b.toNat % 16 * 4 + c.toNat / 64) / 4 = b.toNat := by omega
  have third : (b.toNat % 16 * 4 + c.toNat / 64) % 4 * 64 + c.toNat % 64 = c.toNat := by omega
  refine ⟨a.toNat / 4, a.toNat % 4 * 16 + b.toNat / 16, b.toNat % 16 * 4 + c.toNat / 64,
    c.toNat % 64, by omega, by omega, by omega, by omega, ?_, ?_, ?_⟩
  · rw [first, UInt8.ofNat_toNat]
  · rw [second, UInt8.ofNat_toNat]
  · rw [third, UInt8.ofNat_toNat]

/-- Two bytes have the bits of a group that lacks one symbol. -/
theorem exists_two (a b : UInt8) :
    ∃ x y z, x < 64 ∧ y < 64 ∧ z < 64 ∧ z % 4 = 0 ∧ a = .ofNat (x * 4 + y / 16) ∧
      b = .ofNat (y % 16 * 16 + z / 4) := by
  have ha := a.toNat_lt
  have hb := b.toNat_lt
  have first : a.toNat / 4 * 4 + (a.toNat % 4 * 16 + b.toNat / 16) / 16 = a.toNat := by omega
  have second : (a.toNat % 4 * 16 + b.toNat / 16) % 16 * 16 + b.toNat % 16 * 4 / 4 = b.toNat := by
    omega
  refine ⟨a.toNat / 4, a.toNat % 4 * 16 + b.toNat / 16, b.toNat % 16 * 4, by omega, by omega,
    by omega, by omega, ?_, ?_⟩
  · rw [first, UInt8.ofNat_toNat]
  · rw [second, UInt8.ofNat_toNat]

/-- One byte has the bits of a group that lacks two symbols. -/
theorem exists_one (a : UInt8) :
    ∃ x y, x < 64 ∧ y < 64 ∧ y % 16 = 0 ∧ a = .ofNat (x * 4 + y / 16) := by
  have ha := a.toNat_lt
  have first : a.toNat / 4 * 4 + a.toNat % 4 * 16 / 16 = a.toNat := by omega
  refine ⟨a.toNat / 4, a.toNat % 4 * 16, by omega, by omega, by omega, ?_⟩
  rw [first, UInt8.ofNat_toNat]

/-- Some bytes are written as some symbols. -/
theorem encode_ne_nil {bytes : List UInt8} (h : bytes ≠ []) : encode bytes ≠ [] := by
  unfold encode
  split
  · exact absurd rfl h
  all_goals exact List.cons_ne_nil _ _

/-- A text is written in groups of four. -/
theorem length_encode (bytes : List UInt8) : (encode bytes).length % 4 = 0 := by
  fun_induction encode bytes with
  | case1 => rfl
  | case2 => simp
  | case3 => simp
  | case4 a b c rest ih =>
    simp only [List.length_cons]
    omega

/-- A full group in front of another one. -/
theorem decodeFrom_full (offset : Nat) (done : List UInt8) {x y z w : Nat} (hx : x < 64) (hy : y < 64)
    (hz : z < 64) (hw : w < 64) (e : UInt8) (rest : List UInt8) :
    decodeFrom offset done (symbol x :: symbol y :: symbol z :: symbol w :: e :: rest) =
      decodeFrom (offset + 4)
        (.ofNat (z % 4 * 64 + w) :: .ofNat (y % 16 * 16 + z / 4) :: .ofNat (x * 4 + y / 16) :: done)
        (e :: rest) := by
  rw [decodeFrom, valueAt_symbol _ hx, valueAt_symbol _ hy, valueAt_symbol _ hz, valueAt_symbol _ hw]
  rfl

/-- A last group without padding. -/
theorem decodeLast_full (offset : Nat) {x y z w : Nat} (hx : x < 64) (hy : y < 64) (hz : z < 64)
    (hw : w < 64) :
    decodeLast offset [symbol x, symbol y, symbol z, symbol w] =
      .ok [.ofNat (x * 4 + y / 16), .ofNat (y % 16 * 16 + z / 4), .ofNat (z % 4 * 64 + w)] := by
  rw [decodeLast, valueAt_symbol _ hx, valueAt_symbol _ hy, valueAt_symbol _ hz, valueAt_symbol _ hw]
  simp only [bind, Except.bind, symbol_ne_pad hz, symbol_ne_pad hw, if_false]

/-- A last group with one symbol for padding. -/
theorem decodeLast_two (offset : Nat) {x y z : Nat} (hx : x < 64) (hy : y < 64) (hz : z < 64)
    (full : z % 4 = 0) :
    decodeLast offset [symbol x, symbol y, symbol z, pad] =
      .ok [.ofNat (x * 4 + y / 16), .ofNat (y % 16 * 16 + z / 4)] := by
  rw [decodeLast, valueAt_symbol _ hx, valueAt_symbol _ hy, valueAt_symbol _ hz]
  simp only [bind, Except.bind, symbol_ne_pad hz, full, ne_eq, not_true_eq_false, if_true, if_false]

/-- A last group with two symbols for padding. -/
theorem decodeLast_one (offset : Nat) {x y : Nat} (hx : x < 64) (hy : y < 64) (full : y % 16 = 0) :
    decodeLast offset [symbol x, symbol y, pad, pad] = .ok [.ofNat (x * 4 + y / 16)] := by
  rw [decodeLast, valueAt_symbol _ hx, valueAt_symbol _ hy]
  simp only [bind, Except.bind, full, ne_eq, not_true_eq_false, if_true, if_false]

/-- The last group is all that remains to be read. -/
theorem decodeFrom_last (offset : Nat) (done : List UInt8) {last : List UInt8} (h : last.length ≤ 4) :
    decodeFrom offset done last = (decodeLast offset last).map (done.reverse ++ ·) := by
  unfold decodeFrom
  split
  · simp only [List.length_cons] at h
    omega
  · rfl

/-- What bytes are written as is read as the bytes. -/
theorem decodeFrom_encode (offset : Nat) (done bytes : List UInt8) :
    decodeFrom offset done (encode bytes) = .ok (done.reverse ++ bytes) := by
  match bytes with
  | [] => rfl
  | [a] =>
    obtain ⟨x, y, hx, hy, full, rfl⟩ := exists_one a
    rw [encode_one hx hy full, decodeFrom_last _ _ (by simp), decodeLast_one _ hx hy full]
    rfl
  | [a, b] =>
    obtain ⟨x, y, z, hx, hy, hz, full, rfl, rfl⟩ := exists_two a b
    rw [encode_two hx hy hz full, decodeFrom_last _ _ (by simp), decodeLast_two _ hx hy hz full]
    rfl
  | [a, b, c] =>
    obtain ⟨x, y, z, w, hx, hy, hz, hw, rfl, rfl, rfl⟩ := exists_full a b c
    rw [encode_full hx hy hz hw, encode, decodeFrom_last _ _ (by simp), decodeLast_full _ hx hy hz hw]
    rfl
  | a :: b :: c :: d :: rest =>
    obtain ⟨x, y, z, w, hx, hy, hz, hw, rfl, rfl, rfl⟩ := exists_full a b c
    have next := decodeFrom_encode (offset + 4)
      (.ofNat (z % 4 * 64 + w) :: .ofNat (y % 16 * 16 + z / 4) :: .ofNat (x * 4 + y / 16) :: done)
      (d :: rest)
    obtain ⟨e, more, more_eq⟩ := List.exists_cons_of_ne_nil (encode_ne_nil (List.cons_ne_nil d rest))
    rw [encode_full hx hy hz hw, more_eq, decodeFrom_full _ _ hx hy hz hw, ← more_eq, next]
    simp

/-- A step that is followed by another gave a result, and so did the other one. -/
theorem exists_of_bind_eq_ok {α β : Type} {step : Except Fault α} {next : α → Except Fault β} {r : β}
    (h : step >>= next = .ok r) : ∃ a, step = .ok a ∧ next a = .ok r := by
  cases step with
  | error fault => cases h
  | ok a => exact ⟨a, rfl, h⟩

/-- The last group that is read is what its bytes are written as. -/
theorem eq_encode_of_decodeLast {offset : Nat} {last bytes : List UInt8} (short : last.length ≤ 4)
    (h : decodeLast offset last = .ok bytes) : last = encode bytes := by
  match last with
  | [] =>
    cases h
    rfl
  | [a] =>
    obtain ⟨_, _, refused⟩ := exists_of_bind_eq_ok h
    cases refused
  | [a, b] =>
    obtain ⟨_, _, next⟩ := exists_of_bind_eq_ok h
    obtain ⟨_, _, refused⟩ := exists_of_bind_eq_ok next
    cases refused
  | [a, b, c] =>
    obtain ⟨_, _, next⟩ := exists_of_bind_eq_ok h
    obtain ⟨_, _, next⟩ := exists_of_bind_eq_ok next
    split at next
    · cases next
    · obtain ⟨_, _, refused⟩ := exists_of_bind_eq_ok next
      cases refused
  | [a, b, c, d] =>
    obtain ⟨x, first, next⟩ := exists_of_bind_eq_ok h
    obtain ⟨y, second, after⟩ := exists_of_bind_eq_ok next
    obtain ⟨hx, rfl⟩ := eq_symbol_of_valueAt first
    obtain ⟨hy, rfl⟩ := eq_symbol_of_valueAt second
    split at after
    · rename_i padded
      split at after
      · cases after
      rename_i ends
      split at after
      · cases after
      rename_i full
      cases after
      rw [encode_one hx hy (Decidable.not_not.1 full), padded, Decidable.not_not.1 ends]
    · obtain ⟨z, third, later⟩ := exists_of_bind_eq_ok after
      obtain ⟨hz, rfl⟩ := eq_symbol_of_valueAt third
      split at later
      · rename_i padded
        split at later
        · cases later
        rename_i full
        cases later
        rw [encode_two hx hy hz (Decidable.not_not.1 full), padded]
      · obtain ⟨w, fourth, result⟩ := exists_of_bind_eq_ok later
        obtain ⟨hw, rfl⟩ := eq_symbol_of_valueAt fourth
        cases result
        rw [encode_full hx hy hz hw, encode]

/-- What is read is what the bytes are written as. -/
theorem eq_encode_of_decodeFrom {offset : Nat} {done s out : List UInt8}
    (h : decodeFrom offset done s = .ok out) :
    ∃ bytes, s = encode bytes ∧ out = done.reverse ++ bytes := by
  fun_induction decodeFrom offset done s with
  | case1 offset done a b c d e rest ih =>
    obtain ⟨x, first, next⟩ := exists_of_bind_eq_ok h
    obtain ⟨y, second, next⟩ := exists_of_bind_eq_ok next
    obtain ⟨z, third, next⟩ := exists_of_bind_eq_ok next
    obtain ⟨w, fourth, next⟩ := exists_of_bind_eq_ok next
    obtain ⟨bytes, more, result⟩ := ih x y z w next
    obtain ⟨hx, rfl⟩ := eq_symbol_of_valueAt first
    obtain ⟨hy, rfl⟩ := eq_symbol_of_valueAt second
    obtain ⟨hz, rfl⟩ := eq_symbol_of_valueAt third
    obtain ⟨hw, rfl⟩ := eq_symbol_of_valueAt fourth
    refine ⟨.ofNat (x * 4 + y / 16) :: .ofNat (y % 16 * 16 + z / 4) :: .ofNat (z % 4 * 64 + w) :: bytes,
      ?_, ?_⟩
    · rw [encode_full hx hy hz hw, more]
    · rw [result]
      simp
  | case2 offset done last long =>
    obtain ⟨bytes, read, result⟩ := exists_of_bind_eq_ok h
    have short : last.length ≤ 4 := by
      match last with
      | [] | [_] | [_, _] | [_, _, _] | [_, _, _, _] => simp
      | a :: b :: c :: d :: e :: rest => exact absurd rfl (long a b c d e rest)
    cases result
    exact ⟨bytes, eq_encode_of_decodeLast short read, rfl⟩

/-- A text of full groups does not end in a symbol that stands alone. -/
theorem strayEnd_encode (bytes : List UInt8) : strayEnd (encode bytes) = none := by
  have groups := length_encode bytes
  unfold strayEnd
  split
  · rw [if_neg (by omega)]
  · rfl

/-- A text is read as some bytes exactly if it is what the bytes are written as. -/
theorem decode_eq_ok_iff {s bytes : List UInt8} : decode s = .ok bytes ↔ s = encode bytes := by
  constructor
  · intro h
    unfold decode at h
    split at h
    · cases h
    · obtain ⟨read, same, rfl⟩ := eq_encode_of_decodeFrom h
      exact same
  · rintro rfl
    rw [decode, strayEnd_encode]
    exact decodeFrom_encode 0 [] bytes

end Detour.Base64
