import Detour.Text.Utf8
/-!
# Reading UTF-8 back

The bytes of a character are read as this character, and no other bytes are. Main statement: a byte
sequence is read as a text exactly if it is what the text is written as, so that every text has
one writing.
-/

namespace Detour.Text.Utf8

/-- A number that may be a code point is that of its character. -/
theorem toNat_ofNat {n : Nat} (h : n.isValidChar) : (Char.ofNat n).toNat = n := by
  rw [Char.ofNat, dif_pos h]
  rfl

/-- The code point of a character is no surrogate and not too large. -/
theorem isValidChar_toNat (c : Char) :
    c.toNat < 0xd800 ∨ 0xdfff < c.toNat ∧ c.toNat < 0x110000 := c.valid

/-- Small numbers are bytes. -/
theorem toNat_byte {n : Nat} (h : n < 0x100) : (UInt8.ofNat n).toNat = n :=
  UInt8.toNat_ofNat_of_lt' h

/-- The open character of two bytes whose first bits are `a`. -/
def openTwo (a : Nat) : Open := ⟨1, 0, 0x80, 0xbf, a⟩

/-- The open character of three bytes whose first bits are `a`. What needs fewer bytes may not follow,
and no surrogate. -/
def openThree (a : Nat) : Open :=
  ⟨1, 1, if a = 0 then 0xa0 else 0x80, if a = 0xd then 0x9f else 0xbf, a⟩

/-- The open character of four bytes whose first bits are `a`. What needs fewer bytes may not follow,
and nothing above the last code point. -/
def openFour (a : Nat) : Open :=
  ⟨1, 2, if a = 0 then 0x90 else 0x80, if a = 4 then 0x8f else 0xbf, a⟩

/-- The first bytes of characters of two bytes. -/
theorem lead_two {a : Nat} (low : 2 ≤ a) (high : a < 0x20) : lead (0xc0 + a) = some (openTwo a) := by
  rw [lead, if_pos (by omega), Nat.add_sub_cancel_left]
  rfl

/-- The first bytes of characters of three bytes. -/
theorem lead_three {a : Nat} (h : a < 0x10) : lead (0xe0 + a) = some (openThree a) := by
  unfold lead openThree
  grind

/-- The first bytes of characters of four bytes. -/
theorem lead_four {a : Nat} (h : a < 5) : lead (0xf0 + a) = some (openFour a) := by
  unfold lead openFour
  grind

/-- No other byte is the first of several. -/
theorem lead_eq_none {n : Nat} (h : n < 0xc2 ∨ 0xf4 < n) : lead n = none := by
  unfold lead
  grind

/-- The one byte of a character of ASCII. -/
theorem encodeChar_one {n : Nat} (h : n < 0x80) : encodeChar (Char.ofNat n) = [.ofNat n] := by
  have value : (Char.ofNat n).toNat = n := toNat_ofNat (.inl (by omega))
  rw [encodeChar, value, if_pos h]

/-- The bytes of a character with eleven bits. -/
theorem encodeChar_two {a x : Nat} (low : 2 ≤ a) (high : a < 0x20) (hx : x < 0x40) :
    encodeChar (Char.ofNat (a * 0x40 + x)) = [.ofNat (0xc0 + a), .ofNat (0x80 + x)] := by
  have value : (Char.ofNat (a * 0x40 + x)).toNat = a * 0x40 + x := toNat_ofNat (.inl (by omega))
  have head : (a * 0x40 + x) / 0x40 = a := by omega
  have tail : (a * 0x40 + x) % 0x40 = x := by omega
  rw [encodeChar, value, if_neg (by omega), if_pos (by omega), head, tail]

/-- The bytes of a character with sixteen bits. -/
theorem encodeChar_three {a x y : Nat} (ha : a < 0x10) (hx : x < 0x40) (hy : y < 0x40)
    (short : a = 0 → 0x20 ≤ x) (surrogate : a = 0xd → x < 0x20) :
    encodeChar (Char.ofNat ((a * 0x40 + x) * 0x40 + y)) =
      [.ofNat (0xe0 + a), .ofNat (0x80 + x), .ofNat (0x80 + y)] := by
  have value : (Char.ofNat ((a * 0x40 + x) * 0x40 + y)).toNat = (a * 0x40 + x) * 0x40 + y :=
    toNat_ofNat (by unfold Nat.isValidChar; omega)
  have head : ((a * 0x40 + x) * 0x40 + y) / 0x1000 = a := by omega
  have middle : ((a * 0x40 + x) * 0x40 + y) / 0x40 % 0x40 = x := by omega
  have tail : ((a * 0x40 + x) * 0x40 + y) % 0x40 = y := by omega
  rw [encodeChar, value, if_neg (by omega), if_neg (by omega), if_pos (by omega), head, middle, tail]

/-- The bytes of a character with more bits. -/
theorem encodeChar_four {a x y z : Nat} (ha : a < 5) (hx : x < 0x40) (hy : y < 0x40) (hz : z < 0x40)
    (short : a = 0 → 0x10 ≤ x) (large : a = 4 → x < 0x10) :
    encodeChar (Char.ofNat (((a * 0x40 + x) * 0x40 + y) * 0x40 + z)) =
      [.ofNat (0xf0 + a), .ofNat (0x80 + x), .ofNat (0x80 + y), .ofNat (0x80 + z)] := by
  have value : (Char.ofNat (((a * 0x40 + x) * 0x40 + y) * 0x40 + z)).toNat =
      ((a * 0x40 + x) * 0x40 + y) * 0x40 + z :=
    toNat_ofNat (by unfold Nat.isValidChar; omega)
  have head : (((a * 0x40 + x) * 0x40 + y) * 0x40 + z) / 0x40000 = a := by omega
  have second : (((a * 0x40 + x) * 0x40 + y) * 0x40 + z) / 0x1000 % 0x40 = x := by omega
  have third : (((a * 0x40 + x) * 0x40 + y) * 0x40 + z) / 0x40 % 0x40 = y := by omega
  have tail : (((a * 0x40 + x) * 0x40 + y) * 0x40 + z) % 0x40 = z := by omega
  rw [encodeChar, value, if_neg (by omega), if_neg (by omega), if_neg (by omega), head, second,
    third, tail]

/-- A byte of ASCII is a character. -/
theorem decodeFrom_ascii (index : Nat) (done : List Char) {b : UInt8} (rest : List UInt8)
    (h : b.toNat < 0x80) :
    decodeFrom index done none (b :: rest) =
      decodeFrom (index + 1) (Char.ofNat b.toNat :: done) none rest := by
  rw [decodeFrom, if_pos h]

/-- Any other byte opens a character. -/
theorem decodeFrom_lead (index : Nat) (done : List Char) {b : UInt8} {o : Open} (rest : List UInt8)
    (h : 0x80 ≤ b.toNat) (opens : lead b.toNat = some o) :
    decodeFrom index done none (b :: rest) = decodeFrom (index + 1) done (some o) rest := by
  rw [decodeFrom, if_neg (by omega), opens]

/-- The last byte of an open character completes it. -/
theorem decodeFrom_last (index : Nat) (done : List Char) {b : UInt8} (rest : List UInt8)
    {count low high value : Nat} (h : low ≤ b.toNat ∧ b.toNat ≤ high) :
    decodeFrom index done (some ⟨count, 0, low, high, value⟩) (b :: rest) =
      decodeFrom (index + 1) (Char.ofNat (value * 0x40 + (b.toNat - 0x80)) :: done) none rest := by
  rw [decodeFrom, if_pos h]
  rfl

/-- Any other byte of an open character leaves it open. -/
theorem decodeFrom_next (index : Nat) (done : List Char) {b : UInt8} (rest : List UInt8)
    {count more low high value : Nat} (h : low ≤ b.toNat ∧ b.toNat ≤ high) :
    decodeFrom index done (some ⟨count, more + 1, low, high, value⟩) (b :: rest) =
      decodeFrom (index + 1) done
        (some ⟨count + 1, more, 0x80, 0xbf, value * 0x40 + (b.toNat - 0x80)⟩) rest := by
  rw [decodeFrom, if_pos h]
  rfl

/-- A character that is open needs another byte that fits. -/
theorem exists_cons_of_decodeFrom_some {index : Nat} {done t : List Char}
    {count more low high value : Nat} {bytes : List UInt8}
    (h : decodeFrom index done (some ⟨count, more, low, high, value⟩) bytes = .ok t) :
    ∃ b rest, bytes = b :: rest ∧ low ≤ b.toNat ∧ b.toNat ≤ high := by
  cases bytes with
  | nil => cases h
  | cons b rest =>
    rw [decodeFrom] at h
    split at h
    · rename_i range
      exact ⟨b, rest, rfl, range.1, range.2⟩
    · cases h

/-- The two bytes that complete each other to a character. -/
theorem decodeFrom_two (index : Nat) (done : List Char) (rest : List UInt8) {a x : Nat}
    (low : 2 ≤ a) (high : a < 0x20) (hx : x < 0x40) :
    decodeFrom index done none (.ofNat (0xc0 + a) :: .ofNat (0x80 + x) :: rest) =
      decodeFrom (index + 2) (Char.ofNat (a * 0x40 + x) :: done) none rest := by
  have first : (UInt8.ofNat (0xc0 + a)).toNat = 0xc0 + a := toNat_byte (by omega)
  have second : (UInt8.ofNat (0x80 + x)).toNat = 0x80 + x := toNat_byte (by omega)
  rw [decodeFrom_lead _ _ _ (by omega) (first ▸ lead_two low high), openTwo,
    decodeFrom_last _ _ _ (by omega), second, Nat.add_sub_cancel_left]

/-- The three bytes that complete each other to a character. -/
theorem decodeFrom_three (index : Nat) (done : List Char) (rest : List UInt8) {a x y : Nat}
    (ha : a < 0x10) (hx : x < 0x40) (hy : y < 0x40)
    (short : a = 0 → 0x20 ≤ x) (surrogate : a = 0xd → x < 0x20) :
    decodeFrom index done none (.ofNat (0xe0 + a) :: .ofNat (0x80 + x) :: .ofNat (0x80 + y) :: rest) =
      decodeFrom (index + 3) (Char.ofNat ((a * 0x40 + x) * 0x40 + y) :: done) none rest := by
  have first : (UInt8.ofNat (0xe0 + a)).toNat = 0xe0 + a := toNat_byte (by omega)
  have second : (UInt8.ofNat (0x80 + x)).toNat = 0x80 + x := toNat_byte (by omega)
  have third : (UInt8.ofNat (0x80 + y)).toNat = 0x80 + y := toNat_byte (by omega)
  have range : (if a = 0 then 0xa0 else 0x80) ≤ 0x80 + x ∧
      0x80 + x ≤ (if a = 0xd then 0x9f else 0xbf) := by
    constructor <;> split <;> omega
  rw [decodeFrom_lead _ _ _ (by omega) (first ▸ lead_three ha), openThree,
    decodeFrom_next _ _ _ (by rw [second]; exact range), decodeFrom_last _ _ _ (by omega), second, third,
    Nat.add_sub_cancel_left, Nat.add_sub_cancel_left]

/-- The four bytes that complete each other to a character. -/
theorem decodeFrom_four (index : Nat) (done : List Char) (rest : List UInt8) {a x y z : Nat}
    (ha : a < 5) (hx : x < 0x40) (hy : y < 0x40) (hz : z < 0x40)
    (short : a = 0 → 0x10 ≤ x) (large : a = 4 → x < 0x10) :
    decodeFrom index done none
        (.ofNat (0xf0 + a) :: .ofNat (0x80 + x) :: .ofNat (0x80 + y) :: .ofNat (0x80 + z) :: rest) =
      decodeFrom (index + 4) (Char.ofNat (((a * 0x40 + x) * 0x40 + y) * 0x40 + z) :: done) none
        rest := by
  have first : (UInt8.ofNat (0xf0 + a)).toNat = 0xf0 + a := toNat_byte (by omega)
  have second : (UInt8.ofNat (0x80 + x)).toNat = 0x80 + x := toNat_byte (by omega)
  have third : (UInt8.ofNat (0x80 + y)).toNat = 0x80 + y := toNat_byte (by omega)
  have fourth : (UInt8.ofNat (0x80 + z)).toNat = 0x80 + z := toNat_byte (by omega)
  have range : (if a = 0 then 0x90 else 0x80) ≤ 0x80 + x ∧
      0x80 + x ≤ (if a = 4 then 0x8f else 0xbf) := by
    constructor <;> split <;> omega
  rw [decodeFrom_lead _ _ _ (by omega) (first ▸ lead_four ha), openFour,
    decodeFrom_next _ _ _ (by rw [second]; exact range), decodeFrom_next _ _ _ (by omega),
    decodeFrom_last _ _ _ (by omega), second, third, fourth, Nat.add_sub_cancel_left,
    Nat.add_sub_cancel_left, Nat.add_sub_cancel_left]

/-- The bytes of a character are read as the character. -/
theorem decodeFrom_encodeChar (index : Nat) (done : List Char) (c : Char) (rest : List UInt8) :
    decodeFrom index done none (encodeChar c ++ rest) =
      decodeFrom (index + (encodeChar c).length) (c :: done) none rest := by
  have valid := isValidChar_toNat c
  unfold encodeChar
  dsimp only
  split
  · have first : (UInt8.ofNat c.toNat).toNat = c.toNat := toNat_byte (by omega)
    rw [List.singleton_append, decodeFrom_ascii _ _ _ (by omega), first, Char.ofNat_toNat]
    rfl
  split
  · have value : c.toNat / 0x40 * 0x40 + c.toNat % 0x40 = c.toNat := by omega
    rw [List.cons_append, List.singleton_append,
      decodeFrom_two _ _ _ (by omega) (by omega) (by omega), value, Char.ofNat_toNat]
    rfl
  split
  · have value : (c.toNat / 0x1000 * 0x40 + c.toNat / 0x40 % 0x40) * 0x40 + c.toNat % 0x40 =
        c.toNat := by omega
    rw [List.cons_append, List.cons_append, List.singleton_append,
      decodeFrom_three _ _ _ (by omega) (by omega) (by omega) (by omega) (by omega), value,
      Char.ofNat_toNat]
    rfl
  · have value : ((c.toNat / 0x40000 * 0x40 + c.toNat / 0x1000 % 0x40) * 0x40 +
        c.toNat / 0x40 % 0x40) * 0x40 + c.toNat % 0x40 = c.toNat := by omega
    rw [List.cons_append, List.cons_append, List.cons_append, List.singleton_append,
      decodeFrom_four _ _ _ (by omega) (by omega) (by omega) (by omega) (by omega) (by omega), value,
      Char.ofNat_toNat]
    rfl

/-- What is read starts with the bytes of a character. -/
theorem exists_encodeChar_of_decodeFrom {index : Nat} {done t : List Char} {b : UInt8}
    {rest : List UInt8} (h : decodeFrom index done none (b :: rest) = .ok t) :
    ∃ c after, b :: rest = encodeChar c ++ after := by
  -- The size of the first byte tells how many follow it, and each must be in its range.
  by_cases one : b.toNat < 0x80
  · refine ⟨Char.ofNat b.toNat, rest, ?_⟩
    rw [encodeChar_one one, UInt8.ofNat_toNat, List.singleton_append]
  by_cases none : b.toNat < 0xc2 ∨ 0xf4 < b.toNat
  · rw [decodeFrom, if_neg one, lead_eq_none none] at h
    cases h
  by_cases two : b.toNat < 0xe0
  · obtain ⟨a, ha⟩ : ∃ a, b.toNat = 0xc0 + a := ⟨b.toNat - 0xc0, by omega⟩
    rw [decodeFrom_lead _ _ _ (by omega) (ha ▸ lead_two (by omega) (by omega)), openTwo] at h
    obtain ⟨b₁, rest, rfl, low, high⟩ := exists_cons_of_decodeFrom_some h
    obtain ⟨x, hx⟩ : ∃ x, b₁.toNat = 0x80 + x := ⟨b₁.toNat - 0x80, by omega⟩
    refine ⟨Char.ofNat (a * 0x40 + x), rest, ?_⟩
    rw [encodeChar_two (by omega) (by omega) (by omega), ← ha, ← hx, UInt8.ofNat_toNat,
      UInt8.ofNat_toNat]
    rfl
  by_cases three : b.toNat < 0xf0
  · obtain ⟨a, ha⟩ : ∃ a, b.toNat = 0xe0 + a := ⟨b.toNat - 0xe0, by omega⟩
    rw [decodeFrom_lead _ _ _ (by omega) (ha ▸ lead_three (by omega)), openThree] at h
    obtain ⟨b₁, rest, rfl, low, high⟩ := exists_cons_of_decodeFrom_some h
    rw [decodeFrom_next _ _ _ ⟨low, high⟩] at h
    obtain ⟨b₂, rest, rfl, low₂, high₂⟩ := exists_cons_of_decodeFrom_some h
    obtain ⟨x, hx⟩ : ∃ x, b₁.toNat = 0x80 + x := ⟨b₁.toNat - 0x80, by split at low <;> omega⟩
    obtain ⟨y, hy⟩ : ∃ y, b₂.toNat = 0x80 + y := ⟨b₂.toNat - 0x80, by omega⟩
    refine ⟨Char.ofNat ((a * 0x40 + x) * 0x40 + y), rest, ?_⟩
    rw [encodeChar_three (by omega) (by split at high <;> omega) (by omega)
      (by split at low <;> omega) (by split at high <;> omega), ← ha, ← hx, ← hy,
      UInt8.ofNat_toNat, UInt8.ofNat_toNat, UInt8.ofNat_toNat]
    rfl
  · obtain ⟨a, ha⟩ : ∃ a, b.toNat = 0xf0 + a := ⟨b.toNat - 0xf0, by omega⟩
    rw [decodeFrom_lead _ _ _ (by omega) (ha ▸ lead_four (by omega)), openFour] at h
    obtain ⟨b₁, rest, rfl, low, high⟩ := exists_cons_of_decodeFrom_some h
    rw [decodeFrom_next _ _ _ ⟨low, high⟩] at h
    obtain ⟨b₂, rest, rfl, low₂, high₂⟩ := exists_cons_of_decodeFrom_some h
    rw [decodeFrom_next _ _ _ ⟨low₂, high₂⟩] at h
    obtain ⟨b₃, rest, rfl, low₃, high₃⟩ := exists_cons_of_decodeFrom_some h
    obtain ⟨x, hx⟩ : ∃ x, b₁.toNat = 0x80 + x := ⟨b₁.toNat - 0x80, by split at low <;> omega⟩
    obtain ⟨y, hy⟩ : ∃ y, b₂.toNat = 0x80 + y := ⟨b₂.toNat - 0x80, by omega⟩
    obtain ⟨z, hz⟩ : ∃ z, b₃.toNat = 0x80 + z := ⟨b₃.toNat - 0x80, by omega⟩
    refine ⟨Char.ofNat (((a * 0x40 + x) * 0x40 + y) * 0x40 + z), rest, ?_⟩
    rw [encodeChar_four (by omega) (by split at high <;> omega) (by omega) (by omega)
      (by split at low <;> omega) (by split at high <;> omega), ← ha, ← hx, ← hy, ← hz,
      UInt8.ofNat_toNat, UInt8.ofNat_toNat, UInt8.ofNat_toNat, UInt8.ofNat_toNat]
    rfl

/-- A character is written as at least one byte. -/
theorem encodeChar_ne_nil (c : Char) : encodeChar c ≠ [] := by
  unfold encodeChar
  dsimp only
  repeat' split
  all_goals exact List.cons_ne_nil _ _

/-- What a text is written as is read as the text. -/
theorem decodeFrom_encode (index : Nat) (done s : List Char) :
    decodeFrom index done none (encode s) = .ok (done.reverse ++ s) := by
  induction s generalizing index done with
  | nil => simp [decodeFrom]
  | cons c s ih =>
    rw [encode_cons, decodeFrom_encodeChar, ih, List.reverse_cons, List.append_assoc,
      List.singleton_append]

/-- What is read as a text is what the text is written as. -/
theorem eq_encode_of_decodeFrom {index : Nat} {done t : List Char} {bytes : List UInt8}
    (h : decodeFrom index done none bytes = .ok t) : ∃ s, bytes = encode s ∧ t = done.reverse ++ s := by
  -- One character after the other is taken from the front.
  cases bytes with
  | nil =>
    cases h
    exact ⟨[], rfl, (List.append_nil _).symm⟩
  | cons b rest =>
    obtain ⟨c, after, split⟩ := exists_encodeChar_of_decodeFrom h
    rw [split, decodeFrom_encodeChar] at h
    have shorter : after.length < (b :: rest).length := by
      have some := List.length_pos_iff.2 (encodeChar_ne_nil c)
      rw [split, List.length_append]
      omega
    obtain ⟨s, rfl, rfl⟩ := eq_encode_of_decodeFrom h
    refine ⟨c :: s, split, ?_⟩
    rw [List.reverse_cons, List.append_assoc, List.singleton_append]
termination_by bytes.length

/-- A byte sequence is read as a text exactly if it is what the text is written as. -/
theorem decode_eq_ok_iff {bytes : List UInt8} {t : List Char} :
    decode bytes = .ok t ↔ bytes = encode t := by
  constructor
  · intro h
    obtain ⟨s, rfl, rfl⟩ := eq_encode_of_decodeFrom h
    rfl
  · rintro rfl
    exact decodeFrom_encode 0 [] t

end Detour.Text.Utf8
