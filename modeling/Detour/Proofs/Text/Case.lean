import Detour.Proofs.Text.Ascii
import Detour.Proofs.Text.Utf8
import Detour.Text.Split
/-!
# Letter case

Texts that differ only in the case of their letters of ASCII are those with the same text in small letters.
Main statements: the digits of a text, its pieces between separators and what its bytes are read as do
not depend on this case.
-/

namespace Detour.Text

/-! ### Characters -/

/-- Only letters of ASCII have a small letter of their own. -/
theorem toLower_of_le {c : Char} (h : 0x80 ≤ c.toNat) : c.toLower = c := by
  have beyond : ¬(c.val ≥ 'A'.val ∧ c.val ≤ 'Z'.val) := fun range => by
    have last : c.toNat ≤ 'Z'.toNat := range.2
    exact absurd (h.trans last) (by decide)
  exact dif_neg beyond

/-- What is the same for the large and the small letters of ASCII does not depend on letter case. -/
theorem apply_toLower {β : Type} {f : Char → β}
    (all : ∀ a ∈ List.range 8, ∀ b ∈ List.range 16,
      f (Char.ofNat (a * 16 + b)).toLower = f (Char.ofNat (a * 16 + b))) (c : Char) :
    f c.toLower = f c := by
  by_cases ascii : c.toNat < 0x80
  · exact forall_of_ascii (P := fun d => f d.toLower = f d) all ascii
  · rw [toLower_of_le (Nat.not_lt.1 ascii)]

/-- A small letter has itself as its small letter. -/
theorem toLower_toLower (c : Char) : c.toLower.toLower = c.toLower := apply_toLower (by decide) c

/-- The small letter of a letter is a letter. -/
theorem isAlpha_toLower (c : Char) : c.toLower.isAlpha = c.isAlpha := apply_toLower (by decide) c

/-- Digits are the same as small letters. -/
theorem isDigit_toLower (c : Char) : c.toLower.isDigit = c.isDigit := apply_toLower (by decide) c

/-- What is no letter stays as it is. -/
theorem toLower_of_not_isAlpha {c : Char} (h : c.isAlpha = false) : c.toLower = c := by
  by_cases ascii : c.toNat < 0x80
  · refine forall_of_ascii (P := fun d => d.isAlpha = false → d.toLower = d) ?_ ascii h
    decide
  · exact toLower_of_le (Nat.not_lt.1 ascii)

/-- Nothing else becomes a sign that is no letter. -/
theorem toLower_eq_iff {c sign : Char} (h : sign.isAlpha = false) : c.toLower = sign ↔ c = sign := by
  constructor
  · rintro rfl
    rw [isAlpha_toLower] at h
    exact (toLower_of_not_isAlpha h).symm
  · rintro rfl
    exact toLower_of_not_isAlpha h

/-- The value of a digit, whatever the base. -/
def digitValue? (c : Char) : Option Nat :=
  if '0' ≤ c ∧ c ≤ '9' then some (c.toNat - 48)
  else if 'a' ≤ c ∧ c ≤ 'f' then some (c.toNat - 87)
  else if 'A' ≤ c ∧ c ≤ 'F' then some (c.toNat - 55)
  else none

/-- A digit is one of the bases above its value. -/
theorem digit?_eq (base : Nat) (c : Char) : digit? base c = (digitValue? c).filter (· < base) := by
  unfold digit? digitValue?
  split_ifs <;> simp_all [Option.filter]

/-- Large and small letters are the same digits. -/
theorem digit?_toLower (base : Nat) (c : Char) : digit? base c.toLower = digit? base c := by
  rw [digit?_eq, digit?_eq, apply_toLower (f := digitValue?) (by decide)]

/-! ### Texts -/

/-- A text in small letters of ASCII. -/
def lowered (s : List Char) : List Char := s.map Char.toLower

@[simp] theorem lowered_nil : lowered [] = [] := rfl

@[simp] theorem lowered_cons (c : Char) (s : List Char) : lowered (c :: s) = c.toLower :: lowered s := rfl

@[simp] theorem lowered_append (s t : List Char) : lowered (s ++ t) = lowered s ++ lowered t :=
  List.map_append

@[simp] theorem length_lowered (s : List Char) : (lowered s).length = s.length := List.length_map _

@[simp] theorem isEmpty_lowered (s : List Char) : (lowered s).isEmpty = s.isEmpty := List.isEmpty_map

@[simp] theorem lowered_lowered (s : List Char) : lowered (lowered s) = lowered s := by
  rw [lowered, lowered, List.map_map]
  exact List.map_congr_left fun c _ => toLower_toLower c

/-- A text in small letters is turned around as the text is. -/
theorem reverse_lowered (s : List Char) : (lowered s).reverse = lowered s.reverse :=
  List.map_reverse.symm

/-- What does not depend on letter case holds of a text in small letters as of the text. -/
theorem forall_mem_lowered_iff {P : Char → Prop} (same : ∀ c, P c.toLower ↔ P c) {s : List Char} :
    (∀ c ∈ lowered s, P c) ↔ ∀ c ∈ s, P c :=
  List.forall_mem_map.trans (forall₂_congr fun c _ => same c)

/-- Small letters do not change where a sign that is no letter stands. -/
theorem mem_lowered_iff {s : List Char} {sign : Char} (h : sign.isAlpha = false) :
    sign ∈ lowered s ↔ sign ∈ s := by
  simp only [lowered, List.mem_map, toLower_eq_iff h, exists_eq_right]

/-- A text of small letters starts with a sign that is no letter if the text does. -/
theorem head?_lowered_eq_iff {s : List Char} {sign : Char} (h : sign.isAlpha = false) :
    (lowered s).head? = some sign ↔ s.head? = some sign := by
  cases s with
  | nil => exact Iff.rfl
  | cons c s => simp only [lowered_cons, List.head?_cons, Option.some.injEq, toLower_eq_iff h]

/-- A text of small letters ends with a sign that is no letter if the text does. -/
theorem getLast?_lowered_eq_iff {s : List Char} {sign : Char} (h : sign.isAlpha = false) :
    (lowered s).getLast? = some sign ↔ s.getLast? = some sign := by
  rw [List.getLast?_eq_head?_reverse, List.getLast?_eq_head?_reverse, reverse_lowered]
  exact head?_lowered_eq_iff h

/-- What is taken by a property that letter case does not matter for. -/
theorem takeWhile_lowered {p : Char → Bool} (same : ∀ c, p c.toLower = p c) (s : List Char) :
    (lowered s).takeWhile p = lowered (s.takeWhile p) := by
  rw [lowered, List.takeWhile_map, show p ∘ Char.toLower = p from funext same]
  rfl

/-- What is left by a property that letter case does not matter for. -/
theorem dropWhile_lowered {p : Char → Bool} (same : ∀ c, p c.toLower = p c) (s : List Char) :
    (lowered s).dropWhile p = lowered (s.dropWhile p) := by
  rw [lowered, List.dropWhile_map, show p ∘ Char.toLower = p from funext same]
  rfl

/-- The pieces between separators that are no letters. -/
theorem splitFrom_lowered {sep : Char} (h : sep.isAlpha = false) (done : List (List Char))
    (current s : List Char) :
    splitFrom sep (done.map lowered) (lowered current) (lowered s) =
      (splitFrom sep done current s).map lowered := by
  induction s generalizing done current with
  | nil => simp [splitFrom, lowered]
  | cons c rest ih =>
    rw [lowered_cons, splitFrom, splitFrom]
    by_cases same : c = sep
    · have closed := ih (current.reverse :: done) []
      rw [if_pos ((toLower_eq_iff h).2 same), if_pos same, ← closed]
      simp [lowered]
    · rw [if_neg (mt (toLower_eq_iff h).1 same), if_neg same]
      exact ih done (c :: current)

/-- The pieces between separators that are no letters. -/
theorem splitOn_lowered {sep : Char} (h : sep.isAlpha = false) (s : List Char) :
    splitOn sep (lowered s) = (splitOn sep s).map lowered :=
  splitFrom_lowered h [] [] s

/-- Digits write the same number with large and with small letters. -/
theorem digitsFrom?_lowered (base n : Nat) (s : List Char) :
    digitsFrom? base n (lowered s) = digitsFrom? base n s := by
  induction s generalizing n with
  | nil => rfl
  | cons c rest ih =>
    rw [lowered_cons, digitsFrom?, digitsFrom?, digit?_toLower]
    cases digit? base c with
    | none => rfl
    | some d => exact ih (n * base + d)

/-- A numeral writes the same number with large and with small letters. -/
theorem ofDigits?_lowered (base : Nat) (s : List Char) :
    ofDigits? base (lowered s) = ofDigits? base s := by
  rw [ofDigits?, ofDigits?, isEmpty_lowered, digitsFrom?_lowered]

/-! ### Bytes -/

namespace Utf8

/-- The byte of a small letter of ASCII for that of a large one. -/
def lowerByte (b : UInt8) : UInt8 :=
  if 65 ≤ b.toNat ∧ b.toNat ≤ 90 then .ofNat (b.toNat + 32) else b

/-- The bytes of other characters than those of ASCII stay as they are. -/
theorem lowerByte_of_le {b : UInt8} (h : 0x80 ≤ b.toNat) : lowerByte b = b := if_neg (by omega)

/-- A byte of ASCII belongs to ASCII in small letters, too, and no other byte does. -/
theorem toNat_lowerByte_lt_iff {b : UInt8} : (lowerByte b).toNat < 0x80 ↔ b.toNat < 0x80 := by
  unfold lowerByte
  split
  · rw [toNat_byte (by omega)]
    omega
  · exact Iff.rfl

/-- A small letter has itself as its small letter. -/
theorem lowerByte_lowerByte (b : UInt8) : lowerByte (lowerByte b) = lowerByte b := by
  by_cases large : 65 ≤ b.toNat ∧ b.toNat ≤ 90
  · have own : lowerByte b = .ofNat (b.toNat + 32) := if_pos large
    rw [own, lowerByte, if_neg]
    rw [toNat_byte (by omega)]
    omega
  · have own : lowerByte b = b := if_neg large
    rw [own, own]

/-- The bytes of a character outside ASCII are none of ASCII. -/
theorem le_of_mem_encodeChar {c : Char} (h : 0x80 ≤ c.toNat) :
    ∀ b ∈ encodeChar c, 0x80 ≤ b.toNat := by
  have valid := isValidChar_toNat c
  have byte {n : Nat} (low : 0x80 ≤ n) (high : n < 0x100) : 0x80 ≤ (UInt8.ofNat n).toNat := by
    rw [toNat_byte high]
    exact low
  unfold encodeChar
  dsimp only
  rw [if_neg (Nat.not_lt.2 h)]
  split_ifs
  · simp only [List.forall_mem_cons]
    exact ⟨byte (by omega) (by omega), byte (by omega) (by omega), nofun⟩
  · simp only [List.forall_mem_cons]
    exact ⟨byte (by omega) (by omega), byte (by omega) (by omega), byte (by omega) (by omega), nofun⟩
  · simp only [List.forall_mem_cons]
    exact ⟨byte (by omega) (by omega), byte (by omega) (by omega), byte (by omega) (by omega),
      byte (by omega) (by omega), nofun⟩

/-- Bytes that are none of ASCII stay as they are. -/
theorem map_lowerByte_of_le {bytes : List UInt8} (h : ∀ b ∈ bytes, 0x80 ≤ b.toNat) :
    bytes.map lowerByte = bytes :=
  (List.map_congr_left fun b found => lowerByte_of_le (h b found)).trans (List.map_id _)

/-- The bytes of the small letter of a character. -/
theorem encodeChar_toLower (c : Char) : encodeChar c.toLower = (encodeChar c).map lowerByte := by
  by_cases ascii : c.toNat < 0x80
  · refine forall_of_ascii (P := fun d => encodeChar d.toLower = (encodeChar d).map lowerByte) ?_ ascii
    decide
  · have beyond := Nat.not_lt.1 ascii
    rw [toLower_of_le beyond, map_lowerByte_of_le (le_of_mem_encodeChar beyond)]

/-- The bytes of a text in small letters. -/
theorem encode_lowered (s : List Char) : encode (lowered s) = (encode s).map lowerByte := by
  induction s with
  | nil => rfl
  | cons c s ih => rw [lowered_cons, encode_cons, encode_cons, encodeChar_toLower, ih, List.map_append]

/-- Bytes that are those of a character in small letters are those of a character. -/
theorem exists_encodeChar_of_map {bytes : List UInt8} {c : Char}
    (h : bytes.map lowerByte = encodeChar c) : ∃ d, bytes = encodeChar d := by
  by_cases ascii : c.toNat < 0x80
  · have single : encodeChar c = [.ofNat c.toNat] := if_pos ascii
    rw [single] at h
    obtain ⟨b, rfl, own⟩ := List.map_eq_singleton_iff.1 h
    have below : b.toNat < 0x80 := by
      rw [← toNat_lowerByte_lt_iff, own, toNat_byte (by omega)]
      exact ascii
    refine ⟨Char.ofNat b.toNat, ?_⟩
    rw [encodeChar_one below, UInt8.ofNat_toNat]
  · have beyond : ∀ b ∈ bytes, 0x80 ≤ b.toNat := by
      intro b found
      have own := le_of_mem_encodeChar (Nat.not_lt.1 ascii) (lowerByte b)
        (h ▸ List.mem_map_of_mem found)
      exact Nat.not_lt.1 fun below => Nat.not_lt.2 own (toNat_lowerByte_lt_iff.2 below)
    exact ⟨c, (map_lowerByte_of_le beyond).symm.trans h⟩

/-- Bytes that are those of a text in small letters are those of a text. -/
theorem exists_encode_of_map {bytes : List UInt8} {s : List Char}
    (h : bytes.map lowerByte = encode s) : ∃ t, bytes = encode t := by
  induction s generalizing bytes with
  | nil => exact ⟨[], List.map_eq_nil_iff.1 h⟩
  | cons c s ih =>
    obtain ⟨front, back, rfl, first, others⟩ := List.map_eq_append_iff.1 h
    obtain ⟨d, rfl⟩ := exists_encodeChar_of_map first
    obtain ⟨t, rfl⟩ := ih others
    exact ⟨d :: t, rfl⟩

/-- Bytes are read as a text exactly if they are in small letters, and then as this text in small
letters. -/
theorem toOption_decode_map (bytes : List UInt8) :
    (decode (bytes.map lowerByte)).toOption = (decode bytes).toOption.map lowered := by
  cases own : decode bytes with
  | ok t =>
    rw [decode_eq_ok_iff.1 own, ← encode_lowered, decode_eq_ok_iff.2 rfl]
    rfl
  | error fault =>
    -- Small letters do not make a text of bytes that are none.
    cases other : decode (bytes.map lowerByte) with
    | error _ => rfl
    | ok s =>
      obtain ⟨t, rfl⟩ := exists_encode_of_map (decode_eq_ok_iff.1 other)
      rw [decode_eq_ok_iff.2 rfl] at own
      cases own

end Utf8

end Detour.Text
