import Detour.Proofs.Text.Utf8
import Mathlib.Order.Bounds.Basic
/-!
# Where bytes are no text

A character that is open is completed by the bytes that follow, or they end before, or one of them does not
fit and no character goes on like this. Main statement: the bytes in front of the place that a fault names
are the longest text in front, and the fault says whether all bytes from there on begin a character or how
many of them do.
-/

namespace Detour.Text.Utf8

/-- Some bytes of a character, from its first one on, but not all of them. -/
def Begins (bytes : List UInt8) : Prop := ∃ c, bytes <+: encodeChar c ∧ bytes ≠ encodeChar c

/-- The bytes of a text. -/
def IsText (bytes : List UInt8) : Prop := ∃ t, bytes = encode t

/-- The place that a fault names. -/
def Fault.index : Fault → Nat
  | .invalid _ index | .incomplete index => index

/-- A fault says where and how bytes cease to be a text. -/
structure Fault.Points (bytes : List UInt8) (fault : Fault) : Prop where
  /-- There are bytes from its place on. -/
  below : fault.index < bytes.length
  /-- The bytes in front of its place are a text. -/
  front : IsText (bytes.take fault.index)
  /-- No more bytes in front are a text. -/
  longest : ∀ n, fault.index < n → n ≤ bytes.length → ¬IsText (bytes.take n)
  /-- Bytes are missing exactly if those from its place on begin a character. -/
  missing : (∃ n, fault = .incomplete n) ↔ Begins (bytes.drop fault.index)
  /-- Otherwise it counts the bytes from its place on that begin a character, or one if none do. -/
  count : ∀ k n, fault = .invalid k n → ∃ run,
    IsGreatest {m | m ≤ (bytes.drop n).length ∧ Begins ((bytes.drop n).take m)} run ∧ k = max 1 run

/-- Bytes that are read as one character are its bytes. -/
theorem eq_encodeChar_of_decode {bytes : List UInt8} {c : Char} (h : decode bytes = .ok [c]) :
    bytes = encodeChar c := by
  rw [decode_eq_ok_iff.1 h, encode_cons, encode_nil, List.append_nil]

/-- The bytes of a character are read as the character. -/
theorem decode_encodeChar (c : Char) : decode (encodeChar c) = .ok [c] := by
  rw [decode_eq_ok_iff, encode_cons, encode_nil, List.append_nil]

/-- What is read as a text is read on behind it. -/
theorem decode_encode_append (s : List Char) (rest : List UInt8) :
    decode (encode s ++ rest) = decodeFrom (encode s).length s.reverse none rest := by
  have general : ∀ index done, decodeFrom index done none (encode s ++ rest) =
      decodeFrom (index + (encode s).length) (s.reverse ++ done) none rest := by
    induction s with
    | nil => intro index done; simp
    | cons c s ih =>
      intro index done
      rw [encode_cons, List.append_assoc, decodeFrom_encodeChar, ih, List.length_append, Nat.add_assoc,
        List.reverse_cons, List.append_assoc, List.singleton_append]
  rw [decode, general, Nat.zero_add, List.append_nil]

/-! ## Bytes that begin a character -/

/-- No character starts with all the bytes of another one. -/
theorem Begins.not_prefix {bytes : List UInt8} (h : Begins bytes) (c : Char) : ¬encodeChar c <+: bytes := by
  intro start
  obtain ⟨d, less, differs⟩ := h
  obtain ⟨rest, whole⟩ := start.trans less
  -- Both are read from the bytes of the longer one.
  have read : decode (encode [c] ++ rest) = .ok [d] := by
    rw [encode_cons, encode_nil, List.append_nil, whole, decode_encodeChar]
  rw [decode_encode_append] at read
  obtain ⟨s, rfl, both⟩ := eq_encode_of_decodeFrom read
  have none : s = [] := by
    have := congrArg List.length both
    simpa using this
  rw [none, encode_nil, List.append_nil] at whole
  exact differs (less.eq_of_length (Nat.le_antisymm less.length_le (whole ▸ start.length_le)))

/-! ## How a character goes on -/

/-- The next byte of an open character is in a range of bytes. -/
structure Open.HasRange (o : Open) : Prop where
  /-- Some byte is. -/
  some : o.low ≤ o.high
  /-- Only bytes are. -/
  byte : o.high < 0x100
  /-- Its first byte has been read. -/
  opened : 1 ≤ o.count

/-- A byte inside of a character may be any with the first bits of such bytes. -/
theorem hasRange_inside (count more value : Nat) :
    Open.HasRange ⟨count + 1, more, 0x80, 0xbf, value⟩ :=
  ⟨by simp, by simp, Nat.le_add_left 1 count⟩

/-- The first byte of several opens a character of which it is the only byte so far. -/
theorem hasRange_of_lead {n : Nat} {o : Open} (h : lead n = some o) : o.HasRange ∧ o.count = 1 := by
  unfold lead at h
  have all : ∀ {more low high value : Nat}, low ≤ high → high < 0x100 →
      (⟨1, more, low, high, value⟩ : Open).HasRange ∧ 1 = 1 := fun some byte => ⟨⟨some, byte, by simp⟩, rfl⟩
  split at h
  · cases h; exact all (by decide) (by decide)
  split at h
  · cases h; exact all (by decide) (by decide)
  split at h
  · cases h; exact all (by decide) (by decide)
  split at h
  · cases h; exact all (by decide) (by decide)
  split at h
  · cases h; exact all (by decide) (by decide)
  split at h
  · cases h; exact all (by decide) (by decide)
  split at h
  · cases h; exact all (by decide) (by decide)
  · cases h

/-- Bytes complete the character that is open, if one is, or else are a character. -/
def Completes (o : Option Open) (own : List UInt8) (c : Char) : Prop :=
  ∀ index done rest, decodeFrom index done o (own ++ rest) =
    decodeFrom (index + own.length) (c :: done) none rest

/-- Bytes are a character if they are read as one. -/
theorem Completes.eq_encodeChar {own : List UInt8} {c : Char} (h : Completes none own c) :
    own = encodeChar c := by
  apply eq_encodeChar_of_decode
  have read := h 0 [] []
  rwa [List.append_nil] at read

/-- A byte that leaves a character open comes first of those that complete it. -/
theorem Completes.cons {o o' : Option Open} {b : UInt8} {own : List UInt8} {c : Char}
    (step : ∀ index done rest, decodeFrom index done o (b :: rest) = decodeFrom (index + 1) done o' rest)
    (h : Completes o' own c) : Completes o (b :: own) c := by
  intro index done rest
  rw [List.cons_append, step, h, List.length_cons, Nat.add_assoc, Nat.add_comm 1]

/-- A byte that fits completes an open character or leaves another one open. -/
inductive Open.Step (o : Open) (b : UInt8) : Prop where
  /-- It is the last byte. -/
  | last {c : Char} (read : Completes (some o) [b] c)
  /-- Fewer bytes are missing behind it. -/
  | next {o' : Open} (range : o'.HasRange) (count : o'.count = o.count + 1) (fewer : o'.more < o.more)
    (read : ∀ index done rest,
      decodeFrom index done (some o) (b :: rest) = decodeFrom (index + 1) done (some o') rest)

/-- A byte in the range of an open character is read as a part of it. -/
theorem Open.step {o : Open} {b : UInt8} (fits : o.low ≤ b.toNat ∧ b.toNat ≤ o.high) : o.Step b := by
  obtain ⟨count, more, low, high, value⟩ := o
  cases more with
  | zero => exact .last fun index done rest => decodeFrom_last index done rest fits
  | succ more =>
    exact .next (hasRange_inside count more _) rfl (Nat.lt_succ_self more)
      fun index done rest => decodeFrom_next index done rest fits

/-- Any other byte is refused, with the bytes that have been read. -/
theorem decodeFrom_unfit (index : Nat) (done : List Char) {o : Open} {b : UInt8} (rest : List UInt8)
    (h : ¬(o.low ≤ b.toNat ∧ b.toNat ≤ o.high)) :
    decodeFrom index done (some o) (b :: rest) = .error (.invalid o.count (index - o.count)) := by
  rw [decodeFrom, if_neg h]

/-- Every open character can be completed. -/
theorem exists_completes {o : Open} (h : o.HasRange) : ∃ own c, own ≠ [] ∧ Completes (some o) own c := by
  -- The least byte that fits is always one of them.
  have byte : (UInt8.ofNat o.low).toNat = o.low := toNat_byte (Nat.lt_of_le_of_lt h.some h.byte)
  have fits : o.low ≤ (UInt8.ofNat o.low).toNat ∧ (UInt8.ofNat o.low).toNat ≤ o.high := by
    rw [byte]
    exact ⟨Nat.le_refl _, h.some⟩
  cases o.step fits with
  | last read => exact ⟨_, _, List.cons_ne_nil _ _, read⟩
  | next range _ fewer read =>
    obtain ⟨own, c, -, completes⟩ := exists_completes range
    exact ⟨_, c, List.cons_ne_nil _ own, completes.cons read⟩
termination_by o.more

/-- How a character goes on of which `count` bytes have been read, in front of the bytes `rest`. -/
inductive Course (o : Option Open) (count : Nat) (rest : List UInt8) : Prop where
  /-- They complete it. -/
  | completed (own : List UInt8) {after : List UInt8} {c : Char} (cut : rest = own ++ after) (read : Completes o own c)
  /-- They end before it is complete. -/
  | ended {missing : List UInt8} {c : Char} (some : missing ≠ []) (read : Completes o (rest ++ missing) c)
    (fault : ∀ index done, decodeFrom (index + count) done o rest = .error (.incomplete index))
  /-- One of them does not fit. -/
  | refused (own : List UInt8) {after missing : List UInt8} {b : UInt8} {c : Char} (cut : rest = own ++ b :: after)
    (some : missing ≠ []) (read : Completes o (own ++ missing) c)
    (fault : ∀ index done more, decodeFrom (index + count) done o (own ++ b :: more) =
      .error (.invalid (max 1 (count + own.length)) index))

/-- A character goes on as it does behind a byte that leaves it open. -/
theorem Course.cons {o o' : Option Open} {count : Nat} {b : UInt8} {rest : List UInt8}
    (step : ∀ index done rest, decodeFrom index done o (b :: rest) = decodeFrom (index + 1) done o' rest)
    (h : Course o' (count + 1) rest) : Course o count (b :: rest) := by
  cases h with
  | completed own cut read => exact .completed (b :: own) (congrArg (b :: ·) cut) (read.cons step)
  | ended some read fault =>
    refine .ended some (read.cons step) fun index done => ?_
    rw [step, Nat.add_assoc, fault]
  | refused own cut some read fault =>
    refine .refused (b :: own) (congrArg (b :: ·) cut) some (read.cons step) fun index done more => ?_
    rw [List.cons_append, step, Nat.add_assoc, fault, List.length_cons, Nat.add_assoc,
      Nat.add_comm 1]

/-- An open character goes on in one of these ways. -/
theorem course_of_hasRange {o : Open} (h : o.HasRange) (rest : List UInt8) :
    Course (some o) o.count rest := by
  induction rest generalizing o with
  | nil =>
    obtain ⟨own, c, some, read⟩ := exists_completes h
    refine .ended some read fun index done => ?_
    rw [decodeFrom, Nat.add_sub_cancel]
  | cons b rest ih =>
    by_cases fits : o.low ≤ b.toNat ∧ b.toNat ≤ o.high
    · cases o.step fits with
      | last read => exact .completed [b] rfl read
      | next range count _ read =>
        have course := ih range
        rw [count] at course
        exact course.cons read
    · obtain ⟨own, c, some, read⟩ := exists_completes h
      refine .refused [] rfl some read fun index done more => ?_
      have counted : max 1 (o.count + 0) = o.count := Nat.max_eq_right h.opened
      rw [List.nil_append, decodeFrom_unfit _ _ _ fits, Nat.add_sub_cancel, List.length_nil, counted]

/-- So does a character from its first byte on. -/
theorem course_cons (b : UInt8) (rest : List UInt8) : Course none 0 (b :: rest) := by
  by_cases one : b.toNat < 0x80
  · exact .completed [b] rfl fun index done rest => decodeFrom_ascii index done rest one
  cases opens : lead b.toNat with
  | some o =>
    obtain ⟨range, count⟩ := hasRange_of_lead opens
    have course := course_of_hasRange range rest
    rw [count] at course
    exact course.cons fun index done rest => decodeFrom_lead index done rest (by omega) opens
  | none =>
    refine .refused [] rfl (encodeChar_ne_nil 'a')
      (fun index done rest => decodeFrom_encodeChar index done 'a' rest) fun index done more => ?_
    rw [List.nil_append, decodeFrom, if_neg one, opens]
    rfl

/-! ## What a fault says -/

/-- Bytes that start with no character, and what reading them ends with. -/
inductive Broken (rest : List UInt8) : Prop where
  /-- They begin a character. -/
  | ended (some : rest ≠ []) (begins : Begins rest)
    (fault : ∀ index done, decodeFrom index done none rest = .error (.incomplete index))
  /-- Some of them do, and no character goes on like this. -/
  | refused (own : List UInt8) {after : List UInt8} {b : UInt8} (cut : rest = own ++ b :: after) (begins : Begins own)
    (fault : ∀ index done more, decodeFrom index done none (own ++ b :: more) =
      .error (.invalid (max 1 own.length) index))

/-- Bytes are a text with such bytes behind it, if with any. -/
theorem exists_text_append (bytes : List UInt8) :
    ∃ t rest, bytes = encode t ++ rest ∧ (rest = [] ∨ Broken rest) := by
  cases bytes with
  | nil => exact ⟨[], [], rfl, .inl rfl⟩
  | cons b bytes =>
    cases course_cons b bytes with
    | @completed own after c cut read =>
      have char := read.eq_encodeChar
      have shorter : after.length < (b :: bytes).length := by
        have some := List.length_pos_iff.2 (encodeChar_ne_nil c)
        rw [cut, char, List.length_append]
        omega
      obtain ⟨t, rest, split, stop⟩ := exists_text_append after
      refine ⟨c :: t, rest, ?_, stop⟩
      rw [cut, split, char, encode_cons, List.append_assoc]
    | @ended missing c some read fault =>
      have begins : Begins (b :: bytes) := by
        refine ⟨c, ⟨missing, read.eq_encodeChar⟩, fun all => some ?_⟩
        exact List.append_right_eq_self.1 (read.eq_encodeChar.trans all.symm)
      exact ⟨[], b :: bytes, rfl, .inr (.ended (List.cons_ne_nil _ _) begins fault)⟩
    | @refused own after missing _ c cut some read fault =>
      have begins : Begins own := by
        refine ⟨c, ⟨missing, read.eq_encodeChar⟩, fun all => some ?_⟩
        exact List.append_right_eq_self.1 (read.eq_encodeChar.trans all.symm)
      refine ⟨[], b :: bytes, rfl, .inr (.refused own cut begins fun index done more => ?_)⟩
      have stop := fault index done more
      rwa [Nat.zero_add] at stop
termination_by bytes.length
decreasing_by exact shorter

/-- There are such bytes. -/
theorem Broken.ne_nil {rest : List UInt8} (h : Broken rest) : rest ≠ [] := by
  cases h with
  | ended some _ _ => exact some
  | refused own cut _ _ => rw [cut]; simp

/-- No character starts with bytes that are refused. -/
theorem Broken.not_prefix_of_refused {own : List UInt8} {b : UInt8} {k : Nat → Fault}
    (fault : ∀ index done more, decodeFrom index done none (own ++ b :: more) = .error (k index))
    (c : Char) : ¬own ++ [b] <+: encodeChar c := by
  rintro ⟨more, whole⟩
  have read := decode_encodeChar c
  rw [← whole, List.append_assoc, List.singleton_append, decode, fault] at read
  cases read

/-- No character is in front of such bytes. -/
theorem Broken.not_prefix {rest : List UInt8} (h : Broken rest) (c : Char) : ¬encodeChar c <+: rest := by
  cases h with
  | ended _ begins _ => exact begins.not_prefix c
  | refused own cut begins fault =>
    intro start
    -- The character is shorter than what is refused, and then too short, or it is refused.
    rw [cut, ← List.singleton_append, ← List.append_assoc] at start
    rcases List.prefix_or_prefix_of_prefix start (List.prefix_append _ _) with short | long
    · rcases List.prefix_concat_iff.1 short with all | short
      · exact not_prefix_of_refused fault c (all ▸ List.prefix_rfl)
      · exact begins.not_prefix c short
    · exact not_prefix_of_refused fault c long

/-- More bytes than those that begin a character do not begin one. -/
theorem Broken.not_begins {own front : List UInt8} {b : UInt8} {k : Nat → Fault}
    (fault : ∀ index done more, decodeFrom index done none (own ++ b :: more) = .error (k index))
    (more : own ++ [b] <+: front) : ¬Begins front := by
  rintro ⟨c, start, -⟩
  exact not_prefix_of_refused fault c (more.trans start)

/-- With more bytes a text in front is no text. -/
theorem Broken.not_isText_append {rest front : List UInt8} (h : Broken rest) (t : List Char)
    (some : front ≠ []) (less : front <+: rest) : ¬IsText (encode t ++ front) := by
  rintro ⟨s, text⟩
  have read := decode_eq_ok_iff.2 text
  rw [decode_encode_append] at read
  obtain ⟨b, after, rfl⟩ := List.exists_cons_of_ne_nil some
  obtain ⟨c, more, split⟩ := exists_encodeChar_of_decodeFrom read
  rw [split] at less
  exact h.not_prefix c ((List.prefix_append _ _).trans less)

/-- The first fault in bytes says where and how they cease to be a text. -/
theorem points_of_decode {bytes : List UInt8} {fault : Fault} (h : decode bytes = .error fault) :
    fault.Points bytes := by
  obtain ⟨t, rest, rfl, stop⟩ := exists_text_append bytes
  rw [decode_encode_append] at h
  rcases stop with rfl | stop
  · cases h
  have below : (encode t).length < (encode t ++ rest).length := by
    have some := List.length_pos_iff.2 stop.ne_nil
    rw [List.length_append]
    omega
  have front : IsText ((encode t ++ rest).take (encode t).length) := ⟨t, List.take_left⟩
  have behind : (encode t ++ rest).drop (encode t).length = rest := List.drop_left
  have longest : ∀ n, (encode t).length < n → n ≤ (encode t ++ rest).length →
      ¬IsText ((encode t ++ rest).take n) := by
    intro n more less
    rw [List.take_append, List.take_of_length_le (Nat.le_of_lt more)]
    refine stop.not_isText_append t (fun none => ?_) (List.take_prefix _ _)
    have := List.length_pos_iff.2 stop.ne_nil
    rw [List.take_eq_nil_iff, List.eq_nil_iff_length_eq_zero] at none
    omega
  cases stop with
  | ended _ begins found =>
    rw [found] at h
    cases h
    exact ⟨below, front, longest, ⟨fun _ => behind.symm ▸ begins, fun _ => ⟨_, rfl⟩⟩, nofun⟩
  | @refused own after b cut begins found =>
    rw [cut, found] at h
    cases h
    have reaches : own ++ [b] <+: rest := by rw [cut]; simp
    refine ⟨below, front, longest, ⟨nofun, fun all => ?_⟩, ?_⟩
    · rw [Fault.index, behind] at all
      exact absurd all (Broken.not_begins found reaches)
    · rintro k n ⟨rfl, rfl⟩
      rw [behind]
      refine ⟨own.length, ⟨⟨?_, ?_⟩, ?_⟩, rfl⟩
      · rw [cut, List.length_append]
        exact Nat.le_add_right _ _
      · rw [cut, List.take_left]
        exact begins
      · rintro m ⟨less, run⟩
        by_contra longer
        refine Broken.not_begins found (List.prefix_take_iff.2 ⟨reaches, ?_⟩) run
        rw [List.length_append, List.length_singleton]
        omega

end Detour.Text.Utf8
