import Detour.Domain.Punycode
/-!
# The characters of a Punycode

A Punycode consists of the ASCII characters of its label, of hyphens and of digits. Main
statements: this holds of every Punycode that is written and of every one that is read. A Punycode
that ends with a hyphen has no digits, so that its label has no other characters than it has itself.
-/

namespace Detour.Domain.Punycode

/-- A digit is no hyphen. -/
theorem digit?_hyphen : digit? '-' = none := by decide

/-- A number is written with digits. -/
theorem isSome_digit?_of_mem_digits {bias place n : Nat} {c : Char} (h : c ∈ digits bias place n) :
    (digit? c).isSome = true := by
  fun_induction digits bias place n with
  | case1 place n t last =>
    have bounds := threshold_bounds bias place
    rw [List.mem_singleton] at h
    rw [h, digit?_digitChar (by omega)]
    rfl
  | case2 place n t more ih =>
    have bounds := threshold_bounds bias place
    have below : (n - t) % (36 - t) < 36 - t := Nat.mod_lt _ (by omega)
    rcases List.mem_cons.1 h with rfl | later
    · rw [digit?_digitChar (by omega)]
      rfl
    · exact ih later

/-- Going past a place of the label writes digits only. -/
theorem Writing.mem_done_pass {target : Nat} {w : Writing} {c d : Char}
    (h : d ∈ (w.pass target c).done) : d ∈ w.done ∨ (digit? d).isSome = true := by
  unfold Writing.pass at h
  split at h
  · exact .inl h
  · split at h
    · rcases List.mem_append.1 h with new | old
      · exact .inr (isSome_digit?_of_mem_digits (List.mem_reverse.1 new))
      · exact .inl old
    · exact .inl h

/-- Going through the label writes digits only. -/
theorem Writing.mem_done_foldl {target : Nat} {label : List Char} {w : Writing} {d : Char}
    (h : d ∈ (label.foldl (Writing.pass target) w).done) : d ∈ w.done ∨ (digit? d).isSome = true := by
  induction label generalizing w with
  | nil => exact .inl h
  | cons c rest ih =>
    rcases ih h with old | new
    · exact Writing.mem_done_pass old
    · exact .inr new

/-- The places of the characters outside ASCII are written with digits. -/
theorem mem_done_writeTargets {label : List Char} {n : Nat} {w : Writing} {targets : List Nat}
    {d : Char} (h : d ∈ (writeTargets label n w targets).done) :
    d ∈ w.done ∨ (digit? d).isSome = true := by
  induction targets generalizing n w with
  | nil => exact .inl h
  | cons target rest ih =>
    let start := { w with delta := w.delta + (target - n) * (w.count + 1) }
    rcases ih h with old | new
    · have before : d ∈ start.done ∨ (digit? d).isSome = true := Writing.mem_done_foldl old
      exact before
    · exact .inr new

/-- What a Punycode is written with. -/
theorem mem_encode {label : List Char} {c : Char} (h : c ∈ encode label) :
    c ∈ label ∧ c.toNat < 0x80 ∨ c = '-' ∨ (digit? c).isSome = true := by
  unfold encode at h
  dsimp only at h
  rcases List.mem_append.1 h with basic | written
  · split at basic
    · cases basic
    · rcases List.mem_append.1 basic with own | hyphen
      · left
        simpa using own
      · right
        left
        simpa using hyphen
  · rcases mem_done_writeTargets (List.mem_reverse.1 written) with none | digit
    · cases none
    · exact .inr (.inr digit)

/-- Every digit is one that is written. -/
theorem exists_digitChar {c : Char} (h : (digit? c).isSome = true) : ∃ d < 36, c = digitChar d := by
  unfold digit? at h
  dsimp only at h
  split at h
  · refine ⟨c.toNat - 97, by omega, ?_⟩
    rw [digitChar, if_pos (by omega), Nat.add_sub_cancel' (by omega), Char.ofNat_toNat]
  · split at h
    · refine ⟨c.toNat - 48 + 26, by omega, ?_⟩
      rw [digitChar, if_neg (by omega), Nat.add_sub_cancel, Nat.add_sub_cancel' (by omega),
        Char.ofNat_toNat]
    · cases h

/-- A digit is a character of ASCII. -/
theorem lt_of_isSome_digit? {c : Char} (h : (digit? c).isSome = true) : c.toNat < 0x80 := by
  obtain ⟨d, below, rfl⟩ := exists_digitChar h
  have all : ∀ e ∈ List.range 36, (digitChar e).toNat < 0x80 := by decide
  exact all d (List.mem_range.2 below)

/-- A Punycode is written in ASCII. -/
theorem lt_of_mem_encode {label : List Char} {c : Char} (h : c ∈ encode label) : c.toNat < 0x80 := by
  rcases mem_encode h with own | rfl | digit
  · exact own.2
  · decide
  · exact lt_of_isSome_digit? digit

/-- The last hyphen, if it is not the first character, parts the ASCII characters from the digits. -/
theorem parts_cases (s : List Char) :
    parts s = ([], s) ∨ ∃ basic digits, s = basic ++ '-' :: digits ∧ '-' ∉ digits ∧
      parts s = (basic, digits) := by
  have whole := List.takeWhile_append_dropWhile (p := fun c => decide (c ≠ '-')) (l := s.reverse)
  have own := fun c => List.all_eq_true.1
    (List.all_takeWhile (p := fun c => decide (c ≠ '-')) (l := s.reverse)) c
  have stop := List.head?_dropWhile_not (fun c => decide (c ≠ '-')) s.reverse
  unfold parts
  generalize s.reverse.takeWhile (fun c => decide (c ≠ '-')) = digits at whole own
  generalize s.reverse.dropWhile (fun c => decide (c ≠ '-')) = front at whole stop
  have text : s = front.reverse ++ digits.reverse := by
    rw [← List.reverse_append, whole, List.reverse_reverse]
  dsimp only
  split
  · exact .inl rfl
  · rename_i some
    cases front with
    | nil =>
      rw [text] at some
      simp at some
    | cons c front =>
      obtain rfl : c = '-' := by simpa using stop
      have basic : s.take (s.length - digits.reverse.length - 1) = front.reverse := by
        have size : s.length - digits.reverse.length - 1 = front.reverse.length := by
          rw [text]
          simp only [List.length_append, List.length_reverse, List.length_cons]
          omega
        rw [size, text, List.reverse_cons, List.append_assoc, List.take_left]
      refine .inr ⟨front.reverse, digits.reverse, by simp [text], fun found => ?_, by rw [basic]⟩
      simpa using own '-' (List.mem_reverse.1 found)

/-- Putting a character in leaves the others. -/
theorem Reading.mem_insert {r r' : Reading} {delta : Nat} {c : Char} (h : r.insert delta = some r')
    (found : c ∈ r.label) : c ∈ r'.label := by
  unfold Reading.insert at h
  dsimp only at h
  split at h
  · cases h
    generalize (r.index + delta) % (r.label.length + 1) = index
    rw [← List.take_append_drop index r.label, List.mem_append] at found
    rcases found with front | back
    · exact List.mem_append_left _ front
    · exact List.mem_append_right _ (List.mem_cons_of_mem _ back)
  · cases h

/-- Digits that were read are digits, and reading them only puts characters in. -/
theorem of_readDigits {r r' : Reading} {delta weight place : Nat} {s : List Char}
    (h : readDigits r delta weight place s = some r') :
    (∀ c ∈ s, (digit? c).isSome = true) ∧ ∀ c ∈ r.label, c ∈ r'.label := by
  induction s generalizing r delta weight place with
  | nil =>
    rw [readDigits] at h
    split at h
    · cases h
      exact ⟨List.forall_mem_nil _, fun _ found => found⟩
    · cases h
  | cons c rest ih =>
    rw [readDigits] at h
    split at h
    · cases h
    · rename_i d value
      have own : (digit? c).isSome = true := by rw [value]; rfl
      dsimp only at h
      split at h
      · cases h
      split at h
      · split at h
        · rename_i next inserted
          obtain ⟨digits, kept⟩ := ih h
          exact ⟨List.forall_mem_cons.2 ⟨own, digits⟩,
            fun e found => kept e (Reading.mem_insert inserted found)⟩
        · cases h
      · split at h
        · cases h
        · obtain ⟨digits, kept⟩ := ih h
          exact ⟨List.forall_mem_cons.2 ⟨own, digits⟩, kept⟩

/-- A Punycode is read from its digits, which put characters into its ASCII part. -/
theorem decode_eq (s : List Char) :
    decode s = (readDigits ⟨(parts s).1, 0, 0x80, 72⟩ 0 1 36 (parts s).2).map Reading.label := rfl

/-- What a Punycode that can be read holds. -/
theorem mem_of_decode {code label : List Char} {c : Char} (h : decode code = some label)
    (found : c ∈ code) : c ∈ label ∨ c = '-' ∨ (digit? c).isSome = true := by
  rw [decode_eq] at h
  obtain ⟨r, read, rfl⟩ := Option.map_eq_some_iff.1 h
  obtain ⟨digits, kept⟩ := of_readDigits read
  rcases parts_cases code with all | ⟨basic, rest, text, -, both⟩
  · rw [all] at digits
    exact .inr (.inr (digits c found))
  · rw [both] at digits kept
    rw [text, List.mem_append, List.mem_cons] at found
    rcases found with front | rfl | back
    · exact .inl (kept c front)
    · exact .inr (.inl rfl)
    · exact .inr (.inr (digits c back))

/-- A Punycode without digits stands for characters that it holds. -/
theorem mem_of_decode_of_hyphen {code label : List Char} {c : Char} (h : decode code = some label)
    (last : code.getLast? = some '-') (found : c ∈ label) : c ∈ code := by
  rw [decode_eq] at h
  obtain ⟨r, read, rfl⟩ := Option.map_eq_some_iff.1 h
  rcases parts_cases code with all | ⟨basic, rest, text, hyphen, both⟩
  · -- The last hyphen would be read as a digit.
    rw [all] at read
    have digit := (of_readDigits read).1 '-' (List.mem_of_getLast? last)
    rw [digit?_hyphen] at digit
    cases digit
  · rw [both] at read
    cases rest with
    | nil =>
      cases read
      rw [text]
      exact List.mem_append_left _ found
    | cons d rest =>
      rw [text, List.getLast?_append, List.getLast?_cons_cons] at last
      have inside := List.mem_of_getLast? (l := d :: rest) (a := '-') (by simpa using last)
      exact absurd inside hyphen

end Detour.Domain.Punycode
