import Detour.Proofs.Domain.Punycode
import Mathlib.Tactic.Ring
/-!
# Punycode reads back

Writing looks through the whole label once for each character outside ASCII, in ascending order, and
reading puts the same characters in, in the same order. So a reader is led along with the writer: at every
place of every pass it has put in the characters below the one that is looked for, and this one itself
in front of the place, and the steps that the writer has counted lead from its last character to the
place. `Follows` says this. Main statement: a label of at most 1000 characters is read from its
Punycode. A far longer one may need a number above the limit.
-/

namespace Detour.Domain.Punycode

/-! ## Numbers -/

/-- More steps than lie between two places in labels of at most 1000 characters, whatever the
characters are. -/
def farthest : Nat := 0x110000 * 1000

/-- What a digit at `place` may weigh: all digits in front of it had the threshold one, unless its own threshold
is eight or more. -/
def IsWeight (bias place weight : Nat) : Prop := bias + 8 ≤ place ∨ ∃ count, weight = 35 ^ count

/-- The first digit has weight one. -/
theorem isWeight_first (bias : Nat) : IsWeight bias 36 1 := .inr ⟨0, rfl⟩

variable {bias place weight n : Nat}

/-- From one digit to the next. Behind a threshold between one and eight there are only higher ones. -/
theorem IsWeight.next (h : IsWeight bias place weight) :
    IsWeight bias (place + 36) (weight * (36 - threshold bias place)) := by
  rcases h with far | ⟨count, rfl⟩
  · exact .inl (by omega)
  · by_cases near : place ≤ bias + 1
    · have one : threshold bias place = 1 := by
        unfold threshold
        omega
      exact .inr ⟨count + 1, by rw [one, Nat.pow_succ]⟩
    · exact .inl (by omega)

/-- The weight behind a digit that is not the last one stays below the limit: with a threshold of eight or more it is
at most 28 / 8 of the number, and a power of 35 that is no greater than the number is one of the first six. -/
theorem IsWeight.lt_limit (h : IsWeight bias place weight) (more : threshold bias place ≤ n)
    (bound : n * weight < farthest) : weight * (36 - threshold bias place) < limit := by
  have bounds := threshold_bounds bias place
  have least : threshold bias place * weight < farthest :=
    Nat.lt_of_le_of_lt (Nat.mul_le_mul_right weight more) bound
  unfold farthest at least
  unfold limit
  rcases h with far | ⟨count, rfl⟩
  · have eight : 8 ≤ threshold bias place := by
      unfold threshold
      omega
    have rest : weight * (36 - threshold bias place) ≤ weight * 28 :=
      Nat.mul_le_mul_left weight (by omega)
    have front : 8 * weight ≤ threshold bias place * weight := Nat.mul_le_mul_right weight eight
    omega
  · have single : 35 ^ count < 35 ^ 6 := by
      have one : 1 * 35 ^ count ≤ threshold bias place * 35 ^ count :=
        Nat.mul_le_mul_right _ bounds.1
      omega
    have few : count + 1 ≤ 6 := (Nat.pow_lt_pow_iff_right (by decide)).1 single
    calc 35 ^ count * (36 - threshold bias place)
        ≤ 35 ^ count * 35 := Nat.mul_le_mul_left _ (by omega)
      _ = 35 ^ (count + 1) := (Nat.pow_succ ..).symm
      _ ≤ 35 ^ 6 := Nat.pow_le_pow_right (by decide) few
      _ < 0x100000000 := by decide

/-- The value of a digit that is not the last one and that of the digits behind it make up the number. -/
theorem digit_add_rest (more : threshold bias place ≤ n) (weight : Nat) :
    let t := threshold bias place
    (t + (n - t) % (36 - t)) * weight + (n - t) / (36 - t) * (weight * (36 - t)) = n * weight := by
  intro t
  have whole : t + (n - t) % (36 - t) + (n - t) / (36 - t) * (36 - t) = n := by
    rw [Nat.add_assoc, Nat.mod_add_div', Nat.add_sub_cancel' more]
  calc (t + (n - t) % (36 - t)) * weight + (n - t) / (36 - t) * (weight * (36 - t))
      = (t + (n - t) % (36 - t) + (n - t) / (36 - t) * (36 - t)) * weight := by ring
    _ = n * weight := by rw [whole]

/-- The digits of a number are read as this number: what it stands for is put in, and the next number
starts behind them. -/
theorem readDigits_digits {r : Reading} {delta : Nat} (rest : List Char)
    (weighs : IsWeight r.bias place weight) (bound : r.index + (delta + n * weight) < farthest) :
    readDigits r delta weight place (digits r.bias place n ++ rest) =
      (r.insert (delta + n * weight)).bind fun r => readDigits r 0 1 36 rest := by
  have large : farthest < limit := by decide
  induction n using Nat.strongRecOn generalizing delta weight place with
  | ind n ih =>
    have bounds := threshold_bounds r.bias place
    rw [digits]
    by_cases last : n < threshold r.bias place
    · rw [if_pos last, List.singleton_append, readDigits, digit?_digitChar (by omega)]
      dsimp only
      rw [if_neg (by omega), if_pos last]
      cases r.insert (delta + n * weight) <;> rfl
    · have least := Nat.not_lt.1 last
      have value := digit_add_rest least weight
      have light := weighs.lt_limit least (by omega)
      have later := weighs.next
      rw [if_neg last]
      generalize same : threshold r.bias place = t at *
      have below : (n - t) % (36 - t) < 36 - t := Nat.mod_lt _ (by omega)
      have smaller : (n - t) / (36 - t) < n := by
        have := Nat.div_le_self (n - t) (36 - t)
        omega
      dsimp only at value
      rw [List.cons_append, readDigits, digit?_digitChar (by omega)]
      dsimp only
      rw [same, if_neg (by omega), if_neg (by omega), if_neg (Nat.not_le.2 light),
        ih _ smaller later (by omega), Nat.add_assoc, value]

/-! ## The reader next to the writer -/

/-- The steps from the last character to a place between two parts of the label lead there: the character is
put in between. -/
theorem Reading.insert_between {r : Reading} {delta : Nat} {front back : List Char} {c : Char}
    (parts : r.label = front ++ back)
    (steps : r.code * (r.label.length + 1) + r.index + delta =
      c.toNat * (r.label.length + 1) + front.length) :
    r.insert delta = some ⟨front ++ c :: back, front.length + 1, c.toNat,
      adapt (r.index = 0) delta (r.label.length + 1)⟩ := by
  have inside : front.length < r.label.length + 1 := by
    rw [parts, List.length_append]
    omega
  -- A turn through the label and its end is one code point.
  have round : r.index + delta + r.code * (r.label.length + 1) =
      front.length + c.toNat * (r.label.length + 1) := by omega
  have code : r.code + (r.index + delta) / (r.label.length + 1) = c.toNat := by
    have turns := congrArg (· / (r.label.length + 1)) round
    simp only [Nat.add_mul_div_right _ _ (Nat.succ_pos r.label.length), Nat.div_eq_of_lt inside,
      Nat.zero_add] at turns
    rw [Nat.add_comm, turns]
  have index : (r.index + delta) % (r.label.length + 1) = front.length := by
    have rest := congrArg (· % (r.label.length + 1)) round
    simpa only [Nat.add_mul_mod_self_right, Nat.mod_eq_of_lt inside] using rest
  unfold Reading.insert
  dsimp only
  rw [code, index, Char.ofNat_toNat, parts, List.take_left, List.drop_left]
  exact if_pos c.valid

/-- The characters of a text up to a code point. -/
def upTo (n : Nat) (s : List Char) : List Char := s.filter (·.toNat ≤ n)

/-- The characters of a text below a code point. -/
def below (n : Nat) (s : List Char) : List Char := s.filter (·.toNat < n)

variable {s : List Char} {c : Char}

/-- A character up to a code point is one more. -/
theorem upTo_concat_of_le (h : c.toNat ≤ n) : upTo n (s ++ [c]) = upTo n s ++ [c] := by
  simp [upTo, h]

/-- A character up to a code point makes the count greater by one. -/
theorem length_upTo_concat_of_le (h : c.toNat ≤ n) :
    (upTo n (s ++ [c])).length = (upTo n s).length + 1 := by
  rw [upTo_concat_of_le h, List.length_append, List.length_singleton]

/-- A character above a code point does not count. -/
theorem upTo_concat_of_lt (h : n < c.toNat) : upTo n (s ++ [c]) = upTo n s := by
  simp [upTo, Nat.not_le.2 h]

/-- A character below a code point is one more. -/
theorem below_cons_of_lt (h : c.toNat < n) : below n (c :: s) = c :: below n s :=
  List.filter_cons_of_pos (decide_eq_true h)

/-- A character from a code point on does not count. -/
theorem below_cons_of_le (h : n ≤ c.toNat) : below n (c :: s) = below n s :=
  List.filter_cons_of_neg (by simpa using h)

/-- A writer stands between two parts of the label, in its pass for the code point `target`, and a reader stands
next to it: the reader has read what the writer has written and nothing else. -/
structure Follows (start : Reading) (target : Nat) (front back : List Char) (w : Writing)
    (r : Reading) : Prop where
  /-- The characters up to `target` in front and those below it behind have been written. -/
  label : r.label = upTo target front ++ below target back
  /-- Both have the same bias. -/
  bias : w.bias = r.bias
  /-- The writer has counted what it has written. -/
  count : w.count = r.label.length
  /-- Both know whether there has been a number. -/
  first : w.first = decide (r.index = 0)
  /-- The steps that the writer has counted lead the reader to the place between the parts. -/
  steps : r.code * (r.label.length + 1) + r.index + w.delta =
    target * (r.label.length + 1) + (upTo target front).length
  /-- The reader goes on behind the digits of the writer. -/
  digits : ∀ rest, readDigits start 0 1 36 (w.done.reverse ++ rest) = readDigits r 0 1 36 rest

variable {start r : Reading} {w : Writing} {target : Nat} {front back label : List Char}

/-- Labels of at most 1000 characters need no greater numbers than are read. -/
theorem Follows.bound (h : Follows start c.toNat front (c :: back) w r)
    (short : (front ++ c :: back).length ≤ 1000) : r.index + w.delta < farthest := by
  have size : (upTo c.toNat front).length ≤ r.label.length ∧ r.label.length + 1 ≤ 1000 := by
    have ahead : (upTo c.toNat front).length ≤ front.length := List.length_filter_le ..
    have behind : (below c.toNat back).length ≤ back.length := List.length_filter_le ..
    rw [List.length_append, List.length_cons] at short
    rw [h.label, below_cons_of_le (Nat.le_refl _), List.length_append]
    omega
  have code : c.toNat + 1 ≤ 0x110000 := by
    have valid : c.toNat.isValidChar := c.valid
    unfold Nat.isValidChar at valid
    omega
  have steps := h.steps
  calc r.index + w.delta
      ≤ c.toNat * (r.label.length + 1) + (upTo c.toNat front).length := by omega
    _ < c.toNat * (r.label.length + 1) + (r.label.length + 1) := by omega
    _ = (c.toNat + 1) * (r.label.length + 1) := (Nat.succ_mul ..).symm
    _ ≤ farthest := Nat.mul_le_mul code size.2

/-- At a character that it looks for, the writer writes a number, and the reader reads it. -/
theorem Follows.write (h : Follows start c.toNat front (c :: back) w r)
    (short : (front ++ c :: back).length ≤ 1000) :
    ∃ r', Follows start c.toNat (front ++ [c]) back (w.pass c.toNat c) r' := by
  have written : w.pass c.toNat c =
      { done := (Punycode.digits w.bias 36 w.delta).reverse ++ w.done
        delta := 0
        bias := adapt w.first w.delta (w.count + 1)
        count := w.count + 1
        first := false } := by
    rw [Writing.pass, if_neg (Nat.lt_irrefl _), if_pos rfl]
  have parts : r.label = upTo c.toNat front ++ below c.toNat back := by
    rw [h.label, below_cons_of_le (Nat.le_refl _)]
  have inserted := Reading.insert_between parts h.steps
  refine ⟨⟨upTo c.toNat front ++ c :: below c.toNat back, (upTo c.toNat front).length + 1, c.toNat,
    adapt (r.index = 0) w.delta (r.label.length + 1)⟩, ?_⟩
  rw [written]
  exact {
    label := by
      rw [upTo_concat_of_le (Nat.le_refl _), List.append_assoc]
      rfl
    bias := by rw [h.first, h.count]
    count := by
      rw [h.count, parts]
      simp only [List.length_append, List.length_cons]
      omega
    first := rfl
    steps := by
      rw [length_upTo_concat_of_le (Nat.le_refl _)]
      rfl
    digits := fun rest => by
      have bound := h.bound short
      rw [List.reverse_append, List.reverse_reverse, List.append_assoc, h.digits, h.bias,
        readDigits_digits rest (isWeight_first _) (by omega), Nat.mul_one, Nat.zero_add, inserted]
      rfl }

/-- The step of the pass: at the character that it looks for, the writer writes a number, and the reader reads
it. -/
theorem Follows.pass (h : Follows start target front (c :: back) w r)
    (short : (front ++ c :: back).length ≤ 1000) :
    ∃ r', Follows start target (front ++ [c]) back (w.pass target c) r' := by
  rcases Nat.lt_trichotomy c.toNat target with less | rfl | greater
  · -- The character has been written in an earlier pass.
    have early := Nat.le_of_lt less
    rw [Writing.pass, if_pos less]
    refine ⟨r, ?_, h.bias, h.count, h.first, ?_, h.digits⟩
    · rw [h.label, below_cons_of_lt less, upTo_concat_of_le early, List.append_assoc,
        List.singleton_append]
    · calc r.code * (r.label.length + 1) + r.index + (w.delta + 1)
          = target * (r.label.length + 1) + (upTo target front).length + 1 :=
            congrArg (· + 1) h.steps
        _ = target * (r.label.length + 1) + (upTo target (front ++ [c])).length := by
          rw [length_upTo_concat_of_le early, Nat.add_assoc]
  · exact h.write short
  · -- The character is left for a later pass.
    rw [Writing.pass, if_neg (Nat.lt_asymm greater), if_neg (Nat.ne_of_gt greater)]
    refine ⟨r, ?_, h.bias, h.count, h.first, ?_, h.digits⟩
    · rw [h.label, below_cons_of_le (Nat.le_of_lt greater), upTo_concat_of_lt greater]
    · rw [upTo_concat_of_lt greater, h.steps]

/-- The run of a pass: the reader stays next to the writer up to the end of the label. -/
theorem Follows.foldl (h : Follows start target front back w r)
    (short : (front ++ back).length ≤ 1000) :
    ∃ r', Follows start target (front ++ back) [] (back.foldl (Writing.pass target) w) r' := by
  induction back generalizing front w r with
  | nil => exact ⟨r, by rwa [List.append_nil]⟩
  | cons c back ih =>
    obtain ⟨r', next⟩ := h.pass short
    rw [List.append_cons] at short ⊢
    exact ih next short

/-- At the end of the label, the writer turns to its start and to the next code point. -/
theorem Follows.turn (h : Follows start target label [] w r) :
    Follows start (target + 1) [] label { w with delta := w.delta + 1 } r where
  label := by
    rw [h.label]
    simp [upTo, below, Nat.lt_succ_iff]
  bias := h.bias
  count := h.count
  first := h.first
  steps := by
    have whole : r.label.length = (upTo target label).length := by simp [h.label, below]
    calc r.code * (r.label.length + 1) + r.index + (w.delta + 1)
        = target * (r.label.length + 1) + (upTo target label).length + 1 :=
          congrArg (· + 1) h.steps
      _ = (target + 1) * (r.label.length + 1) := by rw [← whole, Nat.add_assoc, Nat.succ_mul]
  digits := h.digits

/-- At the start of the label, the writer goes on to the next code point that occurs. -/
theorem Follows.advance {n : Nat} (h : Follows start n [] label w r) (later : n ≤ target)
    (none : ∀ c ∈ label, n ≤ c.toNat → target ≤ c.toNat) :
    Follows start target [] label { w with delta := w.delta + (target - n) * (w.count + 1) } r where
  label := by
    have same : below target label = below n label :=
      List.filter_congr fun c found => decide_eq_decide.2
        ⟨fun less => Nat.not_le.1 fun from' => absurd (none c found from') (Nat.not_le.2 less),
          fun less => Nat.lt_of_lt_of_le less later⟩
    rw [same, h.label]
    rfl
  bias := h.bias
  count := h.count
  first := h.first
  steps := by
    obtain ⟨gap, rfl⟩ := Nat.exists_eq_add_of_le later
    rw [h.count, Nat.add_sub_cancel_left, Nat.add_mul, ← Nat.add_assoc, h.steps]
    rfl
  digits := h.digits

/-- The run over all passes: the reader has put the whole label in when the writer is done. -/
theorem Follows.writeTargets {n : Nat} {targets : List Nat} (h : Follows start n [] label w r)
    (short : label.length ≤ 1000) (ascending : targets.Pairwise (· < ·))
    (later : ∀ target ∈ targets, n ≤ target)
    (all : ∀ c ∈ label, n ≤ c.toNat → c.toNat ∈ targets) :
    ∃ r', r'.label = label ∧ ∀ rest,
      readDigits start 0 1 36 ((writeTargets label n w targets).done.reverse ++ rest) =
        readDigits r' 0 1 36 rest := by
  induction targets generalizing n w r with
  | nil =>
    have whole : below n label = label := List.filter_eq_self.2 fun c found =>
      decide_eq_true (Nat.not_le.1 fun from' => List.not_mem_nil (all c found from'))
    exact ⟨r, h.label.trans whole, h.digits⟩
  | cons target targets ih =>
    obtain ⟨least, ascending⟩ := List.pairwise_cons.1 ascending
    have advanced := h.advance (later target List.mem_cons_self) fun c found from' => by
      rcases List.mem_cons.1 (all c found from') with same | other
      · exact Nat.le_of_eq same.symm
      · exact Nat.le_of_lt (least _ other)
    obtain ⟨r', passed⟩ := advanced.foldl short
    refine ih passed.turn ascending least fun c found from' => ?_
    have before : n ≤ c.toNat :=
      (later target List.mem_cons_self).trans ((Nat.le_succ target).trans from')
    exact (List.mem_cons.1 (all c found before)).resolve_left (Nat.ne_of_gt from')

/-! ## Writing and reading -/

/-- No number is left out because it repeats. -/
theorem mem_distinct {a : Nat} {l : List Nat} : a ∈ distinct l ↔ a ∈ l := by
  fun_induction distinct l with
  | case1 b rest ih => simp [ih]
  | case2 a b rest differs ih => simp [ih]
  | case3 short => rfl

/-- Numbers that do not descend ascend without those that repeat. -/
theorem distinct_pairwise {l : List Nat} (h : l.Pairwise (· ≤ ·)) :
    (distinct l).Pairwise (· < ·) := by
  fun_induction distinct l with
  | case1 b rest ih => exact ih (List.pairwise_cons.1 h).2
  | case2 a b rest differs ih =>
    obtain ⟨least, later⟩ := List.pairwise_cons.1 h
    refine List.pairwise_cons.2 ⟨fun c found => ?_, ih later⟩
    have first := least b List.mem_cons_self
    rcases List.mem_cons.1 (mem_distinct.1 found) with rfl | other
    · omega
    · have := (List.pairwise_cons.1 later).1 c other
      omega
  | case3 l short =>
    match l, short with
    | [], _ => exact .nil
    | [a], _ => exact List.pairwise_singleton _ a
    | a :: b :: rest, short => exact absurd rfl (short a b rest)

/-- A text without a hyphen consists of digits. -/
theorem parts_of_not_mem {s : List Char} (h : '-' ∉ s) : parts s = ([], s) := by
  rcases parts_cases s with all | ⟨basic, digits, rfl, -, -⟩
  · exact all
  · exact absurd (List.mem_append_right _ List.mem_cons_self) h

/-- The last hyphen parts what stands in front of it from the digits. -/
theorem parts_append_cons {basic digits : List Char} (some : basic ≠ []) (h : '-' ∉ digits) :
    parts (basic ++ '-' :: digits) = (basic, digits) := by
  have behind : ((basic ++ '-' :: digits).reverse.takeWhile (· ≠ '-')).reverse = digits := by
    have plain : ∀ c ∈ digits.reverse, decide (c ≠ '-') = true := fun c found =>
      decide_eq_true fun e => h (e ▸ List.mem_reverse.1 found)
    rw [List.reverse_append, List.reverse_cons, List.append_assoc,
      List.takeWhile_append_of_pos plain]
    simp
  have front : (basic ++ '-' :: digits).take ((basic ++ '-' :: digits).length - digits.length - 1) =
      basic := by
    have size : (basic ++ '-' :: digits).length - digits.length - 1 = basic.length := by
      rw [List.length_append, List.length_cons]
      omega
    rw [size, List.take_left]
  unfold parts
  dsimp only
  rw [behind, front, if_neg (by simpa using some)]

/-- The code points outside ASCII that occur in a label, in ascending order. -/
def codePoints (label : List Char) : List Nat :=
  distinct (((label.filter (0x80 ≤ ·.toNat)).map Char.toNat).mergeSort (· ≤ ·))

/-- All code points outside ASCII are among them. -/
theorem mem_codePoints {n : Nat} :
    n ∈ codePoints label ↔ ∃ c ∈ label, 0x80 ≤ c.toNat ∧ c.toNat = n := by
  simp [codePoints, mem_distinct, and_assoc]

/-- The code points ascend. -/
theorem codePoints_pairwise (label : List Char) : (codePoints label).Pairwise (· < ·) := by
  refine distinct_pairwise ((List.pairwise_mergeSort ?_ ?_ _).imp of_decide_eq_true)
  · simpa using fun a b c => Nat.le_trans
  · simpa using Nat.le_total

/-- A writer at the start of a label. -/
def Writing.initial (label : List Char) : Writing := ⟨[], 0, 72, (below 0x80 label).length, true⟩

/-- A reader that has only the ASCII characters of a label. -/
def Reading.initial (label : List Char) : Reading := ⟨below 0x80 label, 0, 0x80, 72⟩

/-- The digits of a label. -/
def digitsOf (label : List Char) : List Char :=
  (writeTargets label 0x80 (.initial label) (codePoints label)).done.reverse

/-- A Punycode has the digits of the label behind its ASCII characters. -/
theorem encode_eq (label : List Char) :
    encode label =
      (if (below 0x80 label).isEmpty then [] else below 0x80 label ++ ['-']) ++ digitsOf label := rfl

/-- There is no hyphen among the digits of a label. -/
theorem hyphen_not_mem_digitsOf : '-' ∉ digitsOf label := fun found => by
  rcases mem_done_writeTargets (List.mem_reverse.1 found) with none | digit
  · cases none
  · rw [digit?_hyphen] at digit
    cases digit

/-- A Punycode is parted into the ASCII characters of the label and its digits. -/
theorem parts_encode (label : List Char) : parts (encode label) = (below 0x80 label, digitsOf label) := by
  rw [encode_eq]
  by_cases none : below 0x80 label = []
  · rw [none, List.isEmpty_nil, if_pos rfl, List.nil_append, parts_of_not_mem hyphen_not_mem_digitsOf]
  · rw [if_neg (by simpa using none), List.append_assoc, List.singleton_append,
      parts_append_cons none hyphen_not_mem_digitsOf]

/-- At the start, the reader stands next to the writer. -/
theorem Follows.initial (label : List Char) :
    Follows (.initial label) 0x80 [] label (.initial label) (.initial label) :=
  ⟨rfl, rfl, rfl, rfl, rfl, fun _ => rfl⟩

/-- A label of at most 1000 characters is read from its Punycode. -/
theorem decode_encode (short : label.length ≤ 1000) : decode (encode label) = some label := by
  obtain ⟨r, whole, read⟩ := (Follows.initial label).writeTargets short (codePoints_pairwise label)
    (fun target found => by
      obtain ⟨c, -, outside, rfl⟩ := mem_codePoints.1 found
      exact outside)
    fun c found outside => mem_codePoints.2 ⟨c, found, outside, rfl⟩
  have done : readDigits (.initial label) 0 1 36 (digitsOf label) = some r := by
    rw [← List.append_nil (digitsOf label), digitsOf, read]
    rfl
  rw [decode_eq, parts_encode]
  exact (congrArg (Option.map Reading.label) done).trans (congrArg Option.some whole)

end Detour.Domain.Punycode
