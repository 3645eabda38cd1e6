import Detour.Pattern.Read
import Detour.Proofs.Text.Ascii
import Detour.Text.Search
/-!
# Patterns for texts

A text is written as a pattern with a backslash in front of every sign that patterns give a meaning. Reading
such a pattern gives one part for each character of the text. Main statement: the pattern matches exactly
the texts that the text occurs in and, with a circumflex in front, exactly those that start with it.
-/

namespace Detour.Pattern

/-- Whether patterns give a meaning to a character, be it in some places only. -/
def isSign (c : Char) : Bool := c ∈ "\\.+*?()|[]\x7b\x7d^$#&-~".toList

/-- The pattern for a text: a backslash stands in front of every sign. -/
def quoted (s : List Char) : List Char := s.flatMap fun c => if isSign c then ['\\', c] else [c]

/-! ### Reading the pattern for a text -/

/-- A sign behind a backslash stands for itself. -/
theorem readEscape_of_isSign (f : Flags) {c : Char} (h : isSign c = true) (rest : List Char) :
    readEscape f (c :: rest) = some (.char c false, rest) := by
  have signs : ∀ d ∈ "\\.+*?()|[]\x7b\x7d^$#&-~".toList, (d.toNat < 0x80 && !d.isAlphanum) = true :=
    Text.forall_mem_of_all (by decide)
  have sign := signs c (of_decide_eq_true h)
  unfold readEscape
  dsimp only
  split
  -- The letters and the angles that have a meaning behind a backslash are no signs.
  all_goals first | exact absurd h (by decide) | skip
  rw [if_pos sign]

/-- What reading gives for a character stands for it, if no sign works on what was read before. -/
theorem step_of_readAtom {r : Reader} {c d : Char} {s rest : List Char} (part : c ∉ "()|?*+\x7b[.^$".toList)
    (read : readAtom r.flags (c :: s) = some (.char d false, rest)) :
    r.step c s = some (r.push (charItem r.flags d), rest) := by
  unfold Reader.step
  dsimp only
  split
  all_goals first | exact absurd (by decide) part | skip
  rw [read]
  rfl

/-- A sign is read together with the backslash in front of it. -/
theorem step_backslash {r : Reader} {c : Char} (h : isSign c = true) (rest : List Char) :
    r.step '\\' (c :: rest) = some (r.push (charItem r.flags c), rest) :=
  step_of_readAtom (by decide) (readEscape_of_isSign r.flags h rest)

/-- A character that is no sign is read as itself. -/
theorem step_of_not_isSign {r : Reader} {c : Char} (h : isSign c = false) (rest : List Char) :
    r.step c rest = some (r.push (charItem r.flags c), rest) := by
  have signs : ∀ d ∈ "()|?*+\x7b[.^$".toList, isSign d = true := Text.forall_mem_of_all (by decide)
  have part : c ∉ "()|?*+\x7b[.^$".toList := fun found => by
    rw [signs c found] at h
    cases h
  refine step_of_readAtom part ?_
  unfold readAtom
  split
  · rename_i e
    cases e
  · rename_i e
    cases e
    cases h
  · rename_i e
    cases e
    rfl

/-- The reader behind the pattern for a text, which added a part for each character. -/
def Reader.behind (r : Reader) (s : List Char) : Reader :=
  { r with items := (s.map (charItem r.flags)).reverse ++ r.items }

/-- The pattern for a text is read to its end. -/
theorem run_quoted {s : List Char} {r : Reader} {fuel : Nat} (layout : r.flags.layout = false)
    (enough : s.length < fuel) : Reader.run fuel r (quoted s) = some (r.behind s) := by
  have skip (t : List Char) {r : Reader} (layout : r.flags.layout = false) : r.flags.skip t = t := by
    rw [Flags.skip, layout, if_neg Bool.false_ne_true]
  induction s generalizing r fuel with
  | nil =>
    obtain ⟨fuel, rfl⟩ : ∃ n, fuel = n + 1 := ⟨fuel - 1, by simp at enough; omega⟩
    rw [Reader.run, skip _ layout]
    rfl
  | cons c s ih =>
    obtain ⟨fuel, rfl⟩ : ∃ n, fuel = n + 1 := ⟨fuel - 1, by simp at enough; omega⟩
    have more : s.length < fuel := by simpa using enough
    have read : Reader.run (fuel + 1) r (quoted (c :: s)) =
        Reader.run fuel (r.push (charItem r.flags c)) (quoted s) := by
      rw [Reader.run, skip _ layout, quoted, List.flatMap_cons]
      cases sign : isSign c with
      | true =>
        simp only [if_true, List.cons_append, List.nil_append, step_backslash sign]
        rfl
      | false =>
        simp only [Bool.false_eq_true, if_false, List.cons_append, List.nil_append,
          step_of_not_isSign sign]
        rfl
    rw [read, ih (r := r.push (charItem r.flags c)) layout more]
    simp [Reader.behind, Reader.push]

/-! ### Where the pattern for a text matches -/

variable {p s : List Char}

/-- The places where a match of several parts ends, the last part given first. -/
def endsOf (s : List Char) (items : List Item) (places : Nat) : Nat :=
  items.foldr (fun item => (item.pattern.overlay s).ends) places

/-- Parts put together match one behind the other. -/
theorem ends_join (s : List Char) (items : List Item) (places : Nat) :
    ((Item.join .then items).pattern.overlay s).ends places = endsOf s items places := by
  have folded (before : List Item) : ∀ (last : Item),
      ((before.foldl (fun after item => item.then after) last).pattern.overlay s).ends places =
        (last.pattern.overlay s).ends (endsOf s before places) := by
    induction before with
    | nil => exact fun last => rfl
    | cons item before ih => exact fun last => ih (item.then last)
  match items with
  | [] => rfl
  | [item] => rfl
  | last :: item :: before => exact folded (item :: before) last

/-- A place behind a character of a set is one behind a place where such a character stands. -/
theorem testBit_ends_set (set : CharSet) (s : List Char) (places j : Nat) :
    ((Overlay.set (Bits.ofList set.has s)).ends places).testBit j = true ↔
      ∃ i, places.testBit i = true ∧ (s[i]?).any set.has = true ∧ j = i + 1 := by
  rw [Overlay.ends, Nat.testBit_shiftLeft, Nat.testBit_and, Bits.testBit_ofList]
  cases j with
  | zero => simp
  | succ j => simp

/-- Of the characters of ASCII only the character itself belongs to its set. -/
theorem has_single {c d : Char} (ascii : d.toNat < 0x80) :
    (CharSet.single c).has d = decide (c = d) := by
  by_cases small : c.toNat < 0x80
  · exact CharSet.has_single_of_ascii small ascii
  have other : c ≠ d := by
    rintro rfl
    exact small ascii
  rw [decide_eq_false other, CharSet.single]
  split
  · rename_i i place
    have above : 0x80 ≤ i := by
      rw [place?, if_neg small] at place
      split at place
      · cases place
        decide
      · split at place
        · cases place
          decide
        · cases place
    rw [CharSet.has, CharSet.place?_of_ascii ascii, Option.any_some, Nat.one_shiftLeft,
      Nat.testBit_two_pow]
    exact decide_eq_false (by omega)
  · exact CharSet.has_empty d

/-- The parts for a text match where it stands. -/
theorem testBit_endsOf (ascii : ∀ c ∈ s, c.toNat < 0x80) (places j : Nat) :
    (endsOf s (p.map (charItem .initial)).reverse places).testBit j = true ↔
      ∃ i, places.testBit i = true ∧ p <+: s.drop i ∧ j = i + p.length := by
  induction p generalizing places with
  | nil => simp [endsOf]
  | cons c p ih =>
    have first : endsOf s ((c :: p).map (charItem .initial)).reverse places =
        endsOf s (p.map (charItem .initial)).reverse
          ((Overlay.set (Bits.ofList (CharSet.single c).has s)).ends places) := by
      rw [List.map_cons, List.reverse_cons, endsOf, List.foldr_append]
      rfl
    have here (i : Nat) : c :: p <+: s.drop i ↔
        (s[i]?).any (CharSet.single c).has = true ∧ p <+: s.drop (i + 1) := by
      cases next : s[i]? with
      | none =>
        rw [List.drop_eq_nil_of_le (List.getElem?_eq_none_iff.1 next)]
        simp
      | some d =>
        have inside : d ∈ s := List.mem_of_getElem? next
        rw [List.drop_eq_getElem?_toList_append, next, Option.toList_some, List.singleton_append,
          List.cons_prefix_cons, Option.any_some, has_single (ascii d inside), decide_eq_true_eq]
    simp only [first, ih, testBit_ends_set, here, List.length_cons]
    constructor
    · rintro ⟨-, ⟨i, start, own, rfl⟩, rest, rfl⟩
      exact ⟨i, start, ⟨own, rest⟩, by omega⟩
    · rintro ⟨i, start, ⟨own, rest⟩, rfl⟩
      exact ⟨i + 1, ⟨i, start, own, rfl⟩, rest, by omega⟩

/-- Only the first place of a text has nothing before it. -/
theorem testBit_ends_start (s : List Char) (places i : Nat) :
    (((Pattern.look .start).overlay s).ends places).testBit i = true ↔
      places.testBit i = true ∧ i = 0 := by
  have behind (c : Char) (t : List Char) (j : Nat) :
      ((neighboursFrom (some c) t)[j]?).any (fun n => n.1.isNone) = false := by
    induction t generalizing c j with
    | nil => cases j <;> rfl
    | cons d t ih =>
      cases j with
      | zero => rfl
      | succ j => exact ih d j
  have first : ((neighbours s)[i]?).any (fun n => n.1.isNone) = true ↔ i = 0 := by
    cases s with
    | nil => cases i <;> simp [neighbours, neighboursFrom]
    | cons c s =>
      cases i with
      | zero => simp [neighbours, neighboursFrom]
      | succ i => simpa [neighbours, neighboursFrom] using behind c s i
  rw [overlay, Overlay.ends, Nat.testBit_and, Bits.testBit_ofList, Bool.and_eq_true]
  exact and_congr_right fun _ => first

/-- A pattern that is read is the whole of what the reader collected. -/
theorem eq_of_read {source : List Char} {r : Reader} {q : Pattern}
    (run : Reader.run (source.length + 1) .start source = some r) (h : read source = some q) :
    q = r.whole.pattern := by
  rw [read, run] at h
  exact (Option.some.inj (Option.ite_none_right_eq_some.1 h).2).symm

/-- A pattern matches where one of its matches ends. -/
theorem isIn_iff_exists (q : Pattern) (s : List Char) :
    q.isIn s = true ↔
      ∃ j, ((q.overlay s).ends (Bits.below (s.length + 1))).testBit j = true := by
  rw [isIn, decide_eq_true_eq]
  constructor
  · exact Nat.exists_testBit_of_ne_zero
  · rintro ⟨j, found⟩ none
    rw [none, Nat.zero_testBit] at found
    cases found

/-- A text stands at a place of another one if that has the text behind some part of it. -/
theorem infix_iff_exists_drop (p s : List Char) :
    p <:+: s ↔ ∃ i, i < s.length + 1 ∧ p <+: s.drop i := by
  constructor
  · rintro ⟨front, back, rfl⟩
    have inside : front.length < (front ++ p ++ back).length + 1 := by
      rw [List.length_append, List.length_append]
      omega
    refine ⟨front.length, inside, ?_⟩
    rw [List.append_assoc, List.drop_left]
    exact List.prefix_append p back
  · rintro ⟨i, -, start⟩
    exact start.isInfix.trans (List.drop_suffix i s).isInfix

/-- The pattern for a text is as long as the text at least. -/
theorem length_le_quoted (p : List Char) : p.length ≤ (quoted p).length := by
  induction p with
  | nil => exact Nat.le_refl 0
  | cons c p ih =>
    rw [quoted, List.flatMap_cons, List.length_append, List.length_cons, Nat.add_comm]
    refine Nat.add_le_add ?_ ih
    split <;> simp

/-- The pattern for a text, where it can be read, matches what the text occurs in. -/
theorem isIn_of_read_quoted {q : Pattern} (ascii : ∀ c ∈ s, c.toNat < 0x80)
    (h : read (quoted p) = some q) : q.isIn s = Text.isIn p s := by
  have run : Reader.run ((quoted p).length + 1) .start (quoted p) = some (Reader.start.behind p) :=
    run_quoted rfl (Nat.lt_succ_of_le (length_le_quoted p))
  have parts : q = (Item.join .then ((p.map (charItem .initial)).reverse ++ [])).pattern :=
    eq_of_read run h
  rw [List.append_nil] at parts
  rw [Bool.eq_iff_iff, isIn_iff_exists, parts, ends_join, Text.isIn_iff, infix_iff_exists_drop]
  simp only [testBit_endsOf ascii, Bits.testBit_below, decide_eq_true_eq]
  constructor
  · rintro ⟨-, i, inside, start, rfl⟩
    exact ⟨i, inside, start⟩
  · rintro ⟨i, inside, start⟩
    exact ⟨_, i, inside, start, rfl⟩

/-- The pattern for a text with a circumflex in front, where it can be read, matches what starts with the
text. -/
theorem isIn_of_read_start {q : Pattern} (ascii : ∀ c ∈ s, c.toNat < 0x80)
    (h : read ('^' :: quoted p) = some q) : q.isIn s = p.isPrefixOf s := by
  have run : Reader.run (('^' :: quoted p).length + 1) .start ('^' :: quoted p) =
      some ((Reader.start.push (lookItem .start)).behind p) :=
    run_quoted rfl (Nat.lt_succ_of_le (length_le_quoted p))
  have parts : q =
      (Item.join .then ((p.map (charItem .initial)).reverse ++ [lookItem .start])).pattern :=
    eq_of_read run h
  have first (places : Nat) :
      endsOf s ((p.map (charItem .initial)).reverse ++ [lookItem .start]) places =
        endsOf s (p.map (charItem .initial)).reverse
          (((Pattern.look .start).overlay s).ends places) :=
    List.foldr_append
  rw [Bool.eq_iff_iff, isIn_iff_exists, parts, ends_join, List.isPrefixOf_iff_prefix]
  simp only [first, testBit_endsOf ascii, testBit_ends_start, Bits.testBit_below, decide_eq_true_eq]
  constructor
  · rintro ⟨-, i, ⟨-, rfl⟩, start, -⟩
    exact start
  · exact fun start => ⟨_, 0, ⟨by omega, rfl⟩, start, rfl⟩

end Detour.Pattern
