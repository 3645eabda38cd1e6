import Detour.Address.Ipv6
import Detour.Proofs.Address.Ipv4
import Detour.Proofs.Text.Numeral
import Detour.Proofs.Text.Split
/-!
# Reading addresses of eight groups back

Main statements: an address that was read has eight groups of sixteen bits, and such an address is read
from its own text, with or without a row of zeros left out.
-/

namespace Detour.Address.Ipv6

/-- An address: eight groups of sixteen bits. -/
def IsAddress (groups : List Nat) : Prop := groups.length = 8 ∧ ∀ g ∈ groups, g < 0x10000

/-- There is no colon in a group. -/
theorem colon_not_mem_hexadecimal (n : Nat) : ':' ∉ Text.hexadecimal n :=
  fun h => absurd (Text.isAlphanum_of_mem_hexadecimal h) (by decide)

/-- Groups are written with letters, digits and colons. -/
theorem isAlphanum_of_mem_groupsText {groups : List Nat} {c : Char} (h : c ∈ groupsText groups) :
    c = ':' ∨ c.isAlphanum = true := by
  rcases Text.mem_joinWith h with colon | ⟨p, piece, digit⟩
  · exact .inl colon
  · obtain ⟨m, -, rfl⟩ := List.mem_map.1 piece
    exact .inr (Text.isAlphanum_of_mem_hexadecimal digit)

/-- An address is written with letters, digits and colons. -/
theorem isAlphanum_of_mem_text {groups : List Nat} {c : Char} (h : c ∈ text groups) :
    c = ':' ∨ c.isAlphanum = true := by
  unfold text at h
  dsimp only at h
  split at h
  · exact isAlphanum_of_mem_groupsText h
  · rcases List.mem_append.1 h with front | back
    · rcases List.mem_append.1 front with front | gap
      · exact isAlphanum_of_mem_groupsText front
      · left
        simpa using gap
    · exact isAlphanum_of_mem_groupsText back

/-- A group is read from its own text. -/
theorem parseGroup_hexadecimal {n : Nat} (h : n < 0x10000) :
    parseGroup (Text.hexadecimal n) = some n := by
  have short : (Text.hexadecimal n).length ≤ 4 :=
    (Nat.length_toDigits_le_iff (by decide) (by decide)).2 h
  have digits : (Text.hexadecimal n).isEmpty = false :=
    List.isEmpty_eq_false_iff.2 Nat.toDigits_ne_nil
  rw [parseGroup, if_pos short, Text.ofDigits?, digits]
  exact Text.digitsFrom?_toDigits (by decide) (by decide) n

/-- Groups are read from their own texts. -/
theorem parseGroups_hexadecimal {groups : List Nat} (h : ∀ g ∈ groups, g < 0x10000) :
    parseGroups (groups.map Text.hexadecimal) = some groups := by
  induction groups with
  | nil => rfl
  | cons g rest ih =>
    obtain ⟨own, others⟩ := List.forall_mem_cons.1 h
    have first := parseGroup_hexadecimal own
    cases rest with
    | nil => simp [parseGroups, first]
    | cons k rest =>
      have later := ih others
      rw [List.map_cons] at later
      simp [parseGroups, first, later]

/-- Groups that are written are cut apart at the colons. -/
theorem splitOn_groupsText {groups : List Nat} (some : groups ≠ []) :
    Text.splitOn ':' (groupsText groups) = groups.map Text.hexadecimal := by
  refine Text.splitOn_joinWith (by simpa using some) fun p piece => ?_
  obtain ⟨m, -, rfl⟩ := List.mem_map.1 piece
  exact colon_not_mem_hexadecimal m

/-- The groups on one side of a gap are read back. -/
theorem parseSide_groupsText {groups : List Nat} (h : ∀ g ∈ groups, g < 0x10000) :
    parseSide (groupsText groups) = some groups := by
  cases groups with
  | nil => rfl
  | cons g rest =>
    have full : (groupsText (g :: rest)).isEmpty = false := by
      obtain ⟨c, digits, first⟩ :=
        List.exists_cons_of_ne_nil (Nat.toDigits_ne_nil (n := g) (b := 16))
      have inside : c ∈ groupsText (g :: rest) :=
        Text.mem_joinWith_of_mem (List.mem_map_of_mem List.mem_cons_self)
          (show c ∈ Nat.toDigits 16 g from first ▸ List.mem_cons_self)
      exact List.isEmpty_eq_false_iff.2 (List.ne_nil_of_mem inside)
    rw [parseSide, full, if_neg Bool.false_ne_true, splitOn_groupsText (List.cons_ne_nil g rest)]
    exact parseGroups_hexadecimal h

/-- A row of zeros: where it starts and how long it is. -/
def IsZeroRow (groups : List Nat) (row : Nat × Nat) : Prop :=
  (groups.drop row.1).take row.2 = List.replicate row.2 0

/-- Where a row of zeros starts that comes next. -/
theorem isZeroRow_zerosAhead {groups : List Nat} (index : Nat) :
    IsZeroRow groups (index, zerosAhead (groups.drop index)) := by
  have ahead := List.prefix_iff_eq_take.1
    (List.takeWhile_prefix (l := groups.drop index) (fun g => decide (g = 0)))
  refine ahead.symm.trans (List.eq_replicate_iff.2 ⟨rfl, fun g inside => ?_⟩)
  simpa using List.all_eq_true.1 List.all_takeWhile g inside

/-- Looking for a longer row finds a row of zeros. -/
theorem isZeroRow_longestZerosFrom {whole groups : List Nat} {index : Nat} {best : Nat × Nat}
    (behind : whole.drop index = groups) (row : IsZeroRow whole best) :
    IsZeroRow whole (longestZerosFrom index best groups) := by
  -- By induction on the groups still to come; the best row so far is one of the whole address.
  induction groups generalizing index best with
  | nil => exact row
  | cons g rest ih =>
    have next : whole.drop (index + 1) = rest := by rw [← List.tail_drop, behind, List.tail_cons]
    rw [longestZerosFrom]
    refine ih next ?_
    split
    · rw [← behind]
      exact isZeroRow_zerosAhead index
    · exact row

/-- The row of zeros that is left out consists of zeros. -/
theorem isZeroRow_longestZeros (groups : List Nat) : IsZeroRow groups (longestZeros groups) :=
  isZeroRow_longestZerosFrom rfl rfl

/-- A row of zeros lies between the groups in front of it and those behind it. -/
theorem eq_append_of_isZeroRow {groups : List Nat} {start count : Nat}
    (row : IsZeroRow groups (start, count)) :
    groups.take start ++ List.replicate count 0 ++ groups.drop (start + count) = groups := by
  rw [← row, List.append_assoc, ← List.drop_drop, List.take_append_drop, List.take_append_drop]

/-- A gap starts where two colons stand. -/
theorem splitGapFrom_cons {before rest : List Char} {c : Char}
    (gap : ¬(c = ':' ∧ rest.head? = some ':')) :
    splitGapFrom before (c :: rest) = splitGapFrom (c :: before) rest := by
  cases rest with
  | nil => rfl
  | cons d rest =>
    rw [splitGapFrom]
    · exact fun e => nomatch e
    · rintro rest rfl e
      cases e
      exact gap ⟨rfl, rfl⟩

/-- No gap starts in a text without colons. -/
theorem splitGapFrom_append_of_not_mem {before word : List Char} (rest : List Char)
    (colon : ':' ∉ word) :
    splitGapFrom before (word ++ rest) = splitGapFrom (word.reverse ++ before) rest := by
  induction word generalizing before with
  | nil => rfl
  | cons c word ih =>
    have other : c ≠ ':' := fun e => colon (e ▸ List.mem_cons_self)
    rw [List.cons_append, splitGapFrom_cons fun e => other e.1,
      ih fun found => colon (List.mem_cons_of_mem c found)]
    simp

/-- No gap starts between pieces that are not empty. -/
theorem splitGapFrom_joinWith (before : List Char) {pieces : List (List Char)} (rest : List Char)
    (solid : ∀ p ∈ pieces, p ≠ [] ∧ ':' ∉ p) :
    splitGapFrom before (Text.joinWith ':' pieces ++ rest) =
      splitGapFrom ((Text.joinWith ':' pieces).reverse ++ before) rest := by
  induction pieces generalizing before with
  | nil => rfl
  | cons p more ih =>
    obtain ⟨own, others⟩ := List.forall_mem_cons.1 solid
    cases more with
    | nil =>
      rw [Text.joinWith_singleton]
      exact splitGapFrom_append_of_not_mem rest own.2
    | cons q more =>
      obtain ⟨c, word, rfl⟩ := List.exists_cons_of_ne_nil (others q List.mem_cons_self).1
      have first : ∃ after, Text.joinWith ':' ((c :: word) :: more) = c :: after := by
        cases more with
        | nil => exact ⟨word, by simp⟩
        | cons r more => exact ⟨_, Text.joinWith_cons ':' _ (List.cons_ne_nil r more)⟩
      obtain ⟨after, joined⟩ := first
      have colon : c ≠ ':' := fun e => (others _ List.mem_cons_self).2 (e ▸ List.mem_cons_self)
      rw [Text.joinWith_cons ':' p (List.cons_ne_nil _ _), List.append_assoc,
        splitGapFrom_append_of_not_mem _ own.2, List.cons_append, splitGapFrom_cons, ih _ others]
      · simp
      · rw [joined]
        rintro ⟨-, same⟩
        exact colon (Option.some.inj same)

/-- No gap starts between groups. -/
theorem splitGapFrom_groupsText (before : List Char) (groups : List Nat) (rest : List Char) :
    splitGapFrom before (groupsText groups ++ rest) =
      splitGapFrom ((groupsText groups).reverse ++ before) rest := by
  refine splitGapFrom_joinWith before rest fun p piece => ?_
  obtain ⟨n, -, rfl⟩ := List.mem_map.1 piece
  exact ⟨Nat.toDigits_ne_nil, colon_not_mem_hexadecimal n⟩

variable {groups : List Nat}

/-- Eight groups are read from their text. -/
theorem parse_groupsText (h : IsAddress groups) : parse (groupsText groups) = some groups := by
  obtain ⟨eight, small⟩ := h
  have gap : splitGap (groupsText groups) = none := by
    have read := splitGapFrom_groupsText [] groups []
    rwa [List.append_nil] at read
  have some : groups ≠ [] := fun e => by rw [e] at eight; cases eight
  rw [parse, gap]
  dsimp only
  rw [splitOn_groupsText some, parseGroups_hexadecimal small, Option.filter_some, eight]
  rfl

/-- Eight groups are read from a text with a gap in place of a row of zeros. -/
theorem parse_gap {start count : Nat} (h : IsAddress groups) (row : IsZeroRow groups (start, count))
    (long : 0 < count) :
    parse (groupsText (groups.take start) ++ "::".toList ++ groupsText (groups.drop (start + count))) =
      some groups := by
  obtain ⟨eight, small⟩ := h
  have parts := eq_append_of_isZeroRow row
  have lengths := congrArg List.length parts
  rw [List.length_append, List.length_append, List.length_replicate, eight] at lengths
  have gap : splitGap (groupsText (groups.take start) ++ "::".toList ++
      groupsText (groups.drop (start + count))) =
      some (groupsText (groups.take start), groupsText (groups.drop (start + count))) := by
    rw [splitGap, List.append_assoc, splitGapFrom_groupsText]
    simp [splitGapFrom]
  have point : '.' ∉ groupsText (groups.take start) := by
    intro found
    rcases isAlphanum_of_mem_groupsText found with e | e <;> exact absurd e (by decide)
  have front : parseSide (groupsText (groups.take start)) = some (groups.take start) :=
    parseSide_groupsText fun g found => small g (List.mem_of_mem_take found)
  have back : parseSide (groupsText (groups.drop (start + count))) =
      some (groups.drop (start + count)) :=
    parseSide_groupsText fun g found => small g (List.mem_of_mem_drop found)
  have zeros : 8 - (groups.take start).length - (groups.drop (start + count)).length = count := by
    omega
  rw [parse, gap]
  dsimp only
  rw [if_neg point, front, back]
  dsimp only
  rw [if_pos (by omega), zeros, parts]

/-- An address is read from its own text. -/
theorem parse_text (h : IsAddress groups) : parse (text groups) = some groups := by
  have row := isZeroRow_longestZeros groups
  unfold text
  generalize longestZeros groups = zeros at row
  obtain ⟨start, count⟩ := zeros
  dsimp only
  split
  · exact parse_groupsText h
  · exact parse_gap h row (by omega)

/-- An address of eight groups holds a colon. -/
theorem colon_mem_text (h : IsAddress groups) : ':' ∈ text groups := by
  have colons : ':' ∈ groupsText groups := by
    refine Decidable.byContradiction fun none => ?_
    have some : groups ≠ [] := by
      rintro rfl
      cases h.1
    have pieces := splitOn_groupsText some
    rw [Text.splitOn_of_not_mem none] at pieces
    have count := congrArg List.length pieces
    rw [List.length_map, h.1] at count
    cases count
  unfold text
  dsimp only
  split
  · exact colons
  · simp

/-- A group has sixteen bits. -/
theorem lt_of_parseGroup {s : List Char} {g : Nat} (h : parseGroup s = some g) : g < 0x10000 := by
  rw [parseGroup] at h
  split at h
  · rename_i short
    rw [Text.ofDigits?] at h
    split at h
    · cases h
    · have bound := Text.lt_of_digitsFrom? h
      have power : Nat.pow 16 s.length ≤ 0x10000 := Nat.pow_le_pow_right (by decide) short
      omega
  · cases h

/-- All groups that were read have sixteen bits. -/
theorem lt_of_mem_parseGroups {parts : List (List Char)}
    (h : parseGroups parts = some groups) : ∀ g ∈ groups, g < 0x10000 := by
  fun_induction parseGroups parts generalizing groups with
  | case1 =>
    cases h
    exact List.forall_mem_nil _
  | case2 last group read =>
    cases h
    exact List.forall_mem_singleton.2 (lt_of_parseGroup read)
  | case3 last _ n read =>
    cases h
    have small := Ipv4.lt_of_parseDotted read
    simp only [List.forall_mem_cons]
    refine ⟨by omega, by omega, List.forall_mem_nil _⟩
  | case4 => cases h
  | case5 s rest _ group later read first ih =>
    cases h
    exact List.forall_mem_cons.2 ⟨lt_of_parseGroup first, ih read⟩
  | case6 => cases h

/-- All groups on one side of a gap have sixteen bits. -/
theorem lt_of_mem_parseSide {s : List Char} (h : parseSide s = some groups) :
    ∀ g ∈ groups, g < 0x10000 := by
  unfold parseSide at h
  split at h
  · cases h
    exact List.forall_mem_nil _
  · exact lt_of_mem_parseGroups h

/-- What was read is an address. -/
theorem isAddress_of_parse {s : List Char} (h : parse s = some groups) :
    IsAddress groups := by
  unfold parse at h
  split at h
  · obtain ⟨read, eight⟩ := Option.filter_eq_some_iff.1 h
    exact ⟨by simpa using eight, lt_of_mem_parseGroups read⟩
  · split at h
    · cases h
    split at h
    · rename_i front back
      split at h
      · rename_i short
        cases h
        refine ⟨?_, fun g found => ?_⟩
        · simp only [List.length_append, List.length_replicate]
          omega
        · rcases List.mem_append.1 found with found | found
          · rcases List.mem_append.1 found with found | found
            · exact lt_of_mem_parseSide front g found
            · rw [List.eq_of_mem_replicate found]
              decide
          · exact lt_of_mem_parseSide back g found
      · cases h
    · cases h

end Detour.Address.Ipv6
