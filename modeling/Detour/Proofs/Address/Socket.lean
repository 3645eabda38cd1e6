import Detour.Address.Socket
import Detour.Proofs.Address.Ipv6
import Detour.Proofs.Text.Ascii
/-!
# How addresses with a port are written

What it means that a text writes an address with a port, said without a reader: four bytes, or eight
groups between brackets, with a gap in place of zeros, the last two groups written as four bytes, or a
zone. Main statement: such a text is read as the address that it writes.
-/

namespace Detour.Address

/-- Digits write a number that is not too large. Zeros may stand in front of it. -/
def IsNumber (most : Nat) (digits : List Char) (n : Nat) : Prop :=
  Text.ofDigits? 10 digits = some n ∧ n ≤ most

namespace Ipv6

/-- Up to four digits in base sixteen write a group. -/
def IsGroup (s : List Char) (n : Nat) : Prop := s.length ≤ 4 ∧ Text.ofDigits? 16 s = some n

/-- Pieces write groups. The last piece may stand for the last two groups, as an address of four bytes. -/
inductive Pieces : List (List Char) → List Nat → Prop where
  /-- The last group. -/
  | last {s : List Char} {n : Nat} (group : IsGroup s n) : Pieces [s] [n]
  /-- The last two groups. -/
  | bytes {n : Nat} (small : n < 0x100000000) : Pieces [Ipv4.text n] [n / 0x10000, n % 0x10000]
  /-- A group in front of others. -/
  | more {s : List Char} {n : Nat} {pieces : List (List Char)} {groups : List Nat} (group : IsGroup s n)
    (later : Pieces pieces groups) : Pieces (s :: pieces) (n :: groups)

/-- What stands on one side of a gap. -/
inductive Side : List Char → List Nat → Prop where
  /-- Nothing. -/
  | nothing : Side [] []
  /-- Groups with colons between them. -/
  | groups {pieces : List (List Char)} {groups : List Nat} (written : Pieces pieces groups) :
    Side (Text.joinWith ':' pieces) groups

/-- A text writes an address of eight groups. -/
inductive Writes : List Char → List Nat → Prop where
  /-- With all of them. -/
  | full {pieces : List (List Char)} {groups : List Nat} (written : Pieces pieces groups)
    (eight : groups.length = 8) : Writes (Text.joinWith ':' pieces) groups
  /-- With a gap in place of some that are zero. Four bytes may not stand before it. -/
  | gap {s t : List Char} {before after : List Nat} (front : Side s before) (bytes : '.' ∉ s)
    (back : Side t after) (short : before.length + after.length < 8) :
    Writes (s ++ ':' :: ':' :: t)
      (before ++ List.replicate (8 - before.length - after.length) 0 ++ after)

end Ipv6

/-- A text writes an address with a port. -/
inductive Socket.Writes : List Char → Socket → Prop where
  /-- An address of four bytes. -/
  | four {n port : Nat} {digits : List Char} (small : n < 0x100000000)
    (number : IsNumber 65535 digits port) : Writes (Ipv4.text n ++ ':' :: digits) (.four n port)
  /-- An address of eight groups. -/
  | eight {s digits : List Char} {groups : List Nat} {port : Nat} (address : Ipv6.Writes s groups)
    (number : IsNumber 65535 digits port) :
    Writes ('[' :: (s ++ ']' :: ':' :: digits)) (.eight groups 0 port)
  /-- An address of eight groups in a zone. -/
  | zoned {s digits name : List Char} {groups : List Nat} {zone port : Nat}
    (address : Ipv6.Writes s groups) (place : IsNumber 4294967295 name zone)
    (number : IsNumber 65535 digits port) :
    Writes ('[' :: (s ++ '%' :: (name ++ ']' :: ':' :: digits))) (.eight groups zone port)

namespace Ipv4

/-- A byte is read. -/
theorem parseByte_decimal {n : Nat} (h : n < 0x100) : parseByte (Text.decimal n) = some n := by
  have short : (Text.decimal n).length ≤ 3 :=
    (Nat.length_toDigits_le_iff (by decide) (by decide)).2 (by omega)
  have digits : (Text.decimal n).isEmpty = false := List.isEmpty_eq_false_iff.2 Nat.toDigits_ne_nil
  have zero : (Text.decimal n).head? ≠ some '0' ∨ (Text.decimal n).length ≤ 1 := by
    by_cases positive : 0 < n
    · exact .inl (Text.head?_toDigits (by decide) (by decide) positive)
    · obtain rfl : n = 0 := by omega
      exact .inr (by decide)
  have read : Text.ofDigits? 10 (Text.decimal n) = some n := by
    rw [Text.ofDigits?, digits]
    exact Text.digitsFrom?_toDigits (by decide) (by decide) n
  have clean : (decide ((Text.decimal n).length ≤ 3) &&
      !(decide ((Text.decimal n).head? = some '0') && decide (1 < (Text.decimal n).length))) = true := by
    simpa [short] using zero
  rw [parseByte, if_pos clean, read]
  simp
  omega

/-- An address of four bytes is read in its usual form. -/
theorem parseDotted_text {n : Nat} (h : n < 0x100000000) : parseDotted (text n) = some n := by
  have read : (pieces n).mapM parseByte =
      some [n / 0x1000000, n / 0x10000 % 0x100, n / 0x100 % 0x100, n % 0x100] := by
    rw [Text.mapM_eq_some_iff]
    simp only [pieces, List.map_cons, List.map_nil]
    rw [parseByte_decimal (by omega), parseByte_decimal (by omega), parseByte_decimal (by omega),
      parseByte_decimal (by omega)]
  rw [parseDotted, splitOn_text, read]
  simp only [Option.some.injEq]
  omega

end Ipv4

namespace Ipv6

/-- A group has digits only. -/
theorem IsGroup.solid {s : List Char} {n : Nat} (h : IsGroup s n) :
    s ≠ [] ∧ ∀ c ∈ s, c.isAlphanum = true := by
  refine ⟨?_, fun c found => Text.isAlphanum_of_isDigit (Text.isDigit_of_mem_of_ofDigits? h.2 c found)⟩
  rintro rfl
  exact absurd h.2 (by simp [Text.ofDigits?])

/-- A group is read. -/
theorem IsGroup.parseGroup {s : List Char} {n : Nat} (h : IsGroup s n) : parseGroup s = some n := by
  rw [Ipv6.parseGroup, if_pos h.1, h.2]

/-- Four bytes are no group. -/
theorem parseGroup_text (n : Nat) : parseGroup (Ipv4.text n) = none := by
  have point : '.' ∈ Ipv4.text n := by simp [Ipv4.text, Text.joinWith, List.intercalate]
  rw [parseGroup]
  split
  · cases digits : Text.ofDigits? 16 (Ipv4.text n) with
    | none => rfl
    | some m => exact absurd (Text.isDigit_of_mem_of_ofDigits? digits '.' point) (by decide)
  · rfl

/-- Pieces consist of letters, digits and points. -/
theorem Pieces.solid {pieces : List (List Char)} {groups : List Nat} (h : Pieces pieces groups) :
    pieces ≠ [] ∧ ∀ p ∈ pieces, p ≠ [] ∧ ∀ c ∈ p, c = '.' ∨ c.isAlphanum = true := by
  induction h with
  | last group =>
    obtain ⟨some, all⟩ := group.solid
    exact ⟨List.cons_ne_nil _ _, List.forall_mem_singleton.2 ⟨some, fun c found => .inr (all c found)⟩⟩
  | @bytes n _ =>
    refine ⟨List.cons_ne_nil _ _, List.forall_mem_singleton.2 ⟨?_, fun c found => ?_⟩⟩
    · intro nothing
      have point : '.' ∈ Ipv4.text n := by simp [Ipv4.text, Text.joinWith, List.intercalate]
      rw [nothing] at point
      cases point
    · refine (Ipv4.isDigit_of_mem_text found).imp_right fun digit => ?_
      rw [Char.isAlphanum, digit, Bool.or_true]
  | more group _ ih =>
    obtain ⟨some, all⟩ := group.solid
    exact ⟨List.cons_ne_nil _ _,
      List.forall_mem_cons.2 ⟨⟨some, fun c found => .inr (all c found)⟩, ih.2⟩⟩

/-- Pieces are read as the groups that they write. -/
theorem Pieces.parseGroups {pieces : List (List Char)} {groups : List Nat} (h : Pieces pieces groups) :
    parseGroups pieces = some groups := by
  induction h with
  | last group => rw [Ipv6.parseGroups, group.parseGroup]
  | bytes small => rw [Ipv6.parseGroups, parseGroup_text, Ipv4.parseDotted_text small]
  | @more s n pieces groups group later ih =>
    obtain ⟨p, rest, rfl⟩ := List.exists_cons_of_ne_nil later.solid.1
    rw [Ipv6.parseGroups, group.parseGroup, ih]
    exact List.cons_ne_nil p rest

/-- Pieces that are joined are cut apart again, and there is no gap in them. -/
theorem Pieces.joined {pieces : List (List Char)} {groups : List Nat} (h : Pieces pieces groups) :
    Text.joinWith ':' pieces ≠ [] ∧ Text.splitOn ':' (Text.joinWith ':' pieces) = pieces ∧
      ∀ before rest, splitGapFrom before (Text.joinWith ':' pieces ++ rest) =
        splitGapFrom ((Text.joinWith ':' pieces).reverse ++ before) rest := by
  obtain ⟨some, solid⟩ := h.solid
  have colon : ∀ p ∈ pieces, ':' ∉ p := by
    intro p piece found
    exact absurd ((solid p piece).2 ':' found) (by decide)
  refine ⟨?_, Text.splitOn_joinWith some colon, fun before rest =>
    splitGapFrom_joinWith before rest fun p piece => ⟨(solid p piece).1, colon p piece⟩⟩
  obtain ⟨p, more, rfl⟩ := List.exists_cons_of_ne_nil some
  obtain ⟨c, word, rfl⟩ := List.exists_cons_of_ne_nil (solid p List.mem_cons_self).1
  exact List.ne_nil_of_mem (Text.mem_joinWith_of_mem List.mem_cons_self List.mem_cons_self)

/-- One side of a gap is read, and there is no gap in it. -/
theorem Side.parseSide {s : List Char} {groups : List Nat} (h : Side s groups) :
    parseSide s = some groups ∧
      ∀ before rest, splitGapFrom before (s ++ rest) = splitGapFrom (s.reverse ++ before) rest := by
  cases h with
  | nothing => exact ⟨rfl, fun before rest => rfl⟩
  | groups written =>
    obtain ⟨some, split, gap⟩ := written.joined
    refine ⟨?_, gap⟩
    rw [Ipv6.parseSide, List.isEmpty_eq_false_iff.2 some, if_neg Bool.false_ne_true, split,
      written.parseGroups]

/-- The groups of an address are read. -/
theorem Writes.parse {s : List Char} {groups : List Nat} (h : Writes s groups) :
    parse s = some groups := by
  cases h with
  | @full pieces _ written eight =>
    obtain ⟨-, split, gap⟩ := written.joined
    have none : splitGap (Text.joinWith ':' pieces) = none := by
      have whole := gap [] []
      rwa [List.append_nil] at whole
    rw [Ipv6.parse, none]
    dsimp only
    rw [split, written.parseGroups, Option.filter_some, eight]
    rfl
  | @gap s t before after front bytes back short =>
    obtain ⟨left, passed⟩ := front.parseSide
    have found : splitGap (s ++ ':' :: ':' :: t) = some (s, t) := by
      rw [splitGap, passed, splitGapFrom, List.append_nil, List.reverse_reverse]
    rw [Ipv6.parse, found]
    dsimp only
    rw [if_neg bytes, left, back.parseSide.1]
    dsimp only
    rw [if_pos short]

/-- An address consists of letters, digits, colons and points. -/
theorem Writes.chars {s : List Char} {groups : List Nat} (h : Writes s groups) :
    ∀ c ∈ s, c = ':' ∨ c = '.' ∨ c.isAlphanum = true := by
  have joined {pieces : List (List Char)} {groups : List Nat} (written : Pieces pieces groups) :
      ∀ c ∈ Text.joinWith ':' pieces, c = ':' ∨ c = '.' ∨ c.isAlphanum = true := by
    intro c found
    rcases Text.mem_joinWith found with colon | ⟨p, piece, inside⟩
    · exact .inl colon
    · exact .inr ((written.solid.2 p piece).2 c inside)
  have side {s : List Char} {groups : List Nat} (h : Side s groups) :
      ∀ c ∈ s, c = ':' ∨ c = '.' ∨ c.isAlphanum = true := by
    cases h with
    | nothing => exact List.forall_mem_nil _
    | groups written => exact joined written
  cases h with
  | full written => exact joined written
  | gap front _ back =>
    rw [List.forall_mem_append, List.forall_mem_cons, List.forall_mem_cons]
    exact ⟨side front, .inl rfl, .inl rfl, side back⟩

end Ipv6

namespace Socket

/-- A number is read. -/
theorem number?_eq {most n : Nat} {digits : List Char} (h : IsNumber most digits n) :
    number? most digits = some n := by
  rw [number?, h.1, Option.filter_some, if_pos (by simpa using h.2)]

/-- A number has digits only. -/
theorem isAlphanum_of_isNumber {most n : Nat} {digits : List Char} (h : IsNumber most digits n) :
    ∀ c ∈ digits, c.isAlphanum = true :=
  fun c found => Text.isAlphanum_of_isDigit (Text.isDigit_of_mem_of_ofDigits? h.1 c found)

/-- A port is read behind its colon. -/
theorem port?_eq {port : Nat} {digits : List Char} (h : IsNumber 65535 digits port) :
    port? (':' :: digits) = some port := by
  rw [port?, number?_eq h]

/-- What stands behind the opening bracket is read, whether a zone is named or not. -/
theorem parseEight_eq {s name digits : List Char} {groups : List Nat} {zone port : Nat}
    (address : Ipv6.Writes s groups) (place : zone? name = some zone)
    (first : ∀ c ∈ name.head?, c = '%') (bracket : ']' ∉ name) (number : IsNumber 65535 digits port) :
    parseEight (s ++ name ++ ']' :: ':' :: digits) = some (.eight groups zone port) := by
  have other {c : Char} (outside : ¬(c = ':' ∨ c = '.' ∨ c.isAlphanum = true)) : c ∉ s :=
    fun found => outside (address.chars c found)
  have closed : ']' ∉ s ++ name := by
    rw [List.mem_append, not_or]
    exact ⟨other (by decide), bracket⟩
  have inner : (s ++ name ++ ']' :: ':' :: digits).takeWhile (· ≠ ']') = s ++ name := by
    refine Text.takeWhile_append_of_head? (fun c found => ?_) (by simp)
    rw [decide_eq_true_eq]
    rintro rfl
    exact closed found
  have front : (s ++ name).takeWhile (· ≠ '%') = s := by
    refine Text.takeWhile_append_of_head? (fun c found => ?_) fun c found => by simp [first c found]
    rw [decide_eq_true_eq]
    rintro rfl
    exact other (by decide) found
  have behind : (s ++ name ++ ']' :: ':' :: digits).drop ((s ++ name).length + 1) = ':' :: digits := by
    rw [← List.drop_drop, List.drop_left, List.drop_one, List.tail_cons]
  rw [parseEight, inner, front, address.parse, List.drop_left, place, behind, port?_eq number]

/-- An address with a port is read from a text that writes it. -/
theorem Writes.parse {s : List Char} {socket : Socket} (h : Writes s socket) :
    parse s = some socket := by
  cases h with
  | @four n port digits small number =>
    have plain : ∀ c ∈ Ipv4.text n, c ≠ ':' ∧ c ≠ '[' := by
      intro c found
      rcases Ipv4.isDigit_of_mem_text found with rfl | digit
      · decide
      · constructor
        · rintro rfl
          exact absurd digit (by decide)
        · rintro rfl
          exact absurd digit (by decide)
    have front : (Ipv4.text n ++ ':' :: digits).takeWhile (· ≠ ':') = Ipv4.text n :=
      Text.takeWhile_append_of_head? (fun c found => by simpa using (plain c found).1) (by simp)
    have back : (Ipv4.text n ++ ':' :: digits).dropWhile (· ≠ ':') = ':' :: digits :=
      Text.dropWhile_append_of_head? (fun c found => by simpa using (plain c found).1) (by simp)
    have read : parseFour (Ipv4.text n ++ ':' :: digits) = some (.four n port) := by
      rw [parseFour, front, back, Ipv4.parseDotted_text small, port?_eq number]
    rw [Socket.parse, read]
    intro rest same
    cases text : Ipv4.text n with
    | nil =>
      rw [text] at same
      exact absurd (List.cons.inj same).1 (by decide)
    | cons c more =>
      rw [text] at same plain
      exact (plain c List.mem_cons_self).2 (List.cons.inj same).1
  | @eight s digits groups port address number =>
    have read := parseEight_eq address (show zone? [] = some 0 from rfl) nofun List.not_mem_nil number
    rwa [List.append_nil] at read
  | @zoned s digits name groups zone port address place number =>
    have bracket : ']' ∉ '%' :: name := by
      rw [List.mem_cons, not_or]
      exact ⟨by decide, fun found => absurd (isAlphanum_of_isNumber place _ found) (by decide)⟩
    have known : zone? ('%' :: name) = some zone := number?_eq place
    have read := parseEight_eq address known (fun c found => (Option.some.inj found).symm) bracket number
    rwa [List.append_assoc] at read

end Socket

end Detour.Address
