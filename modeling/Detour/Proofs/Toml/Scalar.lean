import Detour.Proofs.Text.Ascii
import Detour.Proofs.Text.Split
import Detour.Proofs.Toml.Grammar
/-!
# Reading whole numbers and truth values of settings documents

Main statement: a whole number that is written as the grammar says is read as the number, in each base,
with or without a sign and underscores, and the reader stops behind it.
-/

namespace Detour.Toml.Grammar

open Scalar

/-- Letters and digits may stand in a row, and so may underscores. -/
theorem isRowChar_of_isAlphanum {c : Char} (h : c.isAlphanum = true ∨ c = '_') :
    isRowChar c = true := by
  rcases h with own | rfl
  · simp [isRowChar, own]
  · decide

/-- A row of digits is taken whole, and the digits are found in it. -/
theorem Digits.cases {base : Nat} {s d rest : List Char} (h : Digits base s d rest) :
    ∃ c row, s = c :: (row ++ rest) ∧ Text.isDigit base c = true ∧ d.head? = some c ∧
      (d.length = 1 → row = []) ∧ (∀ e ∈ row, e.isAlphanum = true ∨ e = '_') ∧
      digits? base (c :: row) = some d := by
  induction h with
  | @last c digit rest =>
    exact ⟨c, [], rfl, digit, rfl, fun _ => rfl, List.forall_mem_nil _, by simp [digits?, digit]⟩
  | @digit c s d rest digit later ih =>
    obtain ⟨e, row, rfl, own, first, single, all, read⟩ := ih
    have some : d ≠ [] := by
      rintro rfl
      cases first
    have underscore : e ≠ '_' := by
      rintro rfl
      exact absurd (Text.isAlphanum_of_isDigit own) (by decide)
    refine ⟨c, e :: row, rfl, digit, rfl, ?_, ?_, ?_⟩
    · intro length
      exact absurd (List.length_eq_zero_iff.1 (Nat.succ.inj length)) some
    · exact List.forall_mem_cons.2 ⟨.inl (Text.isAlphanum_of_isDigit own), all⟩
    · rw [digits?, if_pos digit, read]
      · rfl
      · exact List.cons_ne_nil e row
      · exact fun _ e => absurd (List.cons.inj e).1 underscore
  | @underscore c s d rest digit later ih =>
    obtain ⟨e, row, rfl, own, first, single, all, read⟩ := ih
    have some : d ≠ [] := by
      rintro rfl
      cases first
    refine ⟨c, '_' :: e :: row, rfl, digit, rfl, ?_, ?_, ?_⟩
    · intro length
      exact absurd (List.length_eq_zero_iff.1 (Nat.succ.inj length)) some
    · exact List.forall_mem_cons.2 ⟨.inr rfl,
        List.forall_mem_cons.2 ⟨.inl (Text.isAlphanum_of_isDigit own), all⟩⟩
    · rw [digits?, if_pos digit, read]
      rfl

/-- A row without colons, in which a minus sign stands at most in front, is no date and no time. -/
theorem not_moment {row : List Char} (colon : ':' ∉ row) (minus : '-' ∉ row.tail) :
    isMoment row = false ∧ isDate row = false := by
  have time : afterTime? row = none := by
    unfold afterTime?
    split
    · simp at colon
    · rfl
  have date : afterDate? row = none := by
    unfold afterDate?
    split
    · simp at minus
    · rfl
  simp [isMoment, isDate, time, date]

/-- A row that is no date is read by itself. -/
theorem read_row {row rest : List Char} {v : Value} (all : ∀ c ∈ row, isRowChar c = true)
    (stop : ∀ c ∈ rest.head?, isRowChar c = false) (date : isDate row = false)
    (value : ofRow row = some v) : Scalar.read (row ++ rest) = some (v, rest) := by
  rw [Scalar.read, Text.takeWhile_append_of_head? all stop, Text.dropWhile_append_of_head? all stop]
  rw [date, value]
  rfl

/-- A row that does not begin like a number in another base is read in base ten. -/
theorem integer?_decimal {row : List Char} (zero : row.head? = some '0' → row.tail = []) :
    integer? row =
      (((wholeDigits? (signed row).2).bind (Text.ofDigits? 10)).map (withSign (signed row).1)).filter
        fits := by
  unfold integer?
  dsimp only
  split
  all_goals simp_all

/-- A number in base ten is taken whole. If it starts with a zero, nothing else belongs to it. -/
theorem Decimal.cases {s rest : List Char} {n : Nat} (h : Decimal s n rest) :
    ∃ c row, s = c :: (row ++ rest) ∧ Text.isDigit 10 c = true ∧ (c = '0' → row = []) ∧
      (∀ e ∈ row, e.isAlphanum = true ∨ e = '_') ∧
      (wholeDigits? (c :: row)).bind (Text.ofDigits? 10) = some n := by
  obtain ⟨d, digits, zeros, number⟩ := h
  obtain ⟨c, row, split, own, first, single, all, read⟩ := digits.cases
  refine ⟨c, row, split, own, ?_, all, ?_⟩
  · rintro rfl
    rcases zeros with one | other
    · exact single one
    · exact absurd first other
  · have clean : (decide (d.length = 1) || decide (d.head? ≠ some '0')) = true := by simpa using zeros
    rw [wholeDigits?, read, Option.filter_some, if_pos clean, Option.bind_some, number]

/-- What is known of a row that writes a whole number. -/
structure WholeRow (row : List Char) (n : Int) : Prop where
  /-- It starts with a digit or a sign. -/
  first : ∃ c more, row = c :: more ∧ (Text.isDigit 10 c = true ∨ c = '+' ∨ c = '-') ∧
    ∀ e ∈ more, e.isAlphanum = true ∨ e = '_'
  /-- It is read as the number, if that is not too large. -/
  read : integer? row = (some n).filter fits

/-- A number in base ten with a sign or without one is read as what it writes. -/
theorem wholeRow_decimal {c : Char} {row : List Char} {n : Nat} (own : Text.isDigit 10 c = true)
    (zero : c = '0' → row = []) (all : ∀ e ∈ row, e.isAlphanum = true ∨ e = '_')
    (number : (wholeDigits? (c :: row)).bind (Text.ofDigits? 10) = some n) :
    WholeRow (c :: row) n ∧ WholeRow ('+' :: c :: row) n ∧ WholeRow ('-' :: c :: row) (-n) := by
  have letter := Text.isAlphanum_of_isDigit own
  have behind : ∀ e ∈ c :: row, e.isAlphanum = true ∨ e = '_' :=
    List.forall_mem_cons.2 ⟨.inl letter, all⟩
  have unsigned : signed (c :: row) = (false, c :: row) := by
    unfold signed
    split
    · rename_i same
      obtain ⟨rfl, -⟩ := List.cons.inj same
      exact absurd letter (by decide)
    · rename_i same
      obtain ⟨rfl, -⟩ := List.cons.inj same
      exact absurd letter (by decide)
    · rfl
  have plain : (c :: row).head? = some '0' → (c :: row).tail = [] :=
    fun e => zero (Option.some.inj e)
  have other {sign : Char} (h : sign ≠ '0') :
      (sign :: c :: row).head? = some '0' → (sign :: c :: row).tail = [] :=
    fun e => absurd (Option.some.inj e) h
  refine ⟨⟨⟨c, row, rfl, .inl own, all⟩, ?_⟩, ⟨⟨'+', _, rfl, .inr (.inl rfl), behind⟩, ?_⟩,
    ⟨⟨'-', _, rfl, .inr (.inr rfl), behind⟩, ?_⟩⟩
  · rw [integer?_decimal plain, unsigned]
    dsimp only
    rw [number]
    rfl
  · rw [integer?_decimal (other (by decide)), signed]
    dsimp only
    rw [number]
    rfl
  · rw [integer?_decimal (other (by decide)), signed]
    dsimp only
    rw [number]
    rfl

/-- A whole number is a row that is read as the number. -/
theorem Whole.row {s rest : List Char} {n : Int} (h : Whole s n rest) :
    ∃ row, s = row ++ rest ∧ WholeRow row n := by
  cases h with
  | plain number =>
    obtain ⟨c, row, rfl, own, zero, all, value⟩ := number.cases
    exact ⟨c :: row, rfl, (wholeRow_decimal own zero all value).1⟩
  | plus number =>
    obtain ⟨c, row, rfl, own, zero, all, value⟩ := number.cases
    exact ⟨'+' :: c :: row, rfl, (wholeRow_decimal own zero all value).2.1⟩
  | minus number =>
    obtain ⟨c, row, rfl, own, zero, all, value⟩ := number.cases
    exact ⟨'-' :: c :: row, rfl, (wholeRow_decimal own zero all value).2.2⟩
  | @marked mark base n _ d _ known digits number =>
    obtain ⟨c, row, rfl, own, -, -, all, read⟩ := digits.cases
    have value : (digits? base (c :: row)).bind (Text.ofDigits? base) = some n := by
      rw [read, Option.bind_some, number]
    have behind : ∀ e ∈ c :: row, e.isAlphanum = true ∨ e = '_' :=
      List.forall_mem_cons.2 ⟨.inl (Text.isAlphanum_of_isDigit own), all⟩
    simp only [baseMarks, List.mem_cons, Prod.mk.injEq, List.not_mem_nil, or_false] at known
    refine ⟨'0' :: mark :: c :: row, rfl, ⟨'0', _, rfl, .inl (by decide), ?_⟩, ?_⟩
    · refine List.forall_mem_cons.2 ⟨.inl ?_, behind⟩
      rcases known with ⟨rfl, rfl⟩ | ⟨rfl, rfl⟩ | ⟨rfl, rfl⟩ <;> decide
    · rcases known with ⟨rfl, rfl⟩ | ⟨rfl, rfl⟩ | ⟨rfl, rfl⟩
      · rw [integer?, value]
        rfl
      · rw [integer?, value]
        rfl
      · rw [integer?, value]
        rfl

/-- A whole number is read, up to where its row ends. -/
theorem Whole.read {s rest : List Char} {n : Int} (h : Whole s n rest) (small : fits n = true)
    (stop : ∀ c ∈ rest.head?, isRowChar c = false) : Scalar.read s = some (.integer n, rest) := by
  obtain ⟨row, rfl, ⟨c, more, rfl, first, behind⟩, read⟩ := h.row
  have all : ∀ e ∈ c :: more, isRowChar e = true := by
    refine List.forall_mem_cons.2 ⟨?_, fun e found => isRowChar_of_isAlphanum (behind e found)⟩
    rcases first with digit | rfl | rfl
    · exact isRowChar_of_isAlphanum (.inl (Text.isAlphanum_of_isDigit digit))
    · decide
    · decide
  have colon : ':' ∉ c :: more := by
    intro found
    rcases List.mem_cons.1 found with rfl | later
    · exact absurd first (by decide)
    · exact absurd (behind ':' later) (by decide)
  have minus : '-' ∉ more := fun found => absurd (behind '-' found) (by decide)
  have word {w : List Char} {d : Char} (head : w.head? = some d)
      (other : ¬(Text.isDigit 10 d = true ∨ d = '+' ∨ d = '-')) : c :: more ≠ w := by
    rintro rfl
    obtain rfl : c = d := Option.some.inj head
    exact other first
  have moment := not_moment colon minus
  refine read_row all stop moment.2 ?_
  have value : integer? (c :: more) = some n := by
    rw [read, Option.filter_some, if_pos small]
  rw [ofRow, if_neg (word (d := 't') rfl (by decide)), if_neg (word (d := 'f') rfl (by decide)), moment.1,
    if_neg Bool.false_ne_true, value]

/-- True and false are read. -/
theorem read_boolean {rest : List Char} (b : Bool) (stop : ∀ c ∈ rest.head?, isRowChar c = false) :
    Scalar.read ((if b then "true".toList else "false".toList) ++ rest) = some (.boolean b, rest) := by
  cases b with
  | true => exact read_row (Text.forall_mem_of_all (by decide)) stop (by decide) rfl
  | false => exact read_row (Text.forall_mem_of_all (by decide)) stop (by decide) rfl

end Detour.Toml.Grammar
