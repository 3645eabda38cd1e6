import Detour.Toml.Value
/-!
# Numbers, dates and truth values in a settings document

They are written without quotes, in a row of letters, digits and a few signs. Underscores may stand
between two digits. A whole number has 64 bits, with one of them for the sign; other numbers are the
nearest ones with a floating point. Dates are those of the calendar.
-/

namespace Detour.Toml.Scalar

/-- Whether a character is a digit of base ten. -/
def isDigit (c : Char) : Bool := Text.isDigit 10 c

/-- The digits of a row in which an underscore may stand between two digits. -/
def digits? (base : Nat) : List Char → Option (List Char)
  | [] => none
  | [c] => if Text.isDigit base c then some [c] else none
  | c :: '_' :: rest =>
    if Text.isDigit base c then (digits? base rest).map (c :: ·) else none
  | c :: rest => if Text.isDigit base c then (digits? base rest).map (c :: ·) else none

/-- The digits in front of the point: a row without a leading zero. -/
def wholeDigits? (s : List Char) : Option (List Char) :=
  (digits? 10 s).filter fun digits => digits.length = 1 || digits.head? ≠ some '0'

/-- Whether there is a minus sign, and what follows the sign. -/
def signed : List Char → Bool × List Char
  | '-' :: rest => (true, rest)
  | '+' :: rest => (false, rest)
  | s => (false, s)

/-- A number of which the sign is known. -/
def withSign (negative : Bool) (n : Nat) : Int := if negative then -(n : Int) else n

/-- Whether a number has 64 bits, with one of them for the sign. -/
def fits (n : Int) : Bool := -9223372036854775808 ≤ n && n ≤ 9223372036854775807

/-- A whole number. In the bases other than ten it has no sign. -/
def integer? (s : List Char) : Option Int :=
  let n : Option Int :=
    match s with
    | '0' :: 'x' :: rest => ((digits? 16 rest).bind (Text.ofDigits? 16)).map (withSign false)
    | '0' :: 'o' :: rest => ((digits? 8 rest).bind (Text.ofDigits? 8)).map (withSign false)
    | '0' :: 'b' :: rest => ((digits? 2 rest).bind (Text.ofDigits? 2)).map (withSign false)
    | _ => ((wholeDigits? (signed s).2).bind (Text.ofDigits? 10)).map (withSign (signed s).1)
  n.filter fits

/-- The digits behind the point, if there is a point. -/
def places? : List Char → Option (List Char)
  | [] => some []
  | '.' :: rest => digits? 10 rest
  | _ => none

/-- The exponent behind its letter, if there is one. -/
def exponent? : List Char → Option Int
  | [] => some 0
  | c :: rest =>
    if c = 'e' ∨ c = 'E' then
      ((digits? 10 (signed rest).2).bind (Text.ofDigits? 10)).map (withSign (signed rest).1)
    else none

/-- A number with a point or an exponent. One that is greater than all finite numbers is refused, one that
is less than all of them is not. -/
def decimal? (s : List Char) : Option Double :=
  let (negative, s) := signed s
  let whole := s.takeWhile fun c => isDigit c || c = '_'
  let s := s.drop whole.length
  let places := s.takeWhile fun c => c ≠ 'e' && c ≠ 'E'
  match s, wholeDigits? whole, places? places, exponent? (s.drop places.length) with
  | _ :: _, some whole, some places, some exponent =>
    match Text.ofDigits? 10 (whole ++ places) with
    | some n => some (.ofDecimal negative n (exponent - places.length))
    | none => none
  | _, _, _, _ => none

/-- A number with a floating point. -/
def float? (s : List Char) : Option Double :=
  let (negative, rest) := signed s
  if rest = "inf".toList then some (.infinite negative)
  else if rest = "nan".toList then some .nan
  else (decimal? s).filter (· ≠ .infinite false)

/-- Whether two digits write a number between two others. -/
def isBetween (low high : Nat) (digits : List Char) : Bool :=
  match Text.ofDigits? 10 digits with
  | some n => low ≤ n && n ≤ high
  | none => false

/-- How many days a month of a year has. -/
def daysIn (year month : Nat) : Nat :=
  if month = 2 then
    if year % 4 = 0 ∧ (year % 100 ≠ 0 ∨ year % 400 = 0) then 29 else 28
  else if month ∈ [4, 6, 9, 11] then 30
  else 31

/-- What follows a date. -/
def afterDate? : List Char → Option (List Char)
  | a :: b :: c :: d :: '-' :: e :: f :: '-' :: g :: h :: rest =>
    match Text.ofDigits? 10 [a, b, c, d], Text.ofDigits? 10 [e, f] with
    | some year, some month =>
      if 1 ≤ month ∧ month ≤ 12 ∧ isBetween 1 (daysIn year month) [g, h] then some rest else none
    | _, _ => none
  | _ => none

/-- What follows the fraction of a second, if there is one. -/
def afterFraction? : List Char → Option (List Char)
  | '.' :: rest => if (rest.head?.map isDigit).getD false then some (rest.dropWhile isDigit) else none
  | rest => some rest

/-- What follows a time of the day. -/
def afterTime? : List Char → Option (List Char)
  | a :: b :: ':' :: c :: d :: ':' :: e :: f :: rest =>
    if isBetween 0 23 [a, b] && isBetween 0 59 [c, d] && isBetween 0 60 [e, f] then
      afterFraction? rest
    else none
  | _ => none

/-- Whether a text is nothing, or the distance of a place's time from that of the meridian. -/
def isOffset : List Char → Bool
  | [] | ['Z'] | ['z'] => true
  | [sign, a, b, ':', c, d] =>
    (sign = '+' || sign = '-') && isBetween 0 23 [a, b] && isBetween 0 59 [c, d]
  | _ => false

/-- Whether a text is a time of the day, possibly with an offset. -/
def isTime (s : List Char) : Bool := ((afterTime? s).map isOffset).getD false

/-- Whether a text is a date. -/
def isDate (s : List Char) : Bool := afterDate? s = some []

/-- Whether a text is a date, a time of the day, or both with a letter between them. -/
def isMoment (s : List Char) : Bool :=
  afterTime? s = some [] ||
    match afterDate? s with
    | some [] => true
    | some (c :: rest) => (c = 'T' || c = 't') && isTime rest
    | none => false

/-- The value of a row of characters. -/
def ofRow (s : List Char) : Option Value :=
  if s = "true".toList then some (.boolean true)
  else if s = "false".toList then some (.boolean false)
  else if isMoment s then some .moment
  else match integer? s with
    | some n => some (.integer n)
    | none => (float? s).map .float

/-- The characters of a row. -/
def isRowChar (c : Char) : Bool :=
  c.isAlphanum || c = '_' || c = '-' || c = '+' || c = '.' || c = ':'

/-- Read a value without quotes. A time may follow a date behind a blank. -/
def read (s : List Char) : Option (Value × List Char) :=
  let row := s.takeWhile isRowChar
  let rest := s.dropWhile isRowChar
  match isDate row, rest with
  | true, ' ' :: more =>
    if isTime (more.takeWhile isRowChar) then some (.moment, more.dropWhile isRowChar)
    else some (.moment, rest)
  | _, _ => (ofRow row).map (·, rest)

/-- A whole number that is read has 64 bits. -/
theorem fits_of_integer? {s : List Char} {n : Int} (h : integer? s = some n) : fits n = true := by
  simp only [integer?, Option.filter_eq_some_iff] at h
  exact h.2

end Detour.Toml.Scalar
