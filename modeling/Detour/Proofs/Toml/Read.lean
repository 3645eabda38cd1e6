import Detour.Proofs.Toml.Document
import Detour.Proofs.Toml.Quote
import Detour.Proofs.Toml.Scalar
/-!
# Reading settings documents

Main statement: a text that is written as the grammar says is read as the document that it writes. It is
shown for one part after the other that its reader takes just that part, whatever follows it that
may follow.
-/

namespace Detour.Toml.Grammar

section Skip

variable {s t u rest : List Char}

/-- Gaps are skipped. -/
theorem Gaps.skip (h : Gaps s rest) (stop : ∀ c ∈ rest.head?, isGap c = false) :
    skipGaps s = rest := by
  obtain ⟨gap, rfl, all⟩ := h
  exact Text.dropWhile_append_of_head? all stop

/-- Gaps are skipped between lines. -/
theorem skipLinesFrom_gap {c : Char} (gap : isGap c = true) :
    skipLinesFrom false (c :: s) = skipLinesFrom false s := by
  have breaks := ne_of_isLineChar (isLineChar_of_isGap gap)
  rw [skipLinesFrom]
  · simp [breaks.1, gap]
  · exact fun _ e => absurd e breaks.2

/-- Line breaks are skipped, also at the end of a comment. -/
theorem Break.skip {comment : Bool} (h : Break s rest) :
    skipLinesFrom comment s = skipLinesFrom false rest := by
  cases h with
  | feed => simp [skipLinesFrom]
  | pair => rw [skipLinesFrom]

/-- The characters of a comment are skipped. -/
theorem skipLinesFrom_comment {text : List Char} (h : Run isLineChar s text rest) :
    skipLinesFrom true s = skipLinesFrom true rest := by
  obtain ⟨rfl, all⟩ := h
  induction text with
  | nil => rfl
  | cons c text ih =>
    obtain ⟨own, others⟩ := List.forall_mem_cons.1 all
    have breaks := ne_of_isLineChar own
    rw [List.cons_append, skipLinesFrom, ih others]
    · simp [breaks.1, own]
    · exact fun _ e => absurd e breaks.2

/-- A comment is skipped from its sign on. -/
theorem skipLinesFrom_sharp : skipLinesFrom false ('#' :: s) = skipLinesFrom true s := by
  rw [skipLinesFrom]
  · simp [isGap]
  · exact fun _ e => absurd e (by decide)

/-- Gaps, line breaks and comments are skipped. -/
theorem Space.skip (h : Space s rest) : skipLinesFrom false s = skipLinesFrom false rest := by
  induction h with
  | none => rfl
  | gap gap _ ih => rw [skipLinesFrom_gap gap, ih]
  | line line _ ih => rw [line.skip, ih]
  | comment comment line _ ih => rw [skipLinesFrom_sharp, skipLinesFrom_comment comment, line.skip, ih]

/-- A text that something starts at which is not skipped. -/
def IsStart (s : List Char) : Prop := ∀ c ∈ s.head?, c ∉ [' ', '\t', '\n', '\r', '#']

/-- Nothing is skipped at the start of something. -/
theorem IsStart.skipLinesFrom (h : IsStart s) : skipLinesFrom false s = s := by
  cases s with
  | nil => rw [Toml.skipLinesFrom]
  | cons c rest =>
    have own := h c rfl
    simp only [List.mem_cons, List.not_mem_nil, or_false, not_or] at own
    rw [Toml.skipLinesFrom]
    · simp [isGap, own]
    · exact fun _ e => absurd e own.2.2.2.1

/-- Only what may be skipped is skipped. -/
theorem Space.skipLines (h : Space s rest) (start : IsStart rest) : skipLines s = rest := by
  rw [Toml.skipLines, h.skip, start.skipLinesFrom]

/-- No gaps are skipped at the start of something. -/
theorem IsStart.isGap (h : IsStart s) : ∀ c ∈ s.head?, isGap c = false := by
  intro c found
  have own := h c found
  simp_all [Toml.isGap]

/-- Gaps may stand where line breaks and comments may stand as well. -/
theorem Gaps.space (h : Gaps s rest) : Space s rest := by
  obtain ⟨gap, rfl, all⟩ := h
  induction gap with
  | nil => exact .none rest
  | cons c gap ih =>
    obtain ⟨own, others⟩ := List.forall_mem_cons.1 all
    exact .gap own (ih others)

/-- What may be skipped starts with one of five characters. -/
theorem Space.head? {P : Char → Prop} (h : Space s rest)
    (blank : ∀ c ∈ [' ', '\t', '\n', '\r', '#'], P c) (own : ∀ c ∈ rest.head?, P c) :
    ∀ c ∈ s.head?, P c := by
  cases h with
  | none => exact own
  | @gap c s _ gap =>
    intro d found
    obtain rfl : c = d := Option.some.inj found
    simp only [Toml.isGap, Bool.or_eq_true, decide_eq_true_eq] at gap
    rcases gap with rfl | rfl
    · exact blank _ (by decide)
    · exact blank _ (by decide)
  | line line =>
    intro d found
    cases line with
    | feed => exact Option.some.inj found ▸ blank _ (by decide)
    | pair => exact Option.some.inj found ▸ blank _ (by decide)
  | comment =>
    intro d found
    exact Option.some.inj found ▸ blank _ (by decide)

/-- A line ends here. -/
def IsEnd (s : List Char) : Prop := ∀ c ∈ s.head?, c = '\n' ∨ c = '\r'

/-- A line ends at a line break. -/
theorem Break.isEnd (h : Break s rest) : IsEnd s := by
  intro c found
  cases h with
  | feed => exact .inl (Option.some.inj found).symm
  | pair => exact .inr (Option.some.inj found).symm

/-- A line ends at the end of the text. -/
theorem isEnd_nil : IsEnd [] := nofun

/-- Gaps and a comment are skipped up to the end of the line. -/
theorem LineEnd.skip (h : LineEnd s rest) (stop : IsEnd rest) : skipComment (skipGaps s) = rest := by
  cases h with
  | plain gaps =>
    have skipped : skipGaps s = rest := by
      refine gaps.skip fun c found => ?_
      rcases stop c found with rfl | rfl <;> decide
    rw [skipped]
    cases rest with
    | nil => rfl
    | cons c rest =>
      rw [skipComment]
      intro _ same
      obtain ⟨rfl, -⟩ := List.cons.inj same
      rcases stop '#' rfl with e | e <;> exact absurd e (by decide)
  | comment gaps comment =>
    have skipped := gaps.skip (by simp [Toml.isGap])
    obtain ⟨rfl, all⟩ := comment
    rw [skipped, skipComment]
    refine Text.dropWhile_append_of_head? all fun c found => ?_
    rcases stop c found with rfl | rfl <;> decide

/-- The last line is taken to its end. -/
theorem LineEnd.endLine_last (h : LineEnd s []) : endLine s = some [] := by
  rw [endLine, h.skip isEnd_nil]

/-- A line is taken with its line break. -/
theorem LineEnd.endLine_break (h : LineEnd s t) (line : Break t u) : endLine s = some u := by
  rw [endLine, h.skip line.isEnd]
  cases line with
  | feed => rfl
  | pair => rfl

/-- A line that holds nothing is skipped with its line break. -/
theorem LineEnd.skipLinesFrom_break (h : LineEnd s t) (line : Break t u) :
    skipLinesFrom false s = skipLinesFrom false u := by
  cases h with
  | plain gaps => rw [gaps.space.skip, line.skip]
  | comment gaps comment =>
    rw [gaps.space.skip, skipLinesFrom_sharp, skipLinesFrom_comment comment, line.skip]

/-- A last line that holds nothing is skipped. -/
theorem LineEnd.skipLinesFrom_last (h : LineEnd s []) : skipLinesFrom false s = [] := by
  cases h with
  | plain gaps => rw [gaps.space.skip, skipLinesFrom]
  | comment gaps comment =>
    rw [gaps.space.skip, skipLinesFrom_sharp, skipLinesFrom_comment comment, skipLinesFrom]

/-- What stands behind an item in its line starts with one of five characters. -/
theorem LineEnd.head? {P : Char → Prop} (h : LineEnd s rest)
    (blank : ∀ c ∈ [' ', '\t', '\n', '\r', '#'], P c) (stop : IsEnd rest) :
    ∀ c ∈ s.head?, P c := by
  cases h with
  | plain gaps =>
    refine gaps.space.head? blank fun c found => ?_
    rcases stop c found with rfl | rfl
    · exact blank _ (by decide)
    · exact blank _ (by decide)
  | comment gaps =>
    refine gaps.space.head? blank fun c found => ?_
    exact Option.some.inj found ▸ blank _ (by decide)

end Skip

section Keys

variable {s t u rest : List Char} {key : Key}

/-- The first character of a key. -/
def isKeyStart (c : Char) : Bool := isKeyChar c || c = '"' || c = '\''

/-- A key starts with a quote or one of its characters. -/
theorem Part.head (h : Part s key rest) : ∃ c more, s = c :: more ∧ isKeyStart c = true := by
  cases h with
  | bare some run =>
    obtain ⟨rfl, all⟩ := run
    obtain ⟨c, more, rfl⟩ := List.exists_cons_of_ne_nil some
    exact ⟨c, more ++ rest, rfl, by simp [isKeyStart, all c List.mem_cons_self]⟩
  | basic => exact ⟨_, _, rfl, by decide⟩
  | literal => exact ⟨_, _, rfl, by decide⟩

/-- Nothing is skipped at the start of a key. -/
theorem isStart_of_isKeyStart {c : Char} {more : List Char} (h : isKeyStart c = true) :
    IsStart (c :: more) := by
  have others : ∀ d ∈ [' ', '\t', '\n', '\r', '#'], isKeyStart d = false :=
    Text.forall_mem_of_all (by decide)
  intro d found skipped
  obtain rfl : c = d := Option.some.inj found
  rw [others c skipped] at h
  cases h

/-- What is no start of a key is not the start of this one. -/
theorem ne_of_isKeyStart {c d : Char} (h : isKeyStart c = true) (other : isKeyStart d = false) :
    c ≠ d := by
  rintro rfl
  rw [h] at other
  cases other

/-- A part of a key is read. -/
theorem Part.read (h : Part s key rest) (stop : ∀ c ∈ rest.head?, isKeyChar c = false) :
    readKey s = some (key, rest) := by
  cases h with
  | bare some run =>
    obtain ⟨rfl, all⟩ := run
    obtain ⟨c, more, rfl⟩ := List.exists_cons_of_ne_nil some
    have own := all c List.mem_cons_self
    have taken : (c :: more ++ rest).takeWhile isKeyChar = c :: more :=
      Text.takeWhile_append_of_head? all stop
    have left : (c :: more ++ rest).dropWhile isKeyChar = rest :=
      Text.dropWhile_append_of_head? all stop
    unfold readKey
    split
    · rename_i same
      obtain ⟨rfl, -⟩ := List.cons.inj same
      exact absurd own (by decide)
    · rename_i same
      obtain ⟨rfl, -⟩ := List.cons.inj same
      exact absurd own (by decide)
    · dsimp only
      rw [taken, left]
      rfl
  | basic body => rw [readKey, body.readLine]
  | literal body => rw [readKey, readLine_literal body]

/-- A key starts as its first part does. -/
theorem Path.head {path : List Key} (h : Path s path rest) :
    ∃ c more, s = c :: more ∧ isKeyStart c = true := by
  cases h with
  | last part => exact part.head
  | more part => exact part.head

/-- No part of a key goes on over gaps and the sign behind them. -/
theorem Gaps.stops_key {c : Char} (h : Gaps t (c :: u)) (other : isKeyChar c = false) :
    ∀ d ∈ t.head?, isKeyChar d = false := by
  refine h.space.head? (Text.forall_mem_of_all (by decide)) fun d found => ?_
  exact Option.some.inj found ▸ other

/-- Gaps are skipped up to a sign. -/
theorem Gaps.skip_sign {c : Char} (h : Gaps t (c :: u)) (sign : c ∈ ['.', '=', ']']) :
    skipGaps t = c :: u := by
  have other : ∀ d ∈ ['.', '=', ']'], isGap d = false := Text.forall_mem_of_all (by decide)
  exact h.skip fun d found => Option.some.inj found ▸ other c sign

/-- A key is read up to the sign behind it, with the gaps around it. -/
theorem Path.read {path : List Key} {front : List Char} {limit : Nat} {c : Char} (h : Path s path t)
    (before : Gaps front s) (short : path.length ≤ limit) (behind : Gaps t (c :: u))
    (sign : c = '=' ∨ c = ']') : readPathOf limit front = some (path, c :: u) := by
  have other : isKeyChar c = false ∧ c ≠ '.' ∧ c ∈ ['.', '=', ']'] := by
    rcases sign with rfl | rfl <;> decide
  induction h generalizing front limit with
  | last part =>
    obtain ⟨d, more, rfl, start⟩ := part.head
    have skipped := before.skip (isStart_of_isKeyStart start).isGap
    have read := part.read (behind.stops_key other.1)
    cases limit with
    | zero => exact absurd short (by simp)
    | succ limit =>
      rw [readPathOf, skipped, read]
      dsimp only
      rw [behind.skip_sign other.2.2]
      split
      · rename_i same
        exact absurd (List.cons.inj same).1 other.2.1
      · rfl
  | more part point gaps later ih =>
    obtain ⟨d, more, rfl, start⟩ := part.head
    have skipped := before.skip (isStart_of_isKeyStart start).isGap
    have read := part.read (point.stops_key (by decide))
    cases limit with
    | zero => exact absurd short (by simp)
    | succ limit =>
      rw [readPathOf, skipped, read]
      dsimp only
      rw [point.skip_sign (by decide)]
      simp [ih gaps (Nat.le_of_succ_le_succ short) behind]

end Keys

section Values

open Scalar (isRowChar)

variable {s t u rest : List Char}

/-- A value ends here. -/
def IsStop (s : List Char) : Prop := ∀ c ∈ s.head?, isRowChar c = false ∧ c ≠ '"' ∧ c ≠ '\''

/-- A value ends at what may be skipped, and at the sign behind that. -/
theorem Space.isStop (h : Space s rest) (stop : IsStop rest) : IsStop s :=
  h.head? (Text.forall_mem_of_all (by decide)) stop

/-- The first character of a value. -/
def isValueStart (c : Char) : Bool :=
  isRowChar c || c = '"' || c = '\'' || c = '[' || c = '\x7b'

/-- What a reader must be like so that it reads what is written in some way. -/
structure Reads (value : Reader Value) (W : List Char → Value → List Char → Prop) : Prop where
  /-- Something stands there. -/
  head {s rest : List Char} {v : Value} (h : W s v rest) :
    ∃ c more, s = c :: more ∧ isValueStart c = true
  /-- What follows is not longer. -/
  length_le {s rest : List Char} {v : Value} (h : W s v rest) : rest.length ≤ s.length
  /-- It is read where it ends. -/
  read {s rest : List Char} {v : Value} (h : W s v rest) (stop : IsStop rest) :
    value s = some (v, rest)

/-- A whole number starts with a character of a row. -/
theorem Whole.head {n : Int} (h : Whole s n rest) : ∃ c more, s = c :: more ∧ isRowChar c = true := by
  obtain ⟨row, rfl, ⟨c, more, rfl, first, -⟩, -⟩ := h.row
  refine ⟨c, more ++ rest, rfl, ?_⟩
  rcases first with digit | rfl | rfl
  · exact isRowChar_of_isAlphanum (.inl (Text.isAlphanum_of_isDigit digit))
  · decide
  · decide

/-- A value that holds no others starts with a character of a row or a quote. -/
theorem Simple.head {v : Value} (h : Simple s v rest) :
    ∃ c more, s = c :: more ∧ (isRowChar c = true ∨ c = '"' ∨ c = '\'') := by
  cases h with
  | text quoted =>
    cases quoted with
    | basic => exact ⟨_, _, rfl, .inr (.inl rfl)⟩
    | literal => exact ⟨_, _, rfl, .inr (.inr rfl)⟩
    | lines kind => exact ⟨_, _, rfl, .inr kind⟩
    | below kind => exact ⟨_, _, rfl, .inr kind⟩
  | integer whole =>
    obtain ⟨c, more, rfl, row⟩ := whole.head
    exact ⟨c, more, rfl, .inl row⟩
  | yes => exact ⟨_, _, rfl, .inl (by decide)⟩
  | no => exact ⟨_, _, rfl, .inl (by decide)⟩

/-- What starts with a quote is read as a text. -/
theorem Quoted.readSimple (h : Quoted s t rest) :
    readSimple s = (Quote.read s).map fun (s, rest) => (.text s, rest) := by
  cases h with
  | basic => rw [Toml.readSimple]
  | literal => rw [Toml.readSimple]
  | lines kind => rcases kind with rfl | rfl <;> rw [Toml.readSimple]
  | below kind => rcases kind with rfl | rfl <;> rw [Toml.readSimple]

/-- What starts with another character is read as a row. -/
theorem readSimple_row {c : Char} (row : isRowChar c = true) :
    readSimple (c :: s) = Scalar.read (c :: s) := by
  rw [readSimple]
  · rintro more e
    obtain ⟨rfl, -⟩ := List.cons.inj e
    exact absurd row (by decide)
  · rintro more e
    obtain ⟨rfl, -⟩ := List.cons.inj e
    exact absurd row (by decide)

/-- A value that holds no others is read. -/
theorem Simple.read {v : Value} (h : Simple s v rest) (stop : IsStop rest) :
    readSimple s = some (v, rest) := by
  have row : ∀ c ∈ rest.head?, isRowChar c = false := fun c found => (stop c found).1
  cases h with
  | text quoted =>
    rw [quoted.readSimple, quoted.read fun c found => (stop c found).2]
    rfl
  | integer whole fits =>
    have read := whole.read fits row
    obtain ⟨c, more, rfl, first⟩ := whole.head
    rw [readSimple_row first, read]
  | yes => exact (readSimple_row (by decide)).trans (read_boolean true row)
  | no => exact (readSimple_row (by decide)).trans (read_boolean false row)

/-- Values that hold no others are read. -/
theorem reads_simple : Reads readSimple Simple where
  head h := by
    obtain ⟨c, more, rfl, first⟩ := h.head
    refine ⟨c, more, rfl, ?_⟩
    rcases first with row | rfl | rfl
    · simp [isValueStart, row]
    · decide
    · decide
  length_le h := h.length_le
  read h stop := h.read stop

variable {value : Reader Value} {W : List Char → Value → List Char → Prop}

/-- Nothing is skipped in front of a value, and it does not close what it is in. -/
theorem Reads.start (reads : Reads value W) {v : Value} (h : W s v rest) :
    IsStart s ∧ s.head? ≠ some ']' := by
  obtain ⟨c, more, rfl, start⟩ := reads.head h
  have others : ∀ d ∈ [' ', '\t', '\n', '\r', '#', ']'], isValueStart d = false :=
    Text.forall_mem_of_all (by decide)
  have differs {d : Char} (other : isValueStart d = false) : c ≠ d := by
    rintro rfl
    rw [start] at other
    cases other
  constructor
  · intro d found skipped
    obtain rfl : c = d := Option.some.inj found
    exact differs (others c (List.mem_append_left [']'] skipped)) rfl
  · exact fun same => differs (others ']' (by decide)) (Option.some.inj same)

/-- A key with its value is read. -/
theorem Pair.read (reads : Reads value W) {front : List Char} {a : Assignment} (before : Gaps front s)
    (h : Pair W s a rest) (stop : IsStop rest) : readAssignment value front = some (a, rest) := by
  obtain ⟨key, short, equals, gaps, written⟩ := h
  have path := key.read before short equals (.inl rfl)
  have skipped := gaps.skip (reads.start written).1.isGap
  simp [readAssignment, readPath, path, skipped, reads.read written stop]

/-- A key with its value takes something from the text. -/
theorem Pair.length_lt (reads : Reads value W) {a : Assignment} (h : Pair W s a rest) :
    rest.length < s.length := by
  obtain ⟨key, short, equals, gaps, written⟩ := h
  have one := key.length_le
  have two := equals.length_le
  have three := gaps.length_le
  have four := reads.length_le written
  rw [List.length_cons] at two
  omega

/-- The items of an array are not more than its characters. -/
theorem Items.length_le (reads : Reads value W) {vs : List Value} (h : Items W s vs rest) :
    vs.length + rest.length ≤ s.length := by
  induction h with
  | close space =>
    have one := space.length_le
    rw [List.length_cons] at one
    rw [List.length_nil]
    omega
  | last before item behind =>
    have one := before.length_le
    have two := reads.length_le item
    have three := behind.length_le
    rw [List.length_cons] at three
    rw [List.length_singleton]
    omega
  | more before item behind later ih =>
    have one := before.length_le
    have two := reads.length_le item
    have three := behind.length_le
    rw [List.length_cons] at three
    rw [List.length_cons]
    omega

/-- The items of an array are read. -/
theorem Items.read (reads : Reads value W) {vs : List Value} {limit : Nat} (h : Items W s vs rest)
    (enough : vs.length < limit) : readItems value limit s = some (vs, rest) := by
  have closed {u r : List Char} {c : Char} (space : Space u (c :: r)) (sign : c ∈ [',', ']']) :
      skipLines u = c :: r ∧ IsStop u := by
    have others : ∀ d ∈ [',', ']'], d ∉ [' ', '\t', '\n', '\r', '#'] ∧
        isRowChar d = false ∧ d ≠ '"' ∧ d ≠ '\'' := Text.forall_mem_of_all (by decide)
    exact ⟨space.skipLines fun d found => Option.some.inj found ▸ (others c sign).1,
      space.isStop fun d found => Option.some.inj found ▸ (others c sign).2⟩
  induction h generalizing limit with
  | close space =>
    cases limit with
    | zero => exact absurd enough (by omega)
    | succ limit => simp [readItems, (closed space (by decide)).1]
  | @last _ t u _ v before item behind =>
    cases limit with
    | zero => exact absurd enough (by omega)
    | succ limit =>
      obtain ⟨start, other⟩ := reads.start item
      obtain ⟨skipped, stop⟩ := closed behind (by decide)
      have own := reads.read item stop
      rw [readItems, before.skipLines start]
      split
      · exact absurd rfl other
      · simp [own, skipped]
  | @more _ t u r _ v vs before item behind later ih =>
    cases limit with
    | zero => exact absurd enough (by omega)
    | succ limit =>
      obtain ⟨start, other⟩ := reads.start item
      obtain ⟨skipped, stop⟩ := closed behind (by decide)
      have own := reads.read item stop
      have others := ih (Nat.lt_of_succ_lt_succ enough)
      rw [readItems, before.skipLines start]
      split
      · exact absurd rfl other
      · simp [own, skipped, others]

/-- The entries between braces are not more than the characters there. -/
theorem Fields.length_le (reads : Reads value W) {as : List Assignment} (h : Fields W s as rest) :
    as.length + rest.length ≤ s.length := by
  induction h with
  | last before pair behind =>
    have one := before.length_le
    have two := pair.length_lt reads
    have three := behind.length_le
    rw [List.length_cons] at three
    rw [List.length_singleton]
    omega
  | more before pair behind later ih =>
    have one := before.length_le
    have two := pair.length_lt reads
    have three := behind.length_le
    rw [List.length_cons] at three
    rw [List.length_cons]
    omega

/-- The entries between braces are read. -/
theorem Fields.read (reads : Reads value W) {as : List Assignment} {limit : Nat} (h : Fields W s as rest)
    (enough : as.length ≤ limit) : readEntries value limit s = some (as, rest) := by
  have closed {u r : List Char} {c : Char} (gaps : Gaps u (c :: r)) (sign : c ∈ [',', '\x7d']) :
      skipGaps u = c :: r ∧ IsStop u := by
    have others : ∀ d ∈ [',', '\x7d'], isGap d = false ∧ isRowChar d = false ∧ d ≠ '"' ∧ d ≠ '\'' :=
      Text.forall_mem_of_all (by decide)
    exact ⟨gaps.skip fun d found => Option.some.inj found ▸ (others c sign).1,
      gaps.space.isStop fun d found => Option.some.inj found ▸ (others c sign).2⟩
  induction h generalizing limit with
  | last before pair behind =>
    cases limit with
    | zero => exact absurd enough (by simp)
    | succ limit =>
      obtain ⟨skipped, stop⟩ := closed behind (by decide)
      simp [readEntries, pair.read reads before stop, skipped]
  | more before pair behind later ih =>
    cases limit with
    | zero => exact absurd enough (by simp)
    | succ limit =>
      obtain ⟨skipped, stop⟩ := closed behind (by decide)
      have others := ih (Nat.le_of_succ_le_succ enough)
      simp [readEntries, pair.read reads before stop, skipped, others]

/-- A key with its value starts as a key does. -/
theorem Pair.head {a : Assignment} (h : Pair W s a rest) :
    ∃ c more, s = c :: more ∧ isKeyStart c = true := by
  obtain ⟨key, -⟩ := h
  exact key.head

/-- Gaps in front of entries do not matter, and they do not close the braces. -/
theorem Fields.skip {as : List Assignment} (h : Fields W s as rest) :
    Fields W (skipGaps s) as rest ∧ (skipGaps s).head? ≠ some '\x7d' := by
  have skipped {t : List Char} {a : Assignment} {u : List Char} (before : Gaps s t)
      (pair : Pair W t a u) : skipGaps s = t ∧ t.head? ≠ some '\x7d' := by
    obtain ⟨c, more, rfl, start⟩ := pair.head
    refine ⟨before.skip (isStart_of_isKeyStart start).isGap, fun same => ?_⟩
    exact ne_of_isKeyStart start (by decide) (Option.some.inj same)
  cases h with
  | last before pair behind =>
    obtain ⟨same, other⟩ := skipped before pair
    rw [same]
    exact ⟨.last (.refl _) pair behind, other⟩
  | more before pair behind later =>
    obtain ⟨same, other⟩ := skipped before pair
    rw [same]
    exact ⟨.more (.refl _) pair behind later, other⟩

/-- What stands between braces is read. -/
theorem Fields.readBraces (reads : Reads value W) {as : List Assignment} (h : Fields W s as rest) :
    readBraces value s = some (as, rest) := by
  obtain ⟨fields, other⟩ := h.skip
  have length := fields.length_le reads
  have read : readEntries value (skipGaps s).length (skipGaps s) = some (as, rest) :=
    fields.read reads (by omega)
  unfold Toml.readBraces
  split
  · rename_i same
    rw [same] at other
    exact absurd rfl other
  · exact read

/-- A value that may hold others starts as a value does. -/
theorem Layer.head {v : Value} (h : Layer W s v rest) :
    ∃ c more, s = c :: more ∧ isValueStart c = true := by
  cases h with
  | simple simple => exact reads_simple.head simple
  | array => exact ⟨_, _, rfl, by decide⟩
  | hollow => exact ⟨_, _, rfl, by decide⟩
  | table => exact ⟨_, _, rfl, by decide⟩

/-- What follows a value that may hold others is not longer. -/
theorem Layer.length_le (reads : Reads value W) {v : Value} (h : Layer W s v rest) :
    rest.length ≤ s.length := by
  cases h with
  | simple simple => exact simple.length_le
  | array items =>
    have length := items.length_le reads
    rw [List.length_cons]
    omega
  | hollow gaps =>
    have length := gaps.length_le
    simp only [List.length_cons] at length ⊢
    omega
  | table fields =>
    have length := fields.length_le reads
    rw [List.length_cons]
    omega

/-- A value is read if those that it holds are. -/
theorem Layer.read {depth : Nat} (reads : Reads (readValueOf depth) W) {v : Value}
    (h : Layer W s v rest) (stop : IsStop rest) : readValueOf (depth + 1) s = some (v, rest) := by
  cases h with
  | simple simple =>
    have read := simple.read stop
    obtain ⟨c, more, rfl, first⟩ := simple.head
    have other {d : Char} (bracket : ¬(isRowChar d = true ∨ d = '"' ∨ d = '\'')) (rest : List Char)
        (same : c :: more = d :: rest) : False :=
      bracket ((List.cons.inj same).1 ▸ first)
    rw [readValueOf, read]
    · exact other (by decide)
    · exact other (by decide)
  | @array s _ vs items =>
    have length := items.length_le reads
    have read : readItems (readValueOf depth) (s.length + 1) s = some (vs, _) :=
      items.read reads (by omega)
    simp [readValueOf, read]
  | hollow gaps =>
    have skipped := gaps.skip fun c found => Option.some.inj found ▸ (by decide)
    simp [readValueOf, readBraces, skipped, inlineTable, Entries.putAll]
  | @table _ _ entries fields nodup =>
    have put : Entries.putAll [] (entries.map single) = some entries := Entries.putAll_single nodup
    simp [readValueOf, fields.readBraces reads, inlineTable, put]

/-- Values are read as deep as they may be nested. -/
theorem reads_nested (depth : Nat) : Reads (readValueOf depth) (Nested depth) := by
  induction depth with
  | zero =>
    have simple : readValueOf 0 = readSimple := funext fun s => by rw [readValueOf]
    rw [simple]
    exact reads_simple
  | succ depth reads => exact ⟨Layer.head, Layer.length_le reads, Layer.read reads⟩

end Values

section Document

variable {s t u rest : List Char} {path : List Key} {item : Item}

/-- A header is read. -/
theorem Header.read (h : Header s path rest) : readHeader s = some ((false, path), rest) := by
  obtain ⟨before, key, short, behind⟩ := h
  rename_i s t u
  have read := key.read before short behind (.inr rfl)
  have single : s.head? ≠ some '[' := by
    obtain ⟨c, more, rfl, start⟩ := key.head
    have other : ∀ d ∈ s.head?, d ≠ '[' := by
      refine before.space.head? (Text.forall_mem_of_all (by decide)) fun d found => ?_
      exact Option.some.inj found ▸ ne_of_isKeyStart start (by decide)
    exact fun same => other '[' same rfl
  unfold readHeader
  split
  · rename_i same
    rw [(List.cons.inj same).2] at single
    exact absurd rfl single
  · rename_i same
    obtain ⟨-, rfl⟩ := List.cons.inj same
    simp [readPath, read]
  · rename_i other
    exact absurd rfl (other s)

/-- A line that holds something takes it from the text. -/
theorem Line.length_lt (h : Line s (some item) rest) : rest.length < s.length := by
  cases h with
  | assignment gaps pair tail =>
    have one := gaps.length_le
    have two := pair.length_lt (reads_nested depthLimit)
    have three := tail.length_le
    omega
  | header gaps header tail =>
    obtain ⟨before, key, short, behind⟩ := header
    have one := gaps.length_le
    have two := before.length_le
    have three := key.length_le
    have four := behind.length_le
    have five := tail.length_le
    rw [List.length_cons] at one four
    omega

/-- Reading goes on behind what is skipped. -/
theorem readDocumentOf_eq {limit : Nat} (same : skipLines s = skipLines t) :
    readDocumentOf limit s = readDocumentOf limit t := by
  unfold readDocumentOf
  rw [same]

/-- A line that holds something is read, and reading goes on in the next line. -/
theorem Line.read (h : Line s (some item) rest) (stop : IsEnd rest) :
    ∃ u, LineEnd u rest ∧ ∀ limit, readDocumentOf (limit + 1) s =
      ((endLine u).bind (readDocumentOf limit)).map (addItem (some item)) := by
  cases h with
  | @assignment t u _ a gaps pair tail =>
    have ends : IsStop u := tail.head? (Text.forall_mem_of_all (by decide)) stop
    have read : readAssignment readValue t = some (a, u) :=
      pair.read (reads_nested depthLimit) (.refl t) ends
    obtain ⟨c, more, rfl, start⟩ := pair.head
    have skipped := gaps.space.skipLines (isStart_of_isKeyStart start)
    refine ⟨u, tail, fun limit => ?_⟩
    have other : ∀ rest, c :: more = '[' :: rest → False := fun rest same =>
      ne_of_isKeyStart start (by decide) (List.cons.inj same).1
    conv => lhs; unfold readDocumentOf
    rw [skipped]
    simp only [read]
    rfl
  | @header t u _ path gaps header tail =>
    have read := header.read
    obtain ⟨before, key, short, behind⟩ := header
    have skipped := gaps.space.skipLines fun c found => Option.some.inj found ▸ (by decide)
    refine ⟨u, tail, fun limit => ?_⟩
    conv => lhs; unfold readDocumentOf
    rw [skipped]
    simp only [read]
    rfl

/-- The lines of a document are read. -/
theorem Written.read {d : Document} {limit : Nat} (h : Written s d) (enough : s.length ≤ limit) :
    readDocumentOf limit s = some d := by
  have nothing (limit : Nat) : readDocumentOf limit [] = some ⟨[], []⟩ := by
    unfold readDocumentOf
    simp [skipLines, skipLinesFrom]
  induction h generalizing limit with
  | @last s item line =>
    cases item with
    | none =>
      cases line with
      | blank tail =>
        have same : skipLines s = skipLines [] := by
          rw [skipLines, tail.skipLinesFrom_last, skipLines, skipLinesFrom]
        rw [readDocumentOf_eq same, nothing]
        rfl
    | some item =>
      obtain ⟨u, tail, step⟩ := line.read isEnd_nil
      have length := line.length_lt
      obtain ⟨limit, rfl⟩ : ∃ n, limit = n + 1 := Nat.exists_eq_succ_of_ne_zero (by omega)
      rw [step, tail.endLine_last, Option.bind_some, nothing]
      rfl
  | @more s t u item d line lineBreak later ih =>
    have behind := lineBreak.length_le
    cases item with
    | none =>
      cases line with
      | blank tail =>
        have same : skipLines s = skipLines u := tail.skipLinesFrom_break lineBreak
        have front := tail.length_le
        rw [readDocumentOf_eq same, ih (by omega)]
        rfl
    | some item =>
      obtain ⟨v, tail, step⟩ := line.read lineBreak.isEnd
      have length := line.length_lt
      obtain ⟨limit, rfl⟩ : ∃ n, limit = n + 1 := Nat.exists_eq_succ_of_ne_zero (by omega)
      rw [step, tail.endLine_break lineBreak, Option.bind_some, ih (by omega)]
      rfl

/-- No line starts with the mark of the byte order. -/
theorem Written.head?_ne {d : Document} (h : Written s d) : s.head? ≠ some '\ufeff' := by
  have line {s t : List Char} {item : Option Item} (line : Line s item t) (stop : IsEnd t) :
      ∀ c ∈ s.head?, c ≠ '\ufeff' := by
    cases line with
    | blank tail => exact tail.head? (Text.forall_mem_of_all (by decide)) stop
    | assignment gaps pair tail =>
      obtain ⟨c, more, rfl, start⟩ := pair.head
      refine gaps.space.head? (Text.forall_mem_of_all (by decide)) fun d found => ?_
      exact Option.some.inj found ▸ ne_of_isKeyStart start (by decide)
    | header gaps header tail =>
      obtain ⟨-, -, -, -⟩ := header
      exact gaps.space.head? (Text.forall_mem_of_all (by decide)) fun d found =>
        Option.some.inj found ▸ by decide
  intro mark
  cases h with
  | last own => exact line own isEnd_nil _ mark rfl
  | more own lineBreak => exact line own lineBreak.isEnd _ mark rfl

/-- A text that writes a document is read as the document. -/
theorem Writes.read {d : Document} (h : Writes s d) : readDocument s = some d := by
  cases h with
  | plain lines =>
    rw [readDocument, if_neg lines.head?_ne]
    exact lines.read (Nat.le_refl _)
  | marked lines =>
    rw [readDocument, List.head?_cons, if_pos rfl, List.tail_cons]
    exact lines.read (Nat.le_refl _)

end Document

end Detour.Toml.Grammar
