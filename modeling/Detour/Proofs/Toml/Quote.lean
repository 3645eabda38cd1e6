import Detour.Proofs.Text.Ascii
import Detour.Proofs.Text.Numeral
import Detour.Proofs.Toml.Grammar
/-!
# Reading texts of settings documents

Main statement: a text between quotes that is written as the grammar says is read as what it stands for, in
each of its four forms, and the reader stops behind it.
-/

namespace Detour.Toml.Grammar

open Quote

/-- A character that stands for itself in every text. -/
theorem plain_of_isAlphanum {c : Char} (h : c.isAlphanum = true) :
    isLineChar c = true ∧ c ≠ '"' ∧ c ≠ '\\' := by
  refine Text.forall_of_ascii
    (P := fun d => d.isAlphanum = true → isLineChar d = true ∧ d ≠ '"' ∧ d ≠ '\\') ?_
    (Text.lt_of_isVisible (Text.isVisible_of_isAlphanum h)) h
  decide

/-- Gaps may stand in a line. -/
theorem isLineChar_of_isGap {c : Char} (h : isGap c = true) : isLineChar c = true := by
  simp only [isGap, Bool.or_eq_true, decide_eq_true_eq] at h
  rcases h with rfl | rfl <;> decide

/-- A line has no line breaks in it. -/
theorem ne_of_isLineChar {c : Char} (h : isLineChar c = true) : c ≠ '\n' ∧ c ≠ '\r' := by
  constructor
  · rintro rfl
    exact absurd h (by decide)
  · rintro rfl
    exact absurd h (by decide)

/-- What was put in front stays there. -/
theorem push_push (a b : List Char) (r : Option (List Char × List Char)) :
    push a (push b r) = push (a ++ b) r := by
  simp [push, Function.comp_def]

/-- A character with a number is read from its digits. -/
theorem charOf?_eq {digits : List Char} {x : Char}
    (number : Text.ofDigits? 16 digits = some x.toNat) : charOf? digits = some x := by
  have valid : x.toNat.isValidChar := x.valid
  rw [charOf?, number]
  simp [valid, Char.ofNat_toNat]

section Unescape

/-- A character that is not skipped and is no backslash means itself. -/
theorem unescapeFrom_plain {skipped : Bool} {c : Char} (rest : List Char) (backslash : c ≠ '\\')
    (solid : skipped = true → isGap c = false ∧ c ≠ '\n') :
    unescapeFrom skipped (c :: rest) = (unescapeFrom false rest).map (c :: ·) := by
  rw [unescapeFrom]
  · cases skipped with
    | false => simp [backslash]
    | true => simp [backslash, solid rfl]
  all_goals simp_all

/-- At the start of a text, a character that is no backslash means itself. -/
theorem unescape_cons {c : Char} (rest : List Char) (backslash : c ≠ '\\') :
    unescape (c :: rest) = (unescape rest).map (c :: ·) :=
  unescapeFrom_plain rest backslash fun skipped => absurd skipped Bool.false_ne_true

/-- Nothing is skipped in front of a text that does not start with a blank character. -/
theorem unescapeFrom_solid {skipped : Bool} {s : List Char}
    (solid : ∀ c ∈ s.head?, isGap c = false ∧ c ≠ '\n') :
    unescapeFrom skipped s = unescapeFrom false s := by
  cases s with
  | nil => rw [unescapeFrom, unescapeFrom]
  | cons c rest =>
    have first := solid c rfl
    by_cases backslash : c = '\\'
    · subst backslash
      -- What stands behind a backslash is read in the same way whether or not blanks are skipped.
      cases rest with
      | nil => simp [unescapeFrom, isGap]
      | cons d rest =>
        conv => lhs; unfold unescapeFrom
        conv => rhs; unfold unescapeFrom
        split
        case h_4 other same =>
          obtain ⟨own, later⟩ := List.cons.inj same
          exact absurd later.symm (other d rest own.symm)
        all_goals simp_all
    · rw [unescapeFrom_plain rest backslash fun _ => first,
        unescapeFrom_plain rest backslash fun _ => first]

/-- What an escape consists of: characters of a line, of which only the first may be a quote or a backslash,
and which together are read as the character that is meant. -/
theorem Escape.cases {s u : List Char} {x : Char} (h : Escape s x u) :
    ∃ c word, s = c :: (word ++ u) ∧ (∀ d ∈ c :: word, isLineChar d = true) ∧
      (∀ d ∈ word, d ≠ '"' ∧ d ≠ '\\') ∧
      ∀ skipped rest, unescapeFrom skipped ('\\' :: c :: (word ++ rest)) =
        (unescapeFrom false rest).map (x :: ·) := by
  cases h with
  | @short c _ pair =>
    have all : ∀ p ∈ escapes, isLineChar p.1 = true ∧ p.1 ≠ 'u' ∧ p.1 ≠ 'U' ∧
        escapes.lookup p.1 = some p.2 := by decide
    obtain ⟨line, notFour, notEight, meaning⟩ := all _ pair
    refine ⟨c, [], rfl, by simpa using line, List.forall_mem_nil _, fun skipped rest => ?_⟩
    rw [List.nil_append, unescapeFrom, meaning]
    · rintro _ _ _ _ _ rfl
      exact absurd rfl notFour
    · rintro _ _ _ _ _ _ _ _ _ rfl
      exact absurd rfl notEight
  | @four a b c d _ number =>
    have digits : ∀ e ∈ [a, b, c, d], isLineChar e = true ∧ e ≠ '"' ∧ e ≠ '\\' := fun e found =>
      plain_of_isAlphanum (Text.isAlphanum_of_isDigit (Text.isDigit_of_mem_of_ofDigits? number e found))
    refine ⟨'u', [a, b, c, d], rfl, ?_, fun e found => (digits e found).2, fun skipped rest => ?_⟩
    · exact List.forall_mem_cons.2 ⟨by decide, fun e found => (digits e found).1⟩
    · simp [unescapeFrom, charOf?_eq number]
  | @eight a b c d e f g i _ number =>
    have digits : ∀ j ∈ [a, b, c, d, e, f, g, i], isLineChar j = true ∧ j ≠ '"' ∧ j ≠ '\\' :=
      fun j found => plain_of_isAlphanum
        (Text.isAlphanum_of_isDigit (Text.isDigit_of_mem_of_ofDigits? number j found))
    refine ⟨'U', [a, b, c, d, e, f, g, i], rfl, ?_, fun j found => (digits j found).2,
      fun skipped rest => ?_⟩
    · exact List.forall_mem_cons.2 ⟨by decide, fun j found => (digits j found).1⟩
    · simp [unescapeFrom, charOf?_eq number]

end Unescape

/-- A body goes on behind characters that are neither quotes nor backslashes. -/
theorem body_append {word : List Char} (rest : List Char) (plain : ∀ c ∈ word, c ≠ '"' ∧ c ≠ '\\') :
    body (word ++ rest) = push word (body rest) := by
  induction word with
  | nil => simp [push]
  | cons c word ih =>
    obtain ⟨own, others⟩ := List.forall_mem_cons.1 plain
    rw [List.cons_append, body, ih others, push_push, List.singleton_append]
    · exact fun e => absurd e own.1
    · exact fun _ _ e => absurd e own.2

/-- A text of one line is separated and read. -/
theorem Basic.body {s t rest : List Char} (h : Basic s t rest) :
    ∃ b, Quote.body s = some (b, rest) ∧ (∀ c ∈ b, isLineChar c = true) ∧ unescape b = some t := by
  induction h with
  | close rest => exact ⟨[], rfl, List.forall_mem_nil _, by rw [unescape, unescapeFrom]⟩
  | @plain c s t rest line quote backslash later ih =>
    obtain ⟨b, separated, lines, read⟩ := ih
    refine ⟨c :: b, ?_, List.forall_mem_cons.2 ⟨line, lines⟩, ?_⟩
    · have front : Quote.body (c :: s) = push [c] (Quote.body s) :=
        body_append s (List.forall_mem_singleton.2 ⟨quote, backslash⟩)
      rw [front, separated]
      rfl
    · have itself : unescape (c :: b) = (unescape b).map (c :: ·) :=
        unescape_cons b backslash
      rw [itself, read]
      rfl
  | @escape x s t u rest escape later ih =>
    obtain ⟨b, separated, lines, read⟩ := ih
    obtain ⟨c, word, rfl, own, plain, meaning⟩ := escape.cases
    refine ⟨'\\' :: c :: (word ++ b), ?_, ?_, ?_⟩
    · rw [Quote.body, body_append u plain, separated]
      rfl
    · rw [← List.cons_append, List.forall_mem_cons, List.forall_mem_append]
      exact ⟨by decide, own, lines⟩
    · rw [unescape] at read ⊢
      rw [meaning, read]
      rfl

/-- Quotes in a body of several lines, of which there are at most two, belong to it if something else
follows. -/
theorem bodyOfLines_quotes {n : Nat} {c : Char} (rest : List Char) (few : n ≤ 2) (quote : c ≠ '"') :
    bodyOfLines (List.replicate n '"' ++ c :: rest) =
      push (List.replicate n '"') (bodyOfLines (c :: rest)) := by
  obtain rfl | rfl | rfl : n = 0 ∨ n = 1 ∨ n = 2 := by omega
  · simp [push]
  · simp [bodyOfLines, push, quote]
  · simp [bodyOfLines, push, quote, Function.comp_def]

/-- Quotes behind the first three of a row belong to the body, if there are at most two of them. -/
theorem closing_quotes {quote : Char} {n : Nat} {rest : List Char} (few : n ≤ 2)
    (stop : rest.head? ≠ some quote) :
    closing quote (List.replicate n quote ++ rest) = (List.replicate n quote, rest) := by
  obtain rfl | rfl | rfl : n = 0 ∨ n = 1 ∨ n = 2 := by omega
  · match rest, stop with
    | [], _ => rfl
    | [a], stop => simp_all [closing]
    | a :: b :: rest, stop => simp_all [closing]
  · cases rest with
    | nil => simp [closing]
    | cons a rest => simp_all [closing]
  · simp [closing]

/-- It does not matter which of the quotes in a row are said to come first. -/
theorem replicate_append_three (quote : Char) (n : Nat) (rest : List Char) :
    List.replicate n quote ++ quote :: quote :: quote :: rest =
      quote :: quote :: quote :: (List.replicate n quote ++ rest) := by
  induction n with
  | zero => rfl
  | succ n ih => rw [List.replicate_succ, List.cons_append, ih, List.cons_append]

/-- A body of several lines goes on behind characters that are neither quotes nor backslashes. -/
theorem bodyOfLines_append {word : List Char} (rest : List Char)
    (plain : ∀ c ∈ word, c ≠ '"' ∧ c ≠ '\\') :
    bodyOfLines (word ++ rest) = push word (bodyOfLines rest) := by
  induction word with
  | nil => simp [push]
  | cons c word ih =>
    obtain ⟨own, others⟩ := List.forall_mem_cons.1 plain
    rw [List.cons_append, bodyOfLines, ih others, push_push, List.singleton_append]
    · exact fun _ e => absurd e own.1
    · exact fun _ _ e => absurd e own.2

/-- A body without escapes goes on behind characters that are no quotes. -/
theorem plainBodyOfLines_append {word : List Char} (rest : List Char) (plain : ∀ c ∈ word, c ≠ '\'') :
    plainBodyOfLines (word ++ rest) = push word (plainBodyOfLines rest) := by
  induction word with
  | nil => simp [push]
  | cons c word ih =>
    obtain ⟨own, others⟩ := List.forall_mem_cons.1 plain
    rw [List.cons_append, plainBodyOfLines, ih others, push_push, List.singleton_append]
    exact fun _ e => absurd e own

/-- Up to two quotes in a body without escapes belong to it if something else follows. -/
theorem plainBodyOfLines_quotes {n : Nat} {c : Char} (rest : List Char) (few : n ≤ 2)
    (quote : c ≠ '\'') :
    plainBodyOfLines (List.replicate n '\'' ++ c :: rest) =
      push (List.replicate n '\'') (plainBodyOfLines (c :: rest)) := by
  obtain rfl | rfl | rfl : n = 0 ∨ n = 1 ∨ n = 2 := by omega
  · simp [push]
  · simp [plainBodyOfLines, push, quote]
  · simp [plainBodyOfLines, push, quote, Function.comp_def]

section LineFeeds

/-- Where there is no carriage return, line breaks stay as they are. -/
theorem withLineFeeds_append {word : List Char} (rest : List Char) (plain : ∀ c ∈ word, c ≠ '\r') :
    withLineFeeds (word ++ rest) = word ++ withLineFeeds rest := by
  induction word with
  | nil => rfl
  | cons c word ih =>
    obtain ⟨own, others⟩ := List.forall_mem_cons.1 plain
    rw [List.cons_append, withLineFeeds, ih others, List.cons_append]
    exact fun _ e => absurd e own

/-- A text starts with characters that neither end a body nor begin an escape, and these become `plain`
when line breaks become line feeds. -/
def Passes (s plain rest : List Char) : Prop :=
  ∃ word, s = word ++ rest ∧ (∀ c ∈ word, c ≠ '"' ∧ c ≠ '\\' ∧ c ≠ '\'') ∧
    ∀ more, withLineFeeds (word ++ more) = plain ++ withLineFeeds more

/-- Texts of this kind may be put together. -/
theorem Passes.trans {s t u a b : List Char} (front : Passes s a t) (back : Passes t b u) :
    Passes s (a ++ b) u := by
  obtain ⟨first, rfl, own, become⟩ := front
  obtain ⟨second, rfl, others, later⟩ := back
  refine ⟨first ++ second, by simp, List.forall_mem_append.2 ⟨own, others⟩, fun more => ?_⟩
  rw [List.append_assoc, become, later, List.append_assoc]

/-- Only nothing becomes nothing. -/
theorem Passes.cases {s plain rest : List Char} (h : Passes s plain rest) (some : plain ≠ []) :
    ∃ c word, s = c :: (word ++ rest) ∧ (∀ d ∈ c :: word, d ≠ '"' ∧ d ≠ '\\' ∧ d ≠ '\'') ∧
      ∀ more, withLineFeeds (c :: (word ++ more)) = plain ++ withLineFeeds more := by
  obtain ⟨word, split, own, become⟩ := h
  cases word with
  | nil =>
    have nothing : [] = plain ++ [] := become []
    rw [List.append_nil] at nothing
    exact absurd nothing.symm some
  | cons c word => exact ⟨c, word, split, own, become⟩

/-- Gaps stay as they are. -/
theorem passes_of_run_gap {s gap rest : List Char} (h : Run isGap s gap rest) : Passes s gap rest := by
  obtain ⟨rfl, gaps⟩ := h
  have plain : ∀ c ∈ gap, (c ≠ '"' ∧ c ≠ '\\' ∧ c ≠ '\'') ∧ c ≠ '\r' := by
    intro c found
    have own := gaps c found
    simp only [isGap, Bool.or_eq_true, decide_eq_true_eq] at own
    rcases own with rfl | rfl <;> decide
  exact ⟨gap, rfl, fun c found => (plain c found).1,
    fun more => withLineFeeds_append more fun c found => (plain c found).2⟩

/-- A line break becomes a line feed. -/
theorem Break.passes {s u : List Char} (h : Break s u) : Passes s ['\n'] u := by
  cases h with
  | feed => exact ⟨['\n'], rfl, Text.forall_mem_of_all (by decide), fun more => rfl⟩
  | pair => exact ⟨['\r', '\n'], rfl, Text.forall_mem_of_all (by decide), fun more => rfl⟩

/-- Blank characters become gaps and line feeds. -/
theorem Blank.passes {s rest : List Char} (h : Blank s rest) :
    ∃ blank, Passes s blank rest ∧ ∀ c ∈ blank, isGap c = true ∨ c = '\n' := by
  induction h with
  | none s => exact ⟨[], ⟨[], rfl, List.forall_mem_nil _, fun more => rfl⟩, List.forall_mem_nil _⟩
  | @gap c s rest gap later ih =>
    obtain ⟨blank, passes, all⟩ := ih
    have first : Passes (c :: s) [c] s := passes_of_run_gap ⟨rfl, List.forall_mem_singleton.2 gap⟩
    exact ⟨c :: blank, first.trans passes, List.forall_mem_cons.2 ⟨.inl gap, all⟩⟩
  | line line later ih =>
    obtain ⟨blank, passes, all⟩ := ih
    exact ⟨'\n' :: blank, line.passes.trans passes, List.forall_mem_cons.2 ⟨.inr rfl, all⟩⟩

/-- A text that does not start with a line break keeps its first character. -/
theorem head?_withLineFeeds {s : List Char} (first : ∀ c ∈ s.head?, c ≠ '\r') :
    (withLineFeeds s).head? = s.head? := by
  cases s with
  | nil => rfl
  | cons c rest =>
    have single : withLineFeeds ([c] ++ rest) = [c] ++ withLineFeeds rest :=
      withLineFeeds_append rest (List.forall_mem_singleton.2 (first c rfl))
    rw [← List.singleton_append, single]
    rfl

end LineFeeds

/-- Blank characters are skipped behind a folded line. -/
theorem unescapeFrom_skipped {word : List Char} (rest : List Char)
    (blank : ∀ c ∈ word, isGap c = true ∨ c = '\n') :
    unescapeFrom true (word ++ rest) = unescapeFrom true rest := by
  induction word with
  | nil => rfl
  | cons c word ih =>
    obtain ⟨own, others⟩ := List.forall_mem_cons.1 blank
    have backslash : c ≠ '\\' := by
      rintro rfl
      exact absurd own (by decide)
    rw [List.cons_append, unescapeFrom, if_pos (by simpa using own), ih others]
    all_goals simp_all

/-- A backslash in front of gaps and a line feed stands for nothing, and neither do these and the blank
characters behind them. -/
theorem unescapeFrom_fold {gap blank : List Char} (rest : List Char) (gaps : ∀ c ∈ gap, isGap c = true)
    (blanks : ∀ c ∈ blank, isGap c = true ∨ c = '\n') :
    unescapeFrom false ('\\' :: (gap ++ '\n' :: (blank ++ rest))) = unescapeFrom true rest := by
  have only : isOnlyGaps (gap ++ '\n' :: (blank ++ rest)) = true := by
    have left : (gap ++ '\n' :: (blank ++ rest)).dropWhile isGap = '\n' :: (blank ++ rest) :=
      Text.dropWhile_append_of_head? gaps (by simp [isGap])
    rw [isOnlyGaps, left]
    rfl
  obtain ⟨c, more, split⟩ : ∃ c more, gap ++ '\n' :: blank = c :: more :=
    List.exists_cons_of_ne_nil (by simp)
  have all : ∀ d ∈ c :: more, isGap d = true ∨ d = '\n' := by
    rw [← split, List.forall_mem_append, List.forall_mem_cons]
    exact ⟨fun d found => .inl (gaps d found), .inr rfl, blanks⟩
  obtain ⟨own, others⟩ := List.forall_mem_cons.1 all
  have first : escapes.lookup c = none ∧ c ≠ 'u' ∧ c ≠ 'U' := by
    simp only [isGap, Bool.or_eq_true, decide_eq_true_eq] at own
    rcases own with (rfl | rfl) | rfl <;> decide
  have whole : gap ++ '\n' :: (blank ++ rest) = c :: (more ++ rest) := by
    rw [← List.cons_append, ← List.append_assoc, split, List.cons_append]
  rw [whole] at only ⊢
  rw [unescapeFrom, first.1]
  · rw [if_pos only, unescapeFrom_skipped rest others]
  · exact fun _ _ _ _ _ e => absurd e first.2.1
  · exact fun _ _ _ _ _ _ _ _ _ e => absurd e first.2.2

/-- The characters of a body of several lines. -/
def IsLines (s : List Char) : Prop := ∀ c ∈ s, isLineChar c = true ∨ c = '\n'

/-- What separates the body `b` from the front of a text, with so many quotes directly before. -/
structure Body (separate : List Char → Option (List Char × List Char)) (quote : Char) (n : Nat)
    (s rest b : List Char) : Prop where
  /-- The quotes before it are separated with it. -/
  separated : separate (List.replicate n quote ++ s) = some (List.replicate n quote ++ b, rest)
  /-- Three quotes close it. -/
  split : s = b ++ quote :: quote :: quote :: rest

section Body

variable {separate : List Char → Option (List Char × List Char)} {quote : Char} {n : Nat}
  {s u rest b : List Char}

/-- A body has one more quote if one quote less stands before it. -/
theorem Body.cons_quote (later : Body separate quote (n + 1) s rest b) :
    Body separate quote n (quote :: s) rest (quote :: b) where
  separated := by
    have whole := later.separated
    rwa [List.replicate_succ', List.append_assoc, List.append_assoc] at whole
  split := by rw [later.split, List.cons_append]

/-- A body without quotes before it is separated alone. -/
theorem Body.separates (body : Body separate quote 0 s rest b) : separate s = some (b, rest) :=
  body.separated

/-- A body goes on in front of another one. -/
theorem Body.append {word : List Char} (later : Body separate quote 0 u rest b)
    (separated : separate (List.replicate n quote ++ (word ++ u)) =
      push (List.replicate n quote ++ word) (separate u)) :
    Body separate quote n (word ++ u) rest (word ++ b) where
  separated := by
    rw [separated, later.separates]
    simp [push]
  split := by rw [later.split, List.append_assoc]

end Body

/-- Quotes and characters behind them that begin no escape belong to a body. -/
theorem bodyOfLines_word {n : Nat} {word : List Char} (rest : List Char) (few : n ≤ 2)
    (some : word ≠ []) (plain : ∀ c ∈ word, c ≠ '"' ∧ c ≠ '\\') :
    bodyOfLines (List.replicate n '"' ++ (word ++ rest)) =
      push (List.replicate n '"' ++ word) (bodyOfLines rest) := by
  obtain ⟨c, more, rfl⟩ := List.exists_cons_of_ne_nil some
  rw [List.cons_append, bodyOfLines_quotes _ few (plain c List.mem_cons_self).1, ← List.cons_append,
    bodyOfLines_append rest plain, push_push]

/-- Quotes and what a backslash begins belong to a body. -/
theorem bodyOfLines_backslash {n : Nat} {c : Char} {word : List Char} (rest : List Char) (few : n ≤ 2)
    (plain : ∀ d ∈ word, d ≠ '"' ∧ d ≠ '\\') :
    bodyOfLines (List.replicate n '"' ++ ('\\' :: c :: word ++ rest)) =
      push (List.replicate n '"' ++ '\\' :: c :: word) (bodyOfLines rest) := by
  have own : bodyOfLines ('\\' :: c :: (word ++ rest)) = push ['\\', c] (bodyOfLines (word ++ rest)) := by
    rw [bodyOfLines]
  rw [List.cons_append, List.cons_append, bodyOfLines_quotes _ few (by decide), own,
    bodyOfLines_append rest plain, push_push, push_push, List.append_assoc]
  rfl

/-- A body of several lines with escapes, and what it stands for. -/
structure Means (b t : List Char) : Prop where
  /-- It has only characters that it may have. -/
  lines : IsLines (withLineFeeds b)
  /-- It is read. -/
  read : unescape (withLineFeeds b) = some t

section Means

variable {front b t : List Char}

/-- What becomes a character that is no backslash stands for it. -/
theorem Means.cons {c : Char} (later : Means b t)
    (become : withLineFeeds (front ++ b) = [c] ++ withLineFeeds b)
    (own : isLineChar c = true ∨ c = '\n') (backslash : c ≠ '\\') : Means (front ++ b) (c :: t) where
  lines := by
    rw [become]
    exact List.forall_mem_cons.2 ⟨own, later.lines⟩
  read := by
    rw [become, List.singleton_append, unescape_cons _ backslash, later.read]
    rfl

/-- A backslash with gaps, a line break and blank characters behind it stands for nothing. -/
theorem Means.fold {gap blanks : List Char} (later : Means b t)
    (solid : ∀ d ∈ b.head?, isGap d = false ∧ d ≠ '\n' ∧ d ≠ '\r') (gaps : ∀ d ∈ gap, isGap d = true)
    (all : ∀ d ∈ blanks, isGap d = true ∨ d = '\n')
    (become : withLineFeeds (front ++ b) = '\\' :: (gap ++ '\n' :: (blanks ++ withLineFeeds b))) :
    Means (front ++ b) t where
  lines := by
    rw [become]
    refine List.forall_mem_cons.2 ⟨.inl (by decide), List.forall_mem_append.2 ⟨fun d found => ?_, ?_⟩⟩
    · exact .inl (isLineChar_of_isGap (gaps d found))
    · refine List.forall_mem_cons.2
        ⟨.inr rfl, List.forall_mem_append.2 ⟨fun d found => ?_, later.lines⟩⟩
      exact (all d found).imp_left isLineChar_of_isGap
  read := by
    have kept := head?_withLineFeeds fun d found => (solid d found).2.2
    have still : unescapeFrom true (withLineFeeds b) = unescape (withLineFeeds b) := by
      refine unescapeFrom_solid fun d found => ?_
      rw [kept] at found
      exact ⟨(solid d found).1, (solid d found).2.1⟩
    rw [become, unescape, unescapeFrom_fold _ gaps all, still, later.read]

end Means

/-- A text of several lines with escapes is separated and read. -/
theorem Lines.body {n : Nat} {s t rest : List Char} (h : Lines '"' n s t rest) (few : n ≤ 2)
    (stop : rest.head? ≠ some '"') : ∃ b, Body bodyOfLines '"' n s rest b ∧ Means b t := by
  -- The quotes directly before take part in the claim: only with them is it known where the body ends.
  induction h with
  | close few rest =>
    refine ⟨[], ⟨?_, rfl⟩, List.forall_mem_nil _, by rw [withLineFeeds, unescape, unescapeFrom]⟩
    rw [replicate_append_three, bodyOfLines, closing_quotes few stop, List.append_nil]
  | @quote n s t rest two later ih =>
    obtain ⟨b, body, means⟩ := ih two stop
    have become : withLineFeeds (['"'] ++ b) = ['"'] ++ withLineFeeds b :=
      withLineFeeds_append b (Text.forall_mem_of_all (by decide))
    exact ⟨['"'] ++ b, body.cons_quote, means.cons become (.inl (by decide)) (by decide)⟩
  | @plain n c s t rest line other backslash later ih =>
    obtain ⟨b, body, means⟩ := ih (by omega) stop
    have separated := bodyOfLines_word s few (List.cons_ne_nil c [])
      (List.forall_mem_singleton.2 ⟨other, backslash rfl⟩)
    have become := withLineFeeds_append b (List.forall_mem_singleton.2 (ne_of_isLineChar line).2)
    exact ⟨[c] ++ b, body.append separated, means.cons become (.inl line) (backslash rfl)⟩
  | @line n s t u rest line later ih =>
    obtain ⟨b, body, means⟩ := ih (by omega) stop
    obtain ⟨c, word, rfl, plain, become⟩ := line.passes.cases (List.cons_ne_nil _ _)
    have separated := bodyOfLines_word u few (List.cons_ne_nil c word)
      fun d found => ⟨(plain d found).1, (plain d found).2.1⟩
    exact ⟨c :: word ++ b, body.append separated, means.cons (become b) (.inr rfl) (by decide)⟩
  | @escape n x s t u rest double escape later ih =>
    obtain ⟨b, body, lines, read⟩ := ih (by omega) stop
    obtain ⟨c, word, rfl, own, plain, meaning⟩ := escape.cases
    have all : ∀ d ∈ '\\' :: c :: word, isLineChar d = true :=
      List.forall_mem_cons.2 ⟨by decide, own⟩
    have become := withLineFeeds_append b fun d found => (ne_of_isLineChar (all d found)).2
    have itself : unescape ('\\' :: c :: (word ++ withLineFeeds b)) =
        (unescape (withLineFeeds b)).map (x :: ·) := meaning false _
    refine ⟨'\\' :: c :: word ++ b, body.append (bodyOfLines_backslash u few plain), ?_, ?_⟩
    · rw [become]
      exact List.forall_mem_append.2 ⟨fun d found => .inl (all d found), lines⟩
    · rw [become, List.cons_append, List.cons_append, itself, read]
      rfl
  | @fold n s t u v w rest double gaps line blank solid later ih =>
    obtain ⟨b, body, means⟩ := ih (by omega) stop
    obtain ⟨gap, run⟩ := gaps
    obtain ⟨blanks, skipped, all⟩ := blank.passes
    have folded : Passes s (gap ++ (['\n'] ++ blanks)) w :=
      (passes_of_run_gap run).trans (line.passes.trans skipped)
    obtain ⟨c, word, rfl, plain, become⟩ := folded.cases (by simp)
    have separated := bodyOfLines_backslash (c := c) w few
      fun d found => ⟨(plain d (List.mem_cons_of_mem c found)).1,
        (plain d (List.mem_cons_of_mem c found)).2.1⟩
    have become : withLineFeeds ('\\' :: c :: word ++ b) =
        '\\' :: (gap ++ '\n' :: (blanks ++ withLineFeeds b)) := by
      have single : withLineFeeds (['\\'] ++ c :: (word ++ b)) =
          ['\\'] ++ withLineFeeds (c :: (word ++ b)) :=
        withLineFeeds_append _ (Text.forall_mem_of_all (by decide))
      simpa [become] using single
    have first : ∀ d ∈ b.head?, isGap d = false ∧ d ≠ '\n' ∧ d ≠ '\r' := by
      intro d found
      refine solid d ?_
      rw [body.split, List.head?_append, found]
      rfl
    exact ⟨'\\' :: c :: word ++ b, body.append separated, means.fold first run.2 all become⟩

/-- Quotes and other characters behind them belong to a body without escapes. -/
theorem plainBodyOfLines_word {n : Nat} {word : List Char} (rest : List Char) (few : n ≤ 2)
    (some : word ≠ []) (plain : ∀ c ∈ word, c ≠ '\'') :
    plainBodyOfLines (List.replicate n '\'' ++ (word ++ rest)) =
      push (List.replicate n '\'' ++ word) (plainBodyOfLines rest) := by
  obtain ⟨c, more, rfl⟩ := List.exists_cons_of_ne_nil some
  rw [List.cons_append, plainBodyOfLines_quotes _ few (plain c List.mem_cons_self),
    ← List.cons_append, plainBodyOfLines_append rest plain, push_push]

/-- A text of several lines without escapes is separated, and means itself. -/
theorem Lines.plainBody {n : Nat} {s t rest : List Char} (h : Lines '\'' n s t rest) (few : n ≤ 2)
    (stop : rest.head? ≠ some '\'') :
    ∃ b, Body plainBodyOfLines '\'' n s rest b ∧ IsLines t ∧ withLineFeeds b = t := by
  induction h with
  | close few rest =>
    refine ⟨[], ⟨?_, rfl⟩, List.forall_mem_nil _, rfl⟩
    rw [replicate_append_three, plainBodyOfLines, closing_quotes few stop, List.append_nil]
  | @quote n s t rest two later ih =>
    obtain ⟨b, body, lines, read⟩ := ih two stop
    have become : withLineFeeds (['\''] ++ b) = ['\''] ++ withLineFeeds b :=
      withLineFeeds_append b (Text.forall_mem_of_all (by decide))
    refine ⟨['\''] ++ b, body.cons_quote, List.forall_mem_cons.2 ⟨.inl (by decide), lines⟩, ?_⟩
    rw [become, read]
    rfl
  | @plain n c s t rest line other backslash later ih =>
    obtain ⟨b, body, lines, read⟩ := ih (by omega) stop
    have separated := plainBodyOfLines_word s few (List.cons_ne_nil c [])
      (List.forall_mem_singleton.2 other)
    have become := withLineFeeds_append b (List.forall_mem_singleton.2 (ne_of_isLineChar line).2)
    refine ⟨[c] ++ b, body.append separated, List.forall_mem_cons.2 ⟨.inl line, lines⟩, ?_⟩
    rw [become, read]
    rfl
  | @line n s t u rest line later ih =>
    obtain ⟨b, body, lines, read⟩ := ih (by omega) stop
    obtain ⟨c, word, rfl, plain, become⟩ := line.passes.cases (List.cons_ne_nil _ _)
    have separated := plainBodyOfLines_word u few (List.cons_ne_nil c word)
      fun d found => (plain d found).2.2
    refine ⟨c :: word ++ b, body.append separated, List.forall_mem_cons.2 ⟨.inr rfl, lines⟩, ?_⟩
    rw [List.cons_append, become, read]
    rfl
  | escape double => exact absurd double (by decide)
  | fold double => exact absurd double (by decide)

/-- The lines of a body are taken as they are if they do not start with a line break. -/
theorem linesOf_of_isLines {b : List Char} (first : (withLineFeeds b).head? ≠ some '\n')
    (lines : IsLines (withLineFeeds b)) : linesOf b = some (withLineFeeds b) := by
  rw [linesOf, if_neg first, if_pos (by simpa [IsLines] using lines)]

/-- A line break in front of the lines of a body does not belong to them. -/
theorem linesOf_below {b lines : List Char} (become : withLineFeeds b = ['\n'] ++ lines)
    (all : IsLines lines) : linesOf b = some lines := by
  rw [linesOf, become, List.singleton_append, List.head?_cons, if_pos rfl, List.tail_cons,
    if_pos (by simpa [IsLines] using all)]

/-- A body that does not start with a line break has no line feed in front. -/
theorem Body.head?_ne {separate : List Char → Option (List Char × List Char)} {quote : Char} {n : Nat}
    {s rest b : List Char} (body : Body separate quote n s rest b)
    (first : ∀ c ∈ s.head?, c ≠ '\n' ∧ c ≠ '\r') : (withLineFeeds b).head? ≠ some '\n' := by
  have own : ∀ c ∈ b.head?, c ≠ '\n' ∧ c ≠ '\r' := by
    intro c found
    refine first c ?_
    rw [body.split, List.head?_append, found]
    rfl
  rw [head?_withLineFeeds fun c found => (own c found).2]
  exact fun found => (own '\n' found).1 rfl

/-- A separated body is read as what it means. -/
theorem finish_some {meaning : List Char → Option (List Char)} {b t : List Char} (rest : List Char)
    (read : meaning b = some t) : finish meaning (some (b, rest)) = some (t, rest) := by
  rw [finish, Option.bind_some]
  dsimp only
  rw [read]
  rfl

/-- A text of one line with escapes is read. -/
theorem Basic.readLine {s t rest : List Char} (h : Basic s t rest) :
    Quote.readLine ('"' :: s) = some (t, rest) := by
  obtain ⟨b, separated, lines, read⟩ := h.body
  have whole : lineOf b = some b := if_pos (List.all_eq_true.2 lines)
  have meaning : (lineOf b).bind unescape = some t := by rw [whole, Option.bind_some, read]
  rw [Quote.readLine, separated]
  exact finish_some rest meaning

/-- The first single quote ends a body without escapes. -/
theorem plainBody_append {word : List Char} (rest : List Char) (plain : ∀ c ∈ word, c ≠ '\'') :
    plainBody (word ++ '\'' :: rest) = some (word, rest) := by
  induction word with
  | nil => rfl
  | cons c word ih =>
    obtain ⟨own, others⟩ := List.forall_mem_cons.1 plain
    rw [List.cons_append, plainBody, ih others]
    · rfl
    · exact fun e => absurd e own

/-- A text of one line without escapes is read. -/
theorem readLine_literal {s t rest : List Char} (h : Run isLiteralChar s t ('\'' :: rest)) :
    Quote.readLine ('\'' :: s) = some (t, rest) := by
  obtain ⟨rfl, all⟩ := h
  have separated : plainBody (t ++ '\'' :: rest) = some (t, rest) := by
    refine plainBody_append rest fun c found => ?_
    rintro rfl
    exact absurd (all '\'' found) (by decide)
  have whole : lineOf t = some t := by
    refine if_pos (List.all_eq_true.2 fun c found => ?_)
    exact (Bool.and_eq_true_iff.1 (all c found)).1
  rw [Quote.readLine, separated]
  exact finish_some rest whole

/-- A text that starts with fewer than three quotes has one line. -/
theorem read_eq_readLine {quote : Char} {s : List Char}
    (few : ¬(s.head? = some quote ∧ s.tail.head? = some quote)) :
    Quote.read (quote :: s) = Quote.readLine (quote :: s) := by
  rw [Quote.read]
  · rintro rest e
    obtain ⟨rfl, rfl⟩ := List.cons.inj e
    exact few ⟨rfl, rfl⟩
  · rintro rest e
    obtain ⟨rfl, rfl⟩ := List.cons.inj e
    exact few ⟨rfl, rfl⟩

/-- A text between quotes is read as what it stands for, in each of its forms. -/
theorem Quoted.read {s t rest : List Char} (h : Quoted s t rest)
    (stop : ∀ c ∈ rest.head?, c ≠ '"' ∧ c ≠ '\'') : Quote.read s = some (t, rest) := by
  have double : rest.head? ≠ some '"' := fun e => (stop '"' e).1 rfl
  have single : rest.head? ≠ some '\'' := fun e => (stop '\'' e).2 rfl
  cases h with
  | @basic s _ _ body =>
    refine (read_eq_readLine fun two => ?_).trans body.readLine
    obtain ⟨one, other⟩ := two
    cases body with
    | close => exact double other
    | plain line quote => exact quote (Option.some.inj one)
    | escape => exact absurd (Option.some.inj one) (by decide)
  | @literal s _ _ body =>
    refine (read_eq_readLine fun two => ?_).trans (readLine_literal body)
    obtain ⟨rfl, all⟩ := body
    obtain ⟨one, other⟩ := two
    cases t with
    | nil => exact single other
    | cons c t =>
      obtain rfl : c = '\'' := Option.some.inj one
      exact absurd (all '\'' List.mem_cons_self) (by decide)
  | lines kind first body =>
    rcases kind with rfl | rfl
    · obtain ⟨b, separated, means⟩ := body.body (by omega) double
      have taken := linesOf_of_isLines (separated.head?_ne first) means.lines
      have meaning : (linesOf b).bind unescape = some t := by rw [taken, Option.bind_some, means.read]
      rw [Quote.read, separated.separates]
      exact finish_some rest meaning
    · obtain ⟨b, separated, lines, rfl⟩ := body.plainBody (by omega) single
      have taken := linesOf_of_isLines (separated.head?_ne first) lines
      rw [Quote.read, separated.separates]
      exact finish_some rest taken
  | @below _ _ _ u _ kind line body =>
    obtain ⟨word, rfl, plain, become⟩ := line.passes
    rcases kind with rfl | rfl
    · obtain ⟨b, separated, means⟩ := body.body (by omega) double
      have front := bodyOfLines_append u fun c found => ⟨(plain c found).1, (plain c found).2.1⟩
      have meaning : (linesOf (word ++ b)).bind unescape = some t := by
        rw [linesOf_below (become b) means.lines, Option.bind_some, means.read]
      rw [Quote.read, front, separated.separates]
      exact finish_some rest meaning
    · obtain ⟨b, separated, lines, rfl⟩ := body.plainBody (by omega) single
      have front := plainBodyOfLines_append u fun c found => (plain c found).2.2
      rw [Quote.read, front, separated.separates]
      exact finish_some rest (linesOf_below (become b) lines)

end Detour.Toml.Grammar
