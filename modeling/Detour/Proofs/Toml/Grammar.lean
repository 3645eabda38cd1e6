import Detour.Toml.Read
/-!
# How settings documents are written

What it means that a text writes a document, said without a reader. Most relations here are between a
text, what is written at its front, and the text behind that. Of the values there are those that
settings have: texts, whole numbers, truth values, arrays, and tables between braces.
-/

namespace Detour.Toml.Grammar

/-- The text starts with some characters, all of which have a property. -/
def Run (p : Char → Bool) (s front rest : List Char) : Prop :=
  s = front ++ rest ∧ ∀ c ∈ front, p c = true

/-- Blanks and tabs, or nothing at all. -/
def Gaps (s rest : List Char) : Prop := ∃ gap, Run isGap s gap rest

/-- There need not be any. -/
theorem Gaps.refl (s : List Char) : Gaps s s := ⟨[], rfl, List.forall_mem_nil _⟩

/-- A line break. -/
inductive Break : List Char → List Char → Prop where
  /-- A line feed. -/
  | feed (rest : List Char) : Break ('\n' :: rest) rest
  /-- A carriage return and a line feed. -/
  | pair (rest : List Char) : Break ('\r' :: '\n' :: rest) rest

/-- What may stand around the items of an array: gaps, line breaks, and comments up to the end of their
lines. -/
inductive Space : List Char → List Char → Prop where
  /-- Nothing. -/
  | none (s : List Char) : Space s s
  /-- A blank or a tab. -/
  | gap {c : Char} {s rest : List Char} (gap : isGap c = true) (later : Space s rest) :
    Space (c :: s) rest
  /-- A line break. -/
  | line {s t rest : List Char} (line : Break s t) (later : Space t rest) : Space s rest
  /-- A comment with its line break. -/
  | comment {s text t u rest : List Char} (comment : Run isLineChar s text t) (line : Break t u)
    (later : Space u rest) : Space ('#' :: s) rest

/-- What may stand behind an item in its line: gaps, and a comment. -/
inductive LineEnd : List Char → List Char → Prop where
  /-- No comment. -/
  | plain {s rest : List Char} (gaps : Gaps s rest) : LineEnd s rest
  /-- A comment. -/
  | comment {s t text rest : List Char} (gaps : Gaps s ('#' :: t)) (comment : Run isLineChar t text rest) :
    LineEnd s rest

/-- What stands behind a backslash, and the character that it means. -/
inductive Escape : List Char → Char → List Char → Prop where
  /-- A single character. -/
  | short {c x : Char} (pair : (c, x) ∈ Quote.escapes) (rest : List Char) : Escape (c :: rest) x rest
  /-- Four digits in base sixteen. -/
  | four {a b c d x : Char} (number : Text.ofDigits? 16 [a, b, c, d] = some x.toNat) (rest : List Char) :
    Escape ('u' :: a :: b :: c :: d :: rest) x rest
  /-- Eight digits in base sixteen. -/
  | eight {a b c d e f g h x : Char} (number : Text.ofDigits? 16 [a, b, c, d, e, f, g, h] = some x.toNat)
    (rest : List Char) : Escape ('U' :: a :: b :: c :: d :: e :: f :: g :: h :: rest) x rest

/-- A text of one line with escapes, behind its first double quote. -/
inductive Basic : List Char → List Char → List Char → Prop where
  /-- The quote that closes it. -/
  | close (rest : List Char) : Basic ('"' :: rest) [] rest
  /-- A character that means itself. -/
  | plain {c : Char} {s t rest : List Char} (line : isLineChar c = true) (quote : c ≠ '"')
    (backslash : c ≠ '\\') (later : Basic s t rest) : Basic (c :: s) (c :: t) rest
  /-- An escape. -/
  | escape {x : Char} {s t u rest : List Char} (escape : Escape s x u) (later : Basic u t rest) :
    Basic ('\\' :: s) (x :: t) rest

/-- The characters of a text without escapes. -/
def isLiteralChar (c : Char) : Bool := isLineChar c && c ≠ '\''

/-- Gaps and line breaks. -/
inductive Blank : List Char → List Char → Prop where
  /-- Nothing. -/
  | none (s : List Char) : Blank s s
  /-- A blank or a tab. -/
  | gap {c : Char} {s rest : List Char} (gap : isGap c = true) (later : Blank s rest) :
    Blank (c :: s) rest
  /-- A line break. -/
  | line {s t rest : List Char} (line : Break s t) (later : Blank t rest) : Blank s rest

/-- A text does not start with a gap or a line break. -/
def IsSolid (s : List Char) : Prop := ∀ c ∈ s.head?, isGap c = false ∧ c ≠ '\n' ∧ c ≠ '\r'

/-- A text of several lines, between quotes of one kind, behind the quotes that open it. Double quotes
allow escapes, and a backslash at the end of a line to fold it. As many quotes as the number says
stand directly before; there are never more than two of them. -/
inductive Lines (quote : Char) : Nat → List Char → List Char → List Char → Prop where
  /-- The three quotes that close it. -/
  | close {n : Nat} (few : n ≤ 2) (rest : List Char) :
    Lines quote n (quote :: quote :: quote :: rest) [] rest
  /-- A quote that belongs to the text. -/
  | quote {n : Nat} {s t rest : List Char} (few : n < 2) (later : Lines quote (n + 1) s t rest) :
    Lines quote n (quote :: s) (quote :: t) rest
  /-- A character that means itself. -/
  | plain {n : Nat} {c : Char} {s t rest : List Char} (line : isLineChar c = true) (other : c ≠ quote)
    (backslash : quote = '"' → c ≠ '\\') (later : Lines quote 0 s t rest) :
    Lines quote n (c :: s) (c :: t) rest
  /-- A line break. -/
  | line {n : Nat} {s t u rest : List Char} (line : Break s u) (later : Lines quote 0 u t rest) :
    Lines quote n s ('\n' :: t) rest
  /-- An escape. -/
  | escape {n : Nat} {x : Char} {s t u rest : List Char} (double : quote = '"') (escape : Escape s x u)
    (later : Lines quote 0 u t rest) : Lines quote n ('\\' :: s) (x :: t) rest
  /-- A backslash in front of a line break, which stands for nothing together with all blank characters
  up to the next one that is not. -/
  | fold {n : Nat} {s t u v w rest : List Char} (double : quote = '"') (gaps : Gaps s u) (line : Break u v)
    (blank : Blank v w) (solid : IsSolid w) (later : Lines quote 0 w t rest) :
    Lines quote n ('\\' :: s) t rest

/-- A text between quotes, in any of its four forms. -/
inductive Quoted : List Char → List Char → List Char → Prop where
  /-- One line with escapes. -/
  | basic {s t rest : List Char} (body : Basic s t rest) : Quoted ('"' :: s) t rest
  /-- One line without escapes. -/
  | literal {s t rest : List Char} (body : Run isLiteralChar s t ('\'' :: rest)) :
    Quoted ('\'' :: s) t rest
  /-- Several lines, the first of them directly behind the quotes. -/
  | lines {quote : Char} {s t rest : List Char} (kind : quote = '"' ∨ quote = '\'')
    (first : ∀ c ∈ s.head?, c ≠ '\n' ∧ c ≠ '\r') (body : Lines quote 0 s t rest) :
    Quoted (quote :: quote :: quote :: s) t rest
  /-- Several lines, with a line break behind the quotes that does not belong to them. -/
  | below {quote : Char} {s t u rest : List Char} (kind : quote = '"' ∨ quote = '\'') (line : Break s u)
    (body : Lines quote 0 u t rest) : Quoted (quote :: quote :: quote :: s) t rest

/-- Digits, and underscores between them. -/
inductive Digits (base : Nat) : List Char → List Char → List Char → Prop where
  /-- The last digit. -/
  | last {c : Char} (digit : Text.isDigit base c = true) (rest : List Char) :
    Digits base (c :: rest) [c] rest
  /-- A digit. -/
  | digit {c : Char} {s d rest : List Char} (digit : Text.isDigit base c = true)
    (later : Digits base s d rest) : Digits base (c :: s) (c :: d) rest
  /-- A digit and an underscore. -/
  | underscore {c : Char} {s d rest : List Char} (digit : Text.isDigit base c = true)
    (later : Digits base s d rest) : Digits base (c :: '_' :: s) (c :: d) rest

/-- A number in base ten without a sign. It has no leading zeros. -/
def Decimal (s : List Char) (n : Nat) (rest : List Char) : Prop :=
  ∃ d, Digits 10 s d rest ∧ (d.length = 1 ∨ d.head? ≠ some '0') ∧ Text.ofDigits? 10 d = some n

/-- The letters of the bases other than ten. -/
def baseMarks : List (Char × Nat) := [('x', 16), ('o', 8), ('b', 2)]

/-- A whole number. -/
inductive Whole : List Char → Int → List Char → Prop where
  /-- One in base ten. -/
  | plain {n : Nat} {s rest : List Char} (number : Decimal s n rest) : Whole s n rest
  /-- One with a plus sign. -/
  | plus {n : Nat} {s rest : List Char} (number : Decimal s n rest) : Whole ('+' :: s) n rest
  /-- One with a minus sign. -/
  | minus {n : Nat} {s rest : List Char} (number : Decimal s n rest) : Whole ('-' :: s) (-n) rest
  /-- One in another base. -/
  | marked {mark : Char} {base n : Nat} {s d rest : List Char} (known : (mark, base) ∈ baseMarks)
    (digits : Digits base s d rest) (number : Text.ofDigits? base d = some n) :
    Whole ('0' :: mark :: s) n rest

/-- A value that holds no others. -/
inductive Simple : List Char → Value → List Char → Prop where
  /-- A text. -/
  | text {s t rest : List Char} (quoted : Quoted s t rest) : Simple s (.text t) rest
  /-- A whole number of 64 bits. -/
  | integer {n : Int} {s rest : List Char} (whole : Whole s n rest) (fits : Scalar.fits n = true) :
    Simple s (.integer n) rest
  /-- True. -/
  | yes (rest : List Char) : Simple ("true".toList ++ rest) (.boolean true) rest
  /-- False. -/
  | no (rest : List Char) : Simple ("false".toList ++ rest) (.boolean false) rest

/-- A key that is a single word or text. -/
inductive Part : List Char → Key → List Char → Prop where
  /-- One without quotes. -/
  | bare {s key rest : List Char} (some : key ≠ []) (run : Run isKeyChar s key rest) : Part s key rest
  /-- One between double quotes. -/
  | basic {s key rest : List Char} (body : Basic s key rest) : Part ('"' :: s) key rest
  /-- One between single quotes. -/
  | literal {s key rest : List Char} (body : Run isLiteralChar s key ('\'' :: rest)) :
    Part ('\'' :: s) key rest

/-- A key that may have several parts, with points between them. -/
inductive Path : List Char → List Key → List Char → Prop where
  /-- The last part. -/
  | last {s : List Char} {key : Key} {rest : List Char} (part : Part s key rest) : Path s [key] rest
  /-- A part in front of others. -/
  | more {s t u v : List Char} {key : Key} {path : List Key} {rest : List Char} (part : Part s key t)
    (before : Gaps t ('.' :: u)) (behind : Gaps u v) (later : Path v path rest) :
    Path s (key :: path) rest

section Values

variable (W : List Char → Value → List Char → Prop)

/-- A key and a value, with a sign of equality between them. -/
inductive Pair : List Char → Assignment → List Char → Prop where
  /-- The key may have as many parts as a reader follows. -/
  | intro {s t u v rest : List Char} {path : List Key} {value : Value} (key : Path s path t)
    (limit : path.length ≤ depthLimit) (before : Gaps t ('=' :: u)) (behind : Gaps u v)
    (written : W v value rest) : Pair s ⟨path, value⟩ rest

/-- The items of an array and the bracket that closes it. -/
inductive Items : List Char → List Value → List Char → Prop where
  /-- No item is left. -/
  | close {s rest : List Char} (space : Space s (']' :: rest)) : Items s [] rest
  /-- The last item, without a comma. -/
  | last {s t u rest : List Char} {v : Value} (before : Space s t) (item : W t v u)
    (behind : Space u (']' :: rest)) : Items s [v] rest
  /-- An item and a comma. -/
  | more {s t u r rest : List Char} {v : Value} {vs : List Value} (before : Space s t) (item : W t v u)
    (behind : Space u (',' :: r)) (later : Items r vs rest) : Items s (v :: vs) rest

/-- The entries of a table between braces, and the brace that closes it. -/
inductive Fields : List Char → List Assignment → List Char → Prop where
  /-- The last entry. -/
  | last {s t u rest : List Char} {a : Assignment} (before : Gaps s t) (pair : Pair W t a u)
    (behind : Gaps u ('\x7d' :: rest)) : Fields s [a] rest
  /-- An entry and a comma. -/
  | more {s t u r rest : List Char} {a : Assignment} {as : List Assignment} (before : Gaps s t)
    (pair : Pair W t a u) (behind : Gaps u (',' :: r)) (later : Fields r as rest) :
    Fields s (a :: as) rest

/-- An entry, under a key of one part. -/
def single (entry : Key × Value) : Assignment := ⟨[entry.1], entry.2⟩

/-- A value that may hold values written as `W` says. -/
inductive Layer : List Char → Value → List Char → Prop where
  /-- One that holds none. -/
  | simple {s rest : List Char} {v : Value} (simple : Simple s v rest) : Layer s v rest
  /-- An array. -/
  | array {s rest : List Char} {vs : List Value} (items : Items W s vs rest) :
    Layer ('[' :: s) (.array vs) rest
  /-- A table without entries. -/
  | hollow {s rest : List Char} (gaps : Gaps s ('\x7d' :: rest)) :
    Layer ('\x7b' :: s) (.table .inline []) rest
  /-- A table between braces. No key is written twice. -/
  | table {s rest : List Char} {entries : Entries}
    (fields : Fields W s (entries.map single) rest)
    (nodup : (entries.map (·.1)).Nodup) : Layer ('\x7b' :: s) (.table .inline entries) rest

end Values

/-- A value in which values are nested at most so deep. -/
def Nested : Nat → List Char → Value → List Char → Prop
  | 0 => Simple
  | depth + 1 => Layer (Nested depth)

/-- What a line may hold. -/
inductive Item where
  /-- A key and its value. -/
  | assignment (a : Assignment)
  /-- The header of a table. -/
  | header (path : List Key)

/-- The header of a table. -/
inductive Header : List Char → List Key → List Char → Prop where
  /-- A key between brackets. -/
  | intro {s t u rest : List Char} {path : List Key} (before : Gaps s t) (key : Path t path u)
    (limit : path.length ≤ depthLimit) (behind : Gaps u (']' :: rest)) : Header ('[' :: s) path rest

/-- A line without its line break. -/
inductive Line : List Char → Option Item → List Char → Prop where
  /-- A line that holds nothing. -/
  | blank {s rest : List Char} (tail : LineEnd s rest) : Line s none rest
  /-- A key and its value. -/
  | assignment {s t u rest : List Char} {a : Assignment} (gaps : Gaps s t)
    (pair : Pair (Nested depthLimit) t a u) (tail : LineEnd u rest) :
    Line s (some (.assignment a)) rest
  /-- A header. -/
  | header {s t u rest : List Char} {path : List Key} (gaps : Gaps s t) (header : Header t path u)
    (tail : LineEnd u rest) : Line s (some (.header path)) rest

/-- Put what a line holds in front of a document. -/
def addItem : Option Item → Document → Document
  | none, d => d
  | some (.assignment a), d => d.pushAssignment a
  | some (.header path), d => d.pushHeader false path

/-- The lines of a document. -/
inductive Written : List Char → Document → Prop where
  /-- The last line. -/
  | last {s : List Char} {item : Option Item} (line : Line s item []) : Written s (addItem item ⟨[], []⟩)
  /-- A line in front of others. -/
  | more {s t u : List Char} {item : Option Item} {d : Document} (line : Line s item t)
    (lineBreak : Break t u) (later : Written u d) : Written s (addItem item d)

/-- The text of a document. The mark of the byte order may stand in front of it. -/
inductive Writes : List Char → Document → Prop where
  /-- Without a mark. -/
  | plain {s : List Char} {d : Document} (lines : Written s d) : Writes s d
  /-- With a mark. -/
  | marked {s : List Char} {d : Document} (lines : Written s d) : Writes ('\ufeff' :: s) d

/-! What stands behind something is never longer than the text that starts with it. -/

section Length

variable {s t rest : List Char}

@[grind →] theorem Run.length_le {p : Char → Bool} {front : List Char} (h : Run p s front rest) :
    rest.length ≤ s.length := by
  rw [h.1, List.length_append]
  omega

@[grind →] theorem Gaps.length_le (h : Gaps s rest) : rest.length ≤ s.length := by
  obtain ⟨gap, run⟩ := h
  exact run.length_le

@[grind →] theorem Break.length_le (h : Break s rest) : rest.length ≤ s.length := by
  cases h <;> grind

@[grind →] theorem Space.length_le (h : Space s rest) : rest.length ≤ s.length := by
  induction h <;> grind

@[grind →] theorem LineEnd.length_le (h : LineEnd s rest) : rest.length ≤ s.length := by
  cases h <;> grind

@[grind →] theorem Escape.length_le {x : Char} (h : Escape s x rest) : rest.length ≤ s.length := by
  cases h <;> simp only [List.length_cons] <;> omega

@[grind →] theorem Basic.length_le (h : Basic s t rest) : rest.length ≤ s.length := by
  induction h <;> grind

@[grind →] theorem Blank.length_le (h : Blank s rest) : rest.length ≤ s.length := by
  induction h <;> grind

@[grind →] theorem Lines.length_le {quote : Char} {n : Nat} (h : Lines quote n s t rest) :
    rest.length ≤ s.length := by
  induction h <;> grind

@[grind →] theorem Quoted.length_le (h : Quoted s t rest) : rest.length ≤ s.length := by
  cases h <;> grind

@[grind →] theorem Digits.length_le {base : Nat} (h : Digits base s t rest) :
    rest.length ≤ s.length := by
  induction h <;> grind

@[grind →] theorem Decimal.length_le {n : Nat} (h : Decimal s n rest) : rest.length ≤ s.length := by
  obtain ⟨d, digits, -⟩ := h
  exact digits.length_le

@[grind →] theorem Whole.length_le {n : Int} (h : Whole s n rest) : rest.length ≤ s.length := by
  cases h <;> grind

@[grind →] theorem Simple.length_le {v : Value} (h : Simple s v rest) : rest.length ≤ s.length := by
  cases h <;> grind

@[grind →] theorem Part.length_le {key : Key} (h : Part s key rest) : rest.length ≤ s.length := by
  cases h <;> grind

@[grind →] theorem Path.length_le {path : List Key} (h : Path s path rest) :
    rest.length ≤ s.length := by
  induction h <;> grind

end Length
end Detour.Toml.Grammar
