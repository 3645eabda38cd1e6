import Detour.Text.Numeral
/-!
# Texts in a settings document

A text stands between quotes. Between double quotes a backslash begins an escape; between single
quotes every character is itself. Between triple quotes of either kind a text may have several
lines: a line break right behind the quotes does not belong to it, and up to two quotes may stand
before the triple that closes it. First the body is separated, with its escapes still in it, then
the body is read.
-/

namespace Detour.Toml

/-- The characters that may stand in a line: the tab and all that are no controls. -/
def isLineChar (c : Char) : Bool := c = '\t' || (' ' ≤ c && c ≠ '\x7f')

/-- The blank and the tab. -/
def isGap (c : Char) : Bool := c = ' ' || c = '\t'

namespace Quote

/-- Put characters in front of a body that was separated. -/
def push (front : List Char) (r : Option (List Char × List Char)) :
    Option (List Char × List Char) :=
  r.map fun (body, rest) => (front ++ body, rest)

/-- The body up to a double quote that is not escaped, and what follows the quote. -/
def body : List Char → Option (List Char × List Char)
  | '"' :: rest => some ([], rest)
  | '\\' :: c :: rest => push ['\\', c] (body rest)
  | c :: rest => push [c] (body rest)
  | [] => none

/-- Given what follows three quotes that close a body: up to two more quotes, which belong to the
body, and what follows those. -/
def closing (quote : Char) : List Char → List Char × List Char
  | a :: b :: rest =>
    if a ≠ quote then ([], a :: b :: rest)
    else if b ≠ quote then ([a], b :: rest)
    else ([a, b], rest)
  | [a] => if a ≠ quote then ([], [a]) else ([a], [])
  | [] => ([], [])

/-- The body up to three double quotes of which the first is not escaped, and what follows them. -/
def bodyOfLines : List Char → Option (List Char × List Char)
  | '"' :: '"' :: '"' :: rest => some (closing '"' rest)
  | '\\' :: c :: rest => push ['\\', c] (bodyOfLines rest)
  | c :: rest => push [c] (bodyOfLines rest)
  | [] => none

/-- The body up to a single quote, and what follows the quote. -/
def plainBody : List Char → Option (List Char × List Char)
  | '\'' :: rest => some ([], rest)
  | c :: rest => push [c] (plainBody rest)
  | [] => none

/-- The body up to three single quotes, and what follows them. -/
def plainBodyOfLines : List Char → Option (List Char × List Char)
  | '\'' :: '\'' :: '\'' :: rest => some (closing '\'' rest)
  | c :: rest => push [c] (plainBodyOfLines rest)
  | [] => none

/-- The character behind a backslash, and the character that both stand for. -/
def escapes : List (Char × Char) :=
  [('b', '\x08'), ('t', '\t'), ('n', '\n'), ('f', '\x0c'), ('r', '\r'), ('"', '"'), ('\\', '\\')]

/-- The character with a number in base sixteen. -/
def charOf? (digits : List Char) : Option Char :=
  match Text.ofDigits? 16 digits with
  | some n => if n.isValidChar then some (Char.ofNat n) else none
  | none => none

/-- Whether a line has only gaps up to its end, and an end. -/
def isOnlyGaps (s : List Char) : Bool := (s.dropWhile isGap).head? = some '\n'

/-- The text that a body with escapes stands for. A backslash before gaps at the end of a line, the line
break, and all gaps and line breaks behind it stand for nothing; while these are `skipped`, the flag
is set. -/
def unescapeFrom : Bool → List Char → Option (List Char)
  | _, '\\' :: 'u' :: a :: b :: c :: d :: rest =>
    match charOf? [a, b, c, d] with
    | some x => (unescapeFrom false rest).map (x :: ·)
    | none => none
  | _, '\\' :: 'U' :: a :: b :: c :: d :: e :: f :: g :: h :: rest =>
    match charOf? [a, b, c, d, e, f, g, h] with
    | some x => (unescapeFrom false rest).map (x :: ·)
    | none => none
  | _, '\\' :: c :: rest =>
    match escapes.lookup c with
    | some x => (unescapeFrom false rest).map (x :: ·)
    | none => if isOnlyGaps (c :: rest) then unescapeFrom true rest else none
  | skipped, c :: rest =>
    if skipped && (isGap c || c = '\n') then unescapeFrom true rest
    else if c = '\\' then none
    else (unescapeFrom false rest).map (c :: ·)
  | _, [] => some []

/-- The text that a body with escapes stands for. -/
def unescape (body : List Char) : Option (List Char) := unescapeFrom false body

/-- A body with one character for each line break. -/
def withLineFeeds : List Char → List Char
  | '\r' :: '\n' :: rest => '\n' :: withLineFeeds rest
  | c :: rest => c :: withLineFeeds rest
  | [] => []

/-- The lines of a body between triple quotes, if no other control characters stand in them. -/
def linesOf (body : List Char) : Option (List Char) :=
  let s := withLineFeeds body
  let s := if s.head? = some '\n' then s.tail else s
  if s.all fun c => isLineChar c || c = '\n' then some s else none

/-- The line of a body between quotes, if no control characters stand in it. -/
def lineOf (body : List Char) : Option (List Char) :=
  if body.all isLineChar then some body else none

/-- Read a separated body with `meaning`, and keep what follows. -/
def finish (meaning : List Char → Option (List Char)) (r : Option (List Char × List Char)) :
    Option (List Char × List Char) :=
  r.bind fun (body, rest) => (meaning body).map (·, rest)

/-- Read a text of one line. -/
def readLine : List Char → Option (List Char × List Char)
  | '"' :: rest => finish (fun s => (lineOf s).bind unescape) (body rest)
  | '\'' :: rest => finish lineOf (plainBody rest)
  | _ => none

/-- Read a text in any of its forms. -/
def read : List Char → Option (List Char × List Char)
  | '"' :: '"' :: '"' :: rest => finish (fun s => (linesOf s).bind unescape) (bodyOfLines rest)
  | '\'' :: '\'' :: '\'' :: rest => finish linesOf (plainBodyOfLines rest)
  | s => readLine s

/-- A body without backslashes stands for itself. -/
theorem unescape_of_not_mem {s : List Char} (h : '\\' ∉ s) : unescape s = some s := by
  unfold unescape
  induction s with
  | nil => simp [unescapeFrom]
  | cons c rest ih =>
    have hc : c ≠ '\\' := fun e => h (e ▸ List.mem_cons_self)
    have hr : '\\' ∉ rest := fun m => h (List.mem_cons_of_mem _ m)
    rw [unescapeFrom]
    · simp [hc, ih hr]
    all_goals simp_all

end Quote

end Detour.Toml
