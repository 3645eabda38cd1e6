import Detour.Text.Blank
/-!
# Flags in patterns

Flags change how the rest of a group is read. `(?i)` sets one, `(?-i)` clears it and `(?i:…)` sets it
for a group of its own. With the flag for free layout, blanks and comments mean nothing.
-/

namespace Detour.Pattern

/-- What is in force while a pattern is read. -/
structure Flags where
  /-- Capital and small letters count as the same: `i`. -/
  anyCase : Bool
  /-- Each line has a start and an end: `m`. -/
  lines : Bool
  /-- A point stands for a line end, too: `s`. -/
  anyChar : Bool
  /-- A carriage return is a line end, too: `R`. -/
  returns : Bool
  /-- Classes hold characters beyond ASCII: `u`. -/
  beyondAscii : Bool
  /-- Blanks and comments mean nothing: `x`. -/
  layout : Bool
  deriving DecidableEq, Repr

/-- The flags in force at the start of a pattern. -/
def Flags.initial : Flags := ⟨false, false, false, false, true, false⟩

/-- Set or clear the flag that a letter names. The flag `U`, which prefers short matches, changes
nothing about whether there is a match. -/
def Flags.put (f : Flags) (letter : Char) (value : Bool) : Option Flags :=
  match letter with
  | 'i' => some { f with anyCase := value }
  | 'm' => some { f with lines := value }
  | 's' => some { f with anyChar := value }
  | 'R' => some { f with returns := value }
  | 'u' => some { f with beyondAscii := value }
  | 'x' => some { f with layout := value }
  | 'U' => some f
  | _ => none

/-- The flags after some letters, of which those behind a hyphen clear their flag. No letter may be
named twice, nor a hyphen end the letters; `named` holds what was named before, last one first. -/
def Flags.putAll (f : Flags) (named : List Char) : List Char → Option Flags
  | [] => if named.head? = some '-' then none else some f
  | c :: rest =>
    if c ∈ named then none
    else if c = '-' then f.putAll (c :: named) rest
    else match f.put c ('-' ∉ named) with
      | some f => f.putAll (c :: named) rest
      | none => none

/-- What follows blanks and comments. A comment goes from a number sign to the end of its line. -/
def skipLayout (inComment : Bool) : List Char → List Char
  | [] => []
  | c :: rest =>
    if inComment then skipLayout (c ≠ '\n') rest
    else if Text.isBlank c then skipLayout false rest
    else if c = '#' then skipLayout true rest
    else c :: rest

/-- What follows the characters that mean nothing. -/
def Flags.skip (f : Flags) (s : List Char) : List Char := if f.layout then skipLayout false s else s

end Detour.Pattern
