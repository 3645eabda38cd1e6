/-!
# Lines

A line ends at a line feed, which is not part of it, and neither is one carriage return in
front of that line feed. What follows the last line feed is a line if it is not empty. The rule
is the same for characters and for bytes, so `linesOf` takes the two separators.
-/

namespace Detour.Text

variable {α : Type} [DecidableEq α]

/-- The line whose characters, last one first, are `current`, once its line feed is read. -/
def closeLine (cr : α) (current : List α) : List α :=
  match current with
  | [] => []
  | c :: before => if c = cr then before.reverse else (c :: before).reverse

/-- The lines of `current`, reversed, followed by the rest of the text. -/
def linesFrom (lf cr : α) (current : List α) : List α → List (List α)
  | [] => if current.isEmpty then [] else [current.reverse]
  | c :: rest =>
    if c = lf then closeLine cr current :: linesFrom lf cr [] rest
    else linesFrom lf cr (c :: current) rest

/-- The lines of a text over any alphabet with a line feed and a carriage return. -/
def linesOf (lf cr : α) (s : List α) : List (List α) := linesFrom lf cr [] s

/-- The lines of a text. -/
def lines (s : List Char) : List (List Char) := linesOf '\n' '\r' s

/-- The lines of a byte sequence. -/
def byteLines (s : List UInt8) : List (List UInt8) := linesOf 10 13 s

@[simp] theorem lines_nil : lines [] = [] := rfl

/-- A line feed closes the line that is open, whatever follows. -/
theorem linesFrom_append_lf (lf cr : α) (current s rest : List α) (h : lf ∉ s) :
    linesFrom lf cr current (s ++ lf :: rest) =
      closeLine cr (s.reverse ++ current) :: linesFrom lf cr [] rest := by
  induction s generalizing current with
  | nil => simp [linesFrom]
  | cons c s ih =>
    have hc : c ≠ lf := fun e => h (e ▸ List.mem_cons_self)
    have hs : lf ∉ s := fun m => h (List.mem_cons_of_mem _ m)
    simp [linesFrom, hc, ih _ hs]

end Detour.Text
