import Detour.Text.Numeral
import Detour.Unicode.Printable
/-!
# Quoted texts

A text is shown between quotes, with escapes for what would not be seen or would be misread. The main
statement is that a text without such characters is shown as it is.
-/

namespace Detour.Text

/-- How a character is shown between quotes. -/
def quotedChar (c : Char) : List Char :=
  if c = '\x00' then ['\\', '0']
  else if c = '\t' then ['\\', 't']
  else if c = '\r' then ['\\', 'r']
  else if c = '\n' then ['\\', 'n']
  else if c = '"' ∨ c = '\\' then ['\\', c]
  else if Unicode.isPrintable c then [c]
  else ['\\', 'u', '\x7b'] ++ hexadecimal c.toNat ++ ['\x7d']

/-- A text between quotes. -/
def quoted (s : List Char) : List Char := '"' :: s.flatMap quotedChar ++ ['"']

/-- A character that can be shown, other than a quote and a backslash, is shown as it is. -/
theorem quotedChar_of_isPrintable {c : Char} (h : Unicode.isPrintable c = true)
    (hq : c ≠ '"') (hb : c ≠ '\\') : quotedChar c = [c] := by
  have differs {d : Char} (hidden : Unicode.isPrintable d = false) : c ≠ d := by
    intro e
    rw [e, hidden] at h
    cases h
  have hnul := differs (d := '\x00') (by decide)
  have htab := differs (d := '\t') (by decide)
  have hcr := differs (d := '\r') (by decide)
  have hlf := differs (d := '\n') (by decide)
  simp [quotedChar, hnul, htab, hcr, hlf, hq, hb, h]

end Detour.Text
