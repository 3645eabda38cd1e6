import Detour.Proofs.Pattern.Literal
import Detour.Proofs.Target
import Detour.Rule
/-!
# Rules that compare texts

A rule compares whole URLs with a text or with an expression. Main statement: an expression in which
every sign stands behind a backslash says the same as the text itself, and behind a circumflex the same
as the text for the start of URLs. The text may be any; one that is not made of ASCII is found in no URL either
way.
-/

namespace Detour.Rule

/-- An expression that can be read matches what its pattern does. -/
theorem fits_expression_of_isValid {source : List Char} {t : Target} {found : Bool}
    (valid : (Expression.ofSource source).isValid = true)
    (own : ∀ q, Pattern.read source = some q → q.isIn t.text = found) :
    (Kind.expression (.ofSource source)).fits t = found := by
  obtain ⟨q, read⟩ := Option.isSome_iff_exists.1 valid
  have same : (Expression.ofSource source).isIn t.text = q.isIn t.text := by
    rw [Expression.isIn, read, Option.any_some]
  exact same.trans (own q read)

/-- An expression that writes a text with a backslash in front of every sign matches the URLs that the text
occurs in, if it can be read, and with a circumflex in front of all the URLs that start with the text. -/
theorem fits_quoted {query : List Char} {t : Target} (asked : Target.parse query = some t)
    (p : List Char) :
    ((Expression.ofSource (Pattern.quoted p)).isValid = true →
      (Kind.expression (.ofSource (Pattern.quoted p))).fits t = (Kind.urlPart p).fits t) ∧
      ((Expression.ofSource ('^' :: Pattern.quoted p)).isValid = true →
        (Kind.expression (.ofSource ('^' :: Pattern.quoted p))).fits t = (Kind.urlStart p).fits t) := by
  have ascii : ∀ c ∈ t.text, c.toNat < 0x80 := fun c found =>
    Text.lt_of_isVisible ((Target.isNormal_of_parse asked).isVisible_of_mem found)
  constructor
  · intro valid
    exact fits_expression_of_isValid valid fun q read => Pattern.isIn_of_read_quoted ascii read
  · intro valid
    exact fits_expression_of_isValid valid fun q read => Pattern.isIn_of_read_start ascii read

/-- A text with many signs occurs in a URL, and the URL does not start with it. -/
theorem fits_quoted_of_signs :
    (Kind.expression (.ofSource "\\[::1\\]/a\\.b\\?c\\|d".toList)).fits
        ⟨⟨"git".toList, [], .ipv6 [0, 0, 0, 0, 0, 0, 0, 1], none, "/a.b".toList, some "c|d".toList, none⟩⟩ =
          true ∧
      (Kind.expression (.ofSource "^\\[::1\\]/a\\.b\\?c\\|d".toList)).fits
        ⟨⟨"git".toList, [], .ipv6 [0, 0, 0, 0, 0, 0, 0, 1], none, "/a.b".toList, some "c|d".toList, none⟩⟩ =
          false := by
  have asked : Target.parse "git://[::1]/a.b?c|d".toList =
      some ⟨⟨"git".toList, [], .ipv6 [0, 0, 0, 0, 0, 0, 0, 1], none, "/a.b".toList,
        some "c|d".toList, none⟩⟩ := by
    decide
  obtain ⟨part, start⟩ := fits_quoted asked "[::1]/a.b?c|d".toList
  exact ⟨(part (by decide)).trans (by decide), (start (by decide)).trans (by decide)⟩

end Detour.Rule
