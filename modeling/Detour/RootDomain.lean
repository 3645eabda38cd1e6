import Detour.Text.Split
import Detour.Text.Utf8
/-!
# Root domains

The root domain of a host is the part that its owner registered, approximated by its last two
labels, or its last three if the second of them is as short as `co` in `co.uk`.
-/

namespace Detour

/-- Labels with fewer bytes than this, second to last in a host, belong to the ending of its root
domain. -/
def shortLabel : Nat := 4

/-- The size of a label in UTF-8. -/
def labelSize (label : List Char) : Nat := (Text.Utf8.encode label).length

/-- The labels of the root domain, last label first. -/
def rootLabels : List (List Char) → List (List Char)
  | last :: second :: third :: _ =>
    if labelSize second < shortLabel then [last, second, third] else [last, second]
  | few => few

/-- The root domain of a host. -/
def rootDomain (host : List Char) : List Char :=
  Text.joinWith '.' (rootLabels (Text.splitOn '.' host).reverse).reverse

end Detour
