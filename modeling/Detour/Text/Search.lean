/-!
# Texts inside texts

`isIn` says whether one text occurs in another; the main statement is that it finds every place.
-/

namespace Detour.Text

variable {α : Type} [BEq α]

/-- Whether a text occurs in another one. -/
def isIn (part : List α) : List α → Bool
  | [] => part.isEmpty
  | a :: rest => part.isPrefixOf (a :: rest) || isIn part rest

/-- A text occurs in another one exactly if it is an infix of it. -/
theorem isIn_iff [LawfulBEq α] {part s : List α} : isIn part s = true ↔ part <:+: s := by
  induction s with
  | nil => simp [isIn]
  | cons a rest ih =>
    simp only [isIn, Bool.or_eq_true, List.isPrefixOf_iff_prefix, ih]
    exact List.infix_cons_iff.symm

/-- What a text starts with occurs in it. -/
theorem isIn_of_isPrefixOf [LawfulBEq α] {part s : List α} (h : part.isPrefixOf s = true) :
    isIn part s = true :=
  isIn_iff.2 (List.isPrefixOf_iff_prefix.1 h).isInfix

end Detour.Text
