import Detour.RootDomain
/-!
# Domains that hosts belong to

A host belongs to a domain if it is the domain or lies below it, which shows in a point in front of
the domain. Main statement: a host belongs to its root domain, so that no domain is ever taken for
the root domain of a host that merely ends with the same letters.
-/

namespace Detour

/-- A host belongs to a domain if it is the domain, or ends with a point and the domain. -/
def BelongsTo (host domain : List Char) : Prop := host = domain ∨ '.' :: domain <:+ host

instance (host domain : List Char) : Decidable (BelongsTo host domain) :=
  inferInstanceAs (Decidable (_ ∨ _))

/-- A host belongs to itself. -/
theorem BelongsTo.refl (host : List Char) : BelongsTo host host := .inl rfl

/-- The labels of the root domain are the first of the labels, last label first. -/
theorem rootLabels_prefix (labels : List (List Char)) : rootLabels labels <+: labels := by
  unfold rootLabels
  split
  · rename_i last second third rest
    split
    · exact ⟨rest, rfl⟩
    · exact ⟨third :: rest, rfl⟩
  · exact List.prefix_rfl

/-- There is a label in every root domain. -/
theorem rootLabels_ne_nil {labels : List (List Char)} (h : labels ≠ []) : rootLabels labels ≠ [] := by
  unfold rootLabels
  split
  · split <;> exact List.cons_ne_nil _ _
  · exact h

/-- A host belongs to its root domain. -/
theorem belongsTo_rootDomain (host : List Char) : BelongsTo host (rootDomain host) := by
  -- The labels that are left out come first, and a point parts them from the others.
  have nonempty : (Text.splitOn '.' host).reverse ≠ [] := by
    simpa using Text.splitOn_ne_nil '.' host
  obtain ⟨others, labels⟩ := rootLabels_prefix (Text.splitOn '.' host).reverse
  have split : Text.splitOn '.' host =
      others.reverse ++ (rootLabels (Text.splitOn '.' host).reverse).reverse := by
    rw [← List.reverse_append, labels, List.reverse_reverse]
  have kept := rootLabels_ne_nil nonempty
  have joined := Text.joinWith_splitOn '.' host
  rw [split] at joined
  cases others with
  | nil => exact .inl (joined.symm.trans rfl)
  | cons label others =>
    rw [Text.joinWith_append '.' (by simp) (by simpa using kept)] at joined
    exact .inr ⟨_, joined⟩

end Detour
