import Detour.RuleSet
/-!
# What rules in order decide

Of rules in order the first that matches a target decides. Main statements: rules in front leave to those
behind them only what they do not match, a rule that is never the first to match can be left out, and
rules that are all exceptions, or all plain, decide alike in any order.
-/

namespace Detour.RuleSet

variable {rules more : List Rule} {r : Rule} {t : Target}

/-- Rules in front decide if one of them matches the target, and those behind them otherwise. -/
theorem orderedVerdict_append (front back : List Rule) (t : Target) :
    orderedVerdict (front ++ back) t =
      if front.any (·.fits t) then orderedVerdict front t else orderedVerdict back t := by
  unfold orderedVerdict
  rw [List.find?_append, ← List.isSome_find?]
  cases front.find? (·.fits t) <;> rfl

/-- A rule in front decides if it matches the target, and the others otherwise. -/
theorem orderedVerdict_cons (r : Rule) (back : List Rule) (t : Target) :
    orderedVerdict (r :: back) t = if r.fits t then !r.isException else orderedVerdict back t := by
  unfold orderedVerdict
  rw [List.find?_cons]
  cases r.fits t <;> rfl

/-- Where no rule matches, nothing is blocked. -/
theorem orderedVerdict_of_misses (misses : rules.any (·.fits t) = false) :
    orderedVerdict rules t = false := by
  rw [← List.isSome_find?, Option.isSome_eq_false_iff, Option.isNone_iff_eq_none] at misses
  rw [orderedVerdict, misses, Option.any_none]

/-- Rules that are all exceptions, or all plain, decide by whether one of them matches. -/
theorem orderedVerdict_of_alike {isException : Bool}
    (alike : ∀ r ∈ rules, r.isException = isException) (t : Target) :
    orderedVerdict rules t = (rules.any (·.fits t) && !isException) := by
  unfold orderedVerdict
  rw [← List.isSome_find?]
  cases first : rules.find? (·.fits t) with
  | some r =>
    have own := alike r (List.mem_of_find?_eq_some first)
    rw [Option.any_some, own, Option.isSome_some, Bool.true_and]
  | none => rfl

/-- What rules in order block stays blocked when others follow them. -/
theorem orderedVerdict_append_of_true (blocked : orderedVerdict rules t = true) (more : List Rule) :
    orderedVerdict (rules ++ more) t = true := by
  have hits : rules.any (·.fits t) = true := by
    rw [← Bool.not_eq_false]
    intro misses
    rw [orderedVerdict_of_misses misses] at blocked
    cases blocked
  rw [orderedVerdict_append, if_pos hits, blocked]

/-- Exceptions that follow rules in order change nothing: without them nothing would be blocked, either. -/
theorem orderedVerdict_append_exceptions (exempt : ∀ r ∈ more, r.isException = true)
    (rules : List Rule) (t : Target) : orderedVerdict (rules ++ more) t = orderedVerdict rules t := by
  rw [orderedVerdict_append, orderedVerdict_of_alike exempt, Bool.not_true, Bool.and_false]
  cases misses : rules.any (·.fits t) with
  | true => rfl
  | false => exact (orderedVerdict_of_misses misses).symm

/-- The first rule that matches decides. -/
theorem orderedVerdict_of_first (misses : ∀ earlier ∈ rules, earlier.fits t = false)
    (hits : r.fits t = true) (back : List Rule) :
    orderedVerdict (rules ++ r :: back) t = !r.isException := by
  have none : rules.any (·.fits t) = false :=
    List.any_eq_false.2 fun earlier found => by simp [misses earlier found]
  rw [orderedVerdict_append, none, if_neg Bool.false_ne_true, orderedVerdict_cons, if_pos hits]

/-- A rule that is not the first to match can be left out. -/
theorem orderedVerdict_of_not_first
    (later : r.fits t = true → ∃ earlier ∈ rules, earlier.fits t = true) (back : List Rule) :
    orderedVerdict (rules ++ r :: back) t = orderedVerdict (rules ++ back) t := by
  rw [orderedVerdict_append, orderedVerdict_append]
  cases misses : rules.any (·.fits t) with
  | true => rfl
  | false =>
    have own : ¬r.fits t = true := by
      intro hits
      rw [List.any_eq_true.2 (later hits)] at misses
      cases misses
    rw [orderedVerdict_cons, if_neg own]

/-- With the same rules under domains, two rule sets decide about a target by the host, and alike, or both by
the order. -/
theorem blocks_of_lookup_eq {s other : RuleSet} (same : ∀ key, s.lookup key = other.lookup key)
    (t : Target) :
    s.blocks t = other.blocks t ∨
      s.blocks t = orderedVerdict s.ordered t ∧ other.blocks t = orderedVerdict other.ordered t := by
  have host : s.hostRule t.host = other.hostRule t.host := by
    rw [hostRule, hostRule, same, same]
  rw [blocks, blocks, host]
  cases other.hostRule t.host with
  | some r => exact .inl rfl
  | none => exact .inr ⟨rfl, rfl⟩

/-- Rule sets with the same rules under domains, whose order decides alike, answer every query alike. -/
theorem isBlocked_of_lookup_eq {s other : RuleSet} (same : ∀ key, s.lookup key = other.lookup key)
    (order : ∀ t, orderedVerdict s.ordered t = orderedVerdict other.ordered t)
    (query : List Char) : s.isBlocked query = other.isBlocked query := by
  have decided : s.blocks = other.blocks := by
    funext t
    rcases blocks_of_lookup_eq same t with alike | ⟨own, theirs⟩
    · exact alike
    · rw [own, theirs, order]
  rw [isBlocked, isBlocked, decided]

end Detour.RuleSet
