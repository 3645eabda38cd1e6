import Detour.Proofs.Feed
import Detour.Proofs.RootDomain
import Detour.Proofs.Rule.Line
/-!
# Rules that decide by the host

A rule that a list keeps under a domain compares hosts with this domain, with or without a point in
front. It is found only for hosts that belong to the domain, so that the comparison, which looks
for a text anywhere in the host, can neither miss nor hit by chance. Main statement: where there is a
rule for the host of a query or for its root domain, the host alone tells the answer.
-/

namespace Detour

/-- The rule of a line has the form of some text. -/
theorem Rule.form_of_readLine {line : List Char} {e : Rule.Entry} (h : Rule.readLine line = some e) :
    ∃ text, Rule.Form text e.rule.kind e.place := by
  obtain ⟨-, rfl⟩ := Rule.readLine_eq_some_iff.1 h
  exact ⟨_, Rule.form_readText _⟩

/-- The rules of lines have the forms of texts. -/
theorem Rule.form_of_mem_entries {lines : List (List Char)} {e : Rule.Entry}
    (h : e ∈ Rule.entries lines) : ∃ text, Rule.Form text e.rule.kind e.place := by
  obtain ⟨line, _, read⟩ := List.mem_filterMap.1 h
  exact Rule.form_of_readLine read

/-- The domain of a text is the text itself, or the text starts with a point. -/
theorem Rule.eq_or_eq_of_keyOf (text : List Char) :
    text = Rule.keyOf text ∨ text = '.' :: Rule.keyOf text := by
  unfold Rule.keyOf
  split
  · exact .inr rfl
  · exact .inl rfl

/-- Of the entries of lines, one under a domain looks for the domain in hosts, possibly behind a point. -/
theorem Rule.kind_of_lastUnder {lines : List (List Char)} {key : List Char} {r : Rule}
    (h : Rule.lastUnder key (Rule.entries lines) = some r) :
    r.kind = .hostPart key ∨ r.kind = .hostPart ('.' :: key) := by
  obtain ⟨text, form⟩ := Rule.form_of_mem_entries (Rule.mem_of_lastUnder h)
  obtain ⟨kind, isException⟩ := r
  cases form with
  | domain => exact .inl rfl
  | host =>
    rcases Rule.eq_or_eq_of_keyOf text with plain | pointed
    · exact .inl (congrArg Rule.Kind.hostPart plain)
    · exact .inr (congrArg Rule.Kind.hostPart pointed)

/-- Of the entries of lines, those kept in order compare whole URLs. -/
theorem Rule.kind_of_mem_inOrder {lines : List (List Char)} {r : Rule}
    (h : r ∈ Rule.inOrder (Rule.entries lines)) (text : List Char) : r.kind ≠ .hostPart text := by
  obtain ⟨_, form⟩ := Rule.form_of_mem_entries (Rule.mem_of_mem_inOrder h)
  obtain ⟨kind, isException⟩ := r
  rintro rfl
  cases form

/-- A rule kept under a domain looks for the domain in hosts, possibly behind a point. -/
theorem RuleSet.kind_of_lookup_ofText {list key : List Char} {r : Rule}
    (h : (ofText list).lookup key = some r) :
    r.kind = .hostPart key ∨ r.kind = .hostPart ('.' :: key) := by
  rw [lookup_ofText] at h
  exact Rule.kind_of_lastUnder h

/-- A rule kept in order compares whole URLs. -/
theorem RuleSet.kind_of_mem_ordered_ofText {list : List Char} {r : Rule}
    (h : r ∈ (ofText list).ordered) (text : List Char) : r.kind ≠ .hostPart text := by
  rw [ordered_ofText] at h
  exact Rule.kind_of_mem_inOrder h text

namespace Target

/-- What follows the host in an authority holds no point. -/
theorem authority_eq (t : Target) : ∃ port, t.authority = t.host ++ port ∧ '.' ∉ port := by
  unfold authority host Url.authority
  cases t.url.port with
  | none => exact ⟨[], rfl, List.not_mem_nil⟩
  | some port =>
    refine ⟨':' :: Text.decimal port, rfl, ?_⟩
    intro point
    rcases List.mem_cons.1 point with colon | digit
    · cases colon
    · have isDigit := Nat.isDigit_of_mem_toDigits (by decide) (by decide) digit
      cases isDigit

/-- A domain occurs in the authority of every target whose host belongs to it. -/
theorem isIn_authority_of_belongsTo {t : Target} {key : List Char} (h : BelongsTo t.host key) :
    Text.isIn key t.authority = true := by
  obtain ⟨port, authority, _⟩ := t.authority_eq
  have inHost : key <:+: t.host := by
    rcases h with same | below
    · exact same ▸ List.infix_rfl
    · exact (List.suffix_cons '.' key).isInfix.trans below.isInfix
  rw [Text.isIn_iff, authority]
  exact inHost.trans (List.prefix_append _ _).isInfix

/-- Behind a point a domain occurs in the authority of a target whose host belongs to it exactly if
the host is not the domain itself: the authority has no more points than the host. -/
theorem isIn_authority_point {t : Target} {key : List Char} (h : BelongsTo t.host key) :
    Text.isIn ('.' :: key) t.authority = !decide (key = t.host) := by
  obtain ⟨port, authority, noPoint⟩ := t.authority_eq
  by_cases same : key = t.host
  · have missing : Text.isIn ('.' :: key) t.authority = false := by
      rw [Bool.eq_false_iff]
      intro found
      rw [Text.isIn_iff, authority, same] at found
      -- The host behind a point has one more point than the host, and the port has none.
      have points := found.count_le '.'
      rw [List.count_cons_self, List.count_append, List.count_eq_zero.2 noPoint] at points
      omega
    rw [missing, decide_eq_true same]
    rfl
  · have below : '.' :: key <:+ t.host := h.resolve_left fun e => same e.symm
    have found : Text.isIn ('.' :: key) t.authority = true := by
      rw [Text.isIn_iff, authority]
      exact below.isInfix.trans (List.prefix_append _ _).isInfix
    simp [found, same]

end Target

namespace RuleSet

/-- What a rule kept under a domain decides about a target whose host belongs to the domain. -/
theorem blocks_of_lookup_ofText {list key : List Char} {r : Rule} {t : Target}
    (kept : (ofText list).lookup key = some r) (host : BelongsTo t.host key) :
    r.blocks t =
      if key = t.host ∧ r.kind.pattern = '.' :: key then r.isException else !r.isException := by
  have differs : key ≠ '.' :: key := fun e => by simpa using congrArg List.length e
  rcases kind_of_lookup_ofText kept with plain | pointed
  · have fits : r.fits t = true := by
      rw [Rule.fits, plain]
      exact Target.isIn_authority_of_belongsTo host
    rw [Rule.blocks, fits, if_neg (fun h => differs (by simpa [plain, Rule.Kind.pattern] using h.2))]
    exact Bool.true_bne _
  · have fits : r.fits t = !decide (key = t.host) := by
      rw [Rule.fits, pointed]
      exact Target.isIn_authority_point host
    rw [Rule.blocks, fits, pointed]
    by_cases same : key = t.host
    · simp [same, Rule.Kind.pattern]
    · simp [same]

/-- The rule for a host is the one kept under the host or, if there is none, under its root domain. -/
theorem hostRule_of_lookup {s : RuleSet} {host key : List Char} {r : Rule}
    (chosen : key = if (s.lookup host).isSome then host else rootDomain host)
    (kept : s.lookup key = some r) : s.hostRule host = some r := by
  unfold hostRule
  cases found : s.lookup host with
  | some other =>
    rw [found, Option.isSome_some, if_pos rfl] at chosen
    rw [chosen, found] at kept
    exact kept
  | none =>
    rw [found, Option.isSome_none, if_neg Bool.false_ne_true] at chosen
    rw [← chosen]
    exact kept

/-- If a list keeps a rule under the host of a query, or else under its root domain, the host alone
tells the answer. The host belongs to the domain. The rule looks for a text in hosts, and a query is
blocked by a plain rule and exempted by an exception, except that a rule for a domain behind a point
does not match the domain itself. No other query with this host has another answer, and no rule kept
in order looks for its text in hosts. -/
theorem isBlocked_ofText_of_lookup {list query key : List Char} {t : Target} {r : Rule}
    (asked : Target.parse query = some t)
    (chosen : key = if ((ofText list).lookup t.host).isSome then t.host else rootDomain t.host)
    (kept : (ofText list).lookup key = some r) :
    BelongsTo t.host key ∧
      (∃ text, r.kind = .hostPart text ∧ (ofText list).isBlocked query =
        if key = t.host ∧ text = '.' :: key then r.isException else !r.isException) ∧
      (∀ other u, Target.parse other = some u → u.host = t.host →
        (ofText list).isBlocked other = (ofText list).isBlocked query) ∧
      ∀ a ∈ (ofText list).ordered, ∀ text, a.kind ≠ .hostPart text := by
  have host : BelongsTo t.host key := by
    rw [chosen]
    split
    · exact .refl _
    · exact belongsTo_rootDomain _
  have answer (other : List Char) (u : Target) (parsed : Target.parse other = some u)
      (same : u.host = t.host) : (ofText list).isBlocked other =
        if key = t.host ∧ r.kind.pattern = '.' :: key then r.isException else !r.isException := by
    have rule : (ofText list).hostRule u.host = some r := by
      rw [same]
      exact hostRule_of_lookup chosen kept
    rw [isBlocked, parsed, Option.any_some, blocks, rule, ← same]
    exact blocks_of_lookup_ofText kept (same ▸ host)
  refine ⟨host, ?_, ?_, fun a found text => kind_of_mem_ordered_ofText found text⟩
  · rcases kind_of_lookup_ofText kept with plain | pointed
    · refine ⟨key, plain, ?_⟩
      rw [answer query t asked rfl, plain]
      rfl
    · refine ⟨'.' :: key, pointed, ?_⟩
      rw [answer query t asked rfl, pointed]
      rfl
  · intro other u parsed same
    rw [answer other u parsed same, answer query t asked rfl]

/-- A rule for a domain behind a point blocks all that is asked about a host below the domain. -/
theorem isBlocked_below_pointed_domain :
    rootDomain "www.example.com".toList = "example.com".toList ∧
      (ofText ".example.com".toList).lookup "example.com".toList =
        some ⟨.hostPart ".example.com".toList, false⟩ ∧
      (ofText ".example.com".toList).isBlocked "git://www.example.com:9418/a".toList = true ∧
      (ofText ".example.com".toList).isBlocked "svn://me@www.example.com?b".toList = true := by
  have asked : Target.parse "git://www.example.com:9418/a".toList =
      some ⟨⟨"git".toList, [], .name "www.example.com".toList, some 9418, ['/', 'a'], none, none⟩⟩ := by
    decide
  have again : Target.parse "svn://me@www.example.com?b".toList =
      some ⟨⟨"svn".toList, ['m', 'e'], .name "www.example.com".toList, none, [], some ['b'], none⟩⟩ := by
    decide
  have kept : (ofText ".example.com".toList).lookup "example.com".toList =
      some ⟨.hostPart ".example.com".toList, false⟩ := by
    decide
  obtain ⟨-, ⟨text, kind, answer⟩, others, -⟩ :=
    isBlocked_ofText_of_lookup asked (by decide) kept
  have blocked := answer.trans (if_neg fun h => absurd h.1 (by decide))
  exact ⟨by decide, kept, blocked, (others _ _ again rfl).trans blocked⟩

end RuleSet

end Detour
