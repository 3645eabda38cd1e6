import Detour.Proofs.Reading.FromTarget
import Detour.Proofs.RootDomain.Labels
/-!
# Domains as they are written in lists

The host of a query is brought into its normal form, and the domain of a line is not: it is compared letter by
letter. Main statement: a line for a domain blocks the queries whose host, or its root domain, is the very
text of the line. Two spellings of one domain therefore do the same only if no host is ever written like
either of them.
-/

namespace Detour

namespace Url

/-- A character that the host of a URL with an unknown scheme keeps as it is. -/
def isKept (c : Char) : Bool := !isForbiddenInName c && !escapedEverywhere c

/-- The characters of domain names in ASCII form are kept. -/
theorem isKept_of_isPlain {c : Char} (h : Domain.isPlain c = true) : isKept c = true := by
  refine Text.forall_of_ascii (P := fun d => Domain.isPlain d = true → isKept d = true) ?_
    (Domain.lt_of_isPlain h) h
  decide

/-- A host without colons is made of characters that are kept. -/
theorem isKept_of_hostOf {special : Bool} {s : List Char} {host : Host}
    (h : hostOf special s = some host) (colon : ':' ∉ host.text) : ∀ c ∈ host.text, isKept c = true := by
  have address (read : bracketed s = some host) : ∀ c ∈ host.text, isKept c = true := by
    obtain ⟨-, inside⟩ := Option.ite_none_right_eq_some.1 read
    obtain ⟨groups, parsed, rfl⟩ := Option.map_eq_some_iff.1 inside
    have found := Address.Ipv6.colon_mem_text (Address.Ipv6.isAddress_of_parse parsed)
    exact absurd (by simp [Host.text, found]) colon
  cases special with
  | false =>
    rw [hostOf, if_neg Bool.false_ne_true] at h
    unfold readVerbatim at h
    split at h
    · exact address h
    split at h
    · cases h
    · rename_i allowed
      cases h
      intro c found
      rcases mem_percentEncode found with ⟨inside, kept⟩ | written
      · have own := List.any_eq_false.1 (Bool.eq_false_iff.2 allowed) c inside
        rw [isKept, Bool.eq_false_iff.2 own, kept]
        rfl
      · have all : ∀ d ∈ escapeChars, isKept d = true := Text.forall_mem_of_all (by decide)
        exact all c written
  | true =>
    rw [hostOf, if_pos rfl] at h
    unfold readHost at h
    split at h
    · exact address h
    unfold readDomain at h
    split at h
    · cases h
    split at h
    · cases h
    rename_i name ascii
    unfold hostOfName at h
    split at h
    · cases h
    split at h
    · obtain ⟨n, _, rfl⟩ := Option.map_eq_some_iff.1 h
      exact fun c found => isKept_of_isPlain (isPlain_of_mem_ipv4 found)
    · cases h
      exact fun c found => isKept_of_isPlain (Domain.isPlain_of_mem_toAscii ascii found)

/-- The host of a URL is read from some part of its text. -/
theorem exists_hostOf_of_read {s : List Char} {u : Url} (h : read s = .url u) :
    ∃ special text, hostOf special text = some u.host := by
  have authority {scheme : List Char} {special : Bool} {rest : List Char}
      (read : readAuthority scheme special rest = .url u) :
      ∃ special text, hostOf special text = some u.host := by
    unfold readAuthority at read
    dsimp only at read
    split at read
    · cases read
    split at read
    · split at read <;> cases read
    split at read
    · rename_i found _
      cases read
      exact ⟨_, _, found⟩
    · cases read
  unfold read at h
  split at h
  · cases h
  split at h
  · unfold readFile at h
    split at h
    · split at h
      · dsimp only at h
        split at h
        · cases h
        split at h
        · cases h
        rename_i found
        split at h
        · cases h
        split at h
        · cases h
        · cases h
          exact ⟨true, _, found⟩
      · cases h
    · cases h
  split at h
  · exact authority h
  split at h
  · exact authority h
  · cases h

end Url

namespace Target

/-- A host without colons of what was asked is made of characters that are kept. -/
theorem isKept_of_parse {s : List Char} {t : Target} (h : parse s = some t) (colon : ':' ∉ t.host) :
    ∀ c ∈ t.host, Url.isKept c = true := by
  obtain ⟨special, text, read⟩ : ∃ special text, Url.hostOf special text = some t.url.host := by
    unfold parse at h
    dsimp only at h
    split at h
    · cases h
    unfold parseTrimmed at h
    split at h
    · rename_i read
      cases h
      exact Url.exists_hostOf_of_read read
    · cases h
    all_goals
      split at h
      · cases h
      split at h
      · rename_i read
        cases h
        exact Url.exists_hostOf_of_read read
      · cases h
  exact Url.isKept_of_hostOf read colon

/-- A text of kept characters is the host of a query with an unknown scheme. -/
theorem exists_parse_of_isKept {d : List Char} (full : d ≠ []) (kept : ∀ c ∈ d, Url.isKept c = true) :
    ∃ query u, parse query = some u ∧ u.host = d := by
  have allowed : ∀ c ∈ d, Url.isForbiddenInName c = false ∧ Url.escapedEverywhere c = false := by
    intro c found
    have own := kept c found
    rwa [Url.isKept, Bool.and_eq_true, Bool.not_eq_true', Bool.not_eq_true'] at own
  have chars : ∀ c ∈ d, Url.isHostChar c = true := by
    intro c found
    refine Url.isHostChar_of_mem_percentEncode (s := d) (List.any_eq_false.2 fun e inside => ?_) ?_
    · rw [(allowed e inside).1]
      exact Bool.false_ne_true
    · rwa [Url.percentEncode_of_forall fun e inside => (allowed e inside).2]
  have front : d.head? ≠ some '[' := fun first =>
    absurd (chars '[' (List.mem_of_head? first)) (by decide)
  have forbidden : d.any Url.isForbiddenInName = false := List.any_eq_false.2 fun e inside => by
    rw [(allowed e inside).1]
    exact Bool.false_ne_true
  have host : Url.hostOf false d = some (.name d) := by
    rw [Url.hostOf, if_neg Bool.false_ne_true, Url.readVerbatim, if_neg front, forbidden,
      if_neg Bool.false_ne_true, Url.percentEncode_of_forall fun e inside => (allowed e inside).2]
  have scheme : Url.IsScheme ['x'] :=
    ⟨by decide, Text.forall_mem_of_all (by decide), Text.forall_mem_of_all (by decide)⟩
  have unknown : Url.isSpecial ['x'] = false := by decide
  have normal : Url.IsNormal ⟨['x'], [], .name d, none, [], none, none⟩ := {
    scheme := scheme
    user := Url.isUser_nil
    host := ⟨full, chars, by rw [unknown, host]; rfl⟩
    port := fun _ found => by cases found
    path := .inl rfl
    query := fun _ found => by cases found
    fragment := fun _ found => by cases found
    file := fun own => by cases own }
  exact ⟨_, ⟨_⟩, (parse_text_of_isNormal (t := ⟨_⟩) normal).trans (if_pos rfl), rfl⟩

end Target

namespace Reading

open Rule (readLine lastUnder)

/-- A text that is asked about and put into a list for a domain: the query is its own host, and `target` is
what is asked about. -/
structure Spells (d : List Char) (target : Target) : Prop where
  /-- It has a target. -/
  asked : Target.parse d = some target
  /-- It holds no blanks. -/
  solid : ∀ c ∈ d, Text.isBlank c = false
  /-- Nothing in it ends a host. -/
  bare : ∀ c ∈ d, c ∉ "/:@?#".toList

/-- Whether a text may be found in the hosts of what is asked, letter by letter. -/
def IsWritten (d : List Char) : Prop := ∀ c ∈ d, Url.isKept c = true

variable {d other : List Char} {t : Target}

/-- A text with a target is not empty. -/
theorem Spells.ne_nil (h : Spells d t) : d ≠ [] := by
  rintro rfl
  cases h.asked

/-- There is no colon in it. -/
theorem Spells.colon (h : Spells d t) : ':' ∉ d := fun found => absurd (h.bare ':' found) (by decide)

/-- A list with a domain in its only line keeps one rule, under the domain as it is written. -/
theorem ofText_bars (solid : ∀ c ∈ d, Text.isBlank c = false) :
    (∀ key, (RuleSet.ofText ('|' :: '|' :: d)).lookup key =
        if d = key then some ⟨.hostPart d, false⟩ else none) ∧
      (RuleSet.ofText ('|' :: '|' :: d)).ordered = [] := by
  have chars : ∀ c ∈ '|' :: '|' :: d, Text.isBlank c = false :=
    List.forall_mem_cons.2 ⟨by decide, List.forall_mem_cons.2 ⟨by decide, solid⟩⟩
  have trimmed : Text.trim ('|' :: '|' :: d) = '|' :: '|' :: d :=
    Text.trim_of_ends (fun c found => chars c (List.mem_of_mem_head? found))
      fun c found => chars c (List.mem_of_getLast? found)
  have read : readLine ('|' :: '|' :: d) = some ⟨⟨.hostPart d, false⟩, .indexed d⟩ :=
    (Rule.readLine_line_iff (r := ⟨.hostPart d, false⟩) trimmed).2 trivial
  have single : '\n' ∉ '|' :: '|' :: d := fun feed => absurd (chars '\n' feed) (by decide)
  have entries : Rule.entries (Text.lines ('|' :: '|' :: d)) =
      [⟨⟨.hostPart d, false⟩, .indexed d⟩] := by
    rw [Rule.entries_lines_of_not_mem single]
    exact congrArg Option.toList read
  constructor
  · intro key
    rw [RuleSet.lookup_ofText, entries]
    by_cases same : d = key <;> simp [lastUnder, same]
  · rw [RuleSet.ordered_ofText, entries]
    rfl

/-- Such a list blocks what has the domain for its host or for the root domain of its host. -/
theorem blocks_bars (solid : ∀ c ∈ d, Text.isBlank c = false) (u : Target) :
    (RuleSet.ofText ('|' :: '|' :: d)).blocks u = decide (u.host = d ∨ rootDomain u.host = d) := by
  obtain ⟨kept, ordered⟩ := ofText_bars solid
  by_cases hit : u.host = d ∨ rootDomain u.host = d
  · have belongs : BelongsTo u.host d := by
      rcases hit with rfl | rfl
      · exact .refl _
      · exact belongsTo_rootDomain _
    have rule : (RuleSet.ofText ('|' :: '|' :: d)).hostRule u.host = some ⟨.hostPart d, false⟩ := by
      rw [RuleSet.hostRule, kept, kept]
      rcases hit with same | same
      · rw [if_pos same.symm]
        rfl
      · rw [if_pos same.symm]
        split <;> rfl
    have fits : Rule.fits ⟨.hostPart d, false⟩ u = true := Target.isIn_authority_of_belongsTo belongs
    rw [RuleSet.blocks, rule, decide_eq_true hit]
    exact (congrArg (· != false) fits).trans rfl
  · obtain ⟨host, root⟩ := not_or.1 hit
    have none : (RuleSet.ofText ('|' :: '|' :: d)).hostRule u.host = none := by
      rw [RuleSet.hostRule, kept, kept, if_neg (Ne.symm host), if_neg (Ne.symm root)]
      rfl
    rw [RuleSet.blocks, none, ordered, decide_eq_false hit]
    rfl

/-- A host with a colon is its own root domain. -/
theorem rootDomain_of_colon {special : Bool} {host : Url.Host} (normal : host.IsNormal special)
    (colon : ':' ∈ host.text) : rootDomain host.text = host.text := by
  cases host with
  | name text => exact absurd (normal.2.1 ':' colon) (by decide)
  | ipv4 n => exact absurd (Url.isPlain_of_mem_ipv4 colon) (by decide)
  | ipv6 groups =>
    refine rootDomain_of_few ?_
    rw [Text.splitOn_of_not_mem (Url.point_not_mem_ipv6 groups), List.length_singleton]
    decide

/-- A domain that is the host of something asked, or its root domain, is written like a host. -/
theorem isWritten_of_parse {query : List Char} {u : Target} (colon : ':' ∉ d)
    (asked : Target.parse query = some u) (hit : u.host = d ∨ rootDomain u.host = d) : IsWritten d := by
  have normal := (Target.isNormal_of_parse asked).host
  have whole : ':' ∉ u.host := by
    intro found
    have same := rootDomain_of_colon normal found
    rcases hit with rfl | rfl
    · exact colon found
    · exact colon (same.symm ▸ found)
  have inside : ∀ c ∈ d, c ∈ u.host := by
    intro c found
    rcases hit with rfl | rfl
    · exact found
    · rcases belongsTo_rootDomain u.host with same | below
      · exact same.symm ▸ found
      · exact below.subset (List.mem_cons_of_mem _ found)
  exact fun c found => Target.isKept_of_parse asked whole c (inside c found)

/-- A list for a domain blocks something exactly if the domain is written like a host. -/
theorem Spells.exists_isBlocked_iff (h : Spells d t) :
    (∃ query, (RuleSet.ofText ('|' :: '|' :: d)).isBlocked query = true) ↔ IsWritten d := by
  constructor
  · rintro ⟨query, blocked⟩
    obtain ⟨u, asked, hit⟩ := (Option.any_eq_true _ _).1 blocked
    rw [blocks_bars h.solid, decide_eq_true_eq] at hit
    exact isWritten_of_parse h.colon asked hit
  · intro written
    obtain ⟨query, u, asked, host⟩ := Target.exists_parse_of_isKept h.ne_nil written
    refine ⟨query, ?_⟩
    rw [RuleSet.isBlocked, asked]
    exact (blocks_bars h.solid u).trans (decide_eq_true (.inl host))

/-- A list for a domain that is written like a host blocks this host, and what other list blocks it has the
host or its root domain in its line. -/
theorem eq_or_eq_of_same (h : Spells d t) (solid : ∀ c ∈ other, Text.isBlank c = false)
    (written : IsWritten d)
    (same : ∀ query, (RuleSet.ofText ('|' :: '|' :: d)).isBlocked query =
      (RuleSet.ofText ('|' :: '|' :: other)).isBlocked query) : d = other ∨ rootDomain d = other := by
  obtain ⟨query, u, asked, rfl⟩ := Target.exists_parse_of_isKept h.ne_nil written
  have both := same query
  rw [RuleSet.isBlocked, RuleSet.isBlocked, asked, Option.any_some, Option.any_some, blocks_bars h.solid,
    blocks_bars solid, decide_eq_true (.inl rfl)] at both
  exact of_decide_eq_true both.symm

/-- The lists for two domains block the same queries exactly if the domains are written alike or neither is written
like a host. -/
theorem same_iff {u : Target} (h : Spells d t) (h' : Spells other u) :
    (∀ query, (RuleSet.ofText ('|' :: '|' :: d)).isBlocked query =
        (RuleSet.ofText ('|' :: '|' :: other)).isBlocked query) ↔
      d = other ∨ ¬IsWritten d ∧ ¬IsWritten other := by
  constructor
  · intro same
    have reach : IsWritten d ↔ IsWritten other := by
      rw [← h.exists_isBlocked_iff, ← h'.exists_isBlocked_iff]
      simp only [same]
    by_cases written : IsWritten d
    · left
      -- Each would have to be the root domain of the other, and a root domain is its own.
      rcases eq_or_eq_of_same h h'.solid written same with e | root
      · exact e
      rcases eq_or_eq_of_same h' h.solid (reach.1 written) fun query => (same query).symm with e | back
      · exact e.symm
      · rw [← back, ← root, rootDomain_rootDomain]
    · exact .inr ⟨written, fun e => written (reach.2 e)⟩
  · rintro (rfl | ⟨none, none'⟩) query
    · rfl
    · have straight := fun e => none (h.exists_isBlocked_iff.1 ⟨query, e⟩)
      have straight' := fun e => none' (h'.exists_isBlocked_iff.1 ⟨query, e⟩)
      rw [Bool.eq_false_iff.2 straight, Bool.eq_false_iff.2 straight']

/-- A line for a domain has the queries blocked whose host, or whose root domain, is written like it, letter by
letter. If the domain is no text that a host may have, there are none. Of two lines with one host in two
spellings, both block the same queries exactly if the spellings are equal or neither is what a host may
have. The spelling that the host is brought into blocks everything with this host, however a query
spells it. -/
theorem isBlocked_of_spelling (h : Spells d t) :
    (∀ query, (RuleSet.ofText ('|' :: '|' :: d)).isBlocked query =
        (Target.parse query).any fun u => decide (u.host = d ∨ rootDomain u.host = d)) ∧
      ((∀ query, (RuleSet.ofText ('|' :: '|' :: d)).isBlocked query = false) ↔ ¬IsWritten d) ∧
      (∀ other u, Spells other u → u.host = t.host →
        ((∀ query, (RuleSet.ofText ('|' :: '|' :: d)).isBlocked query =
            (RuleSet.ofText ('|' :: '|' :: other)).isBlocked query) ↔
          d = other ∨ ¬IsWritten d ∧ ¬IsWritten other)) ∧
      ∀ query u, Target.parse query = some u → u.host = t.host →
        (RuleSet.ofText ('|' :: '|' :: t.host)).isBlocked query = true := by
  refine ⟨fun query => ?_, ?_, fun other u spells _ => same_iff h spells, fun query u asked host => ?_⟩
  · rw [RuleSet.isBlocked]
    exact congrArg (Option.any · _) (funext (blocks_bars h.solid))
  · rw [← h.exists_isBlocked_iff, not_exists]
    simp only [Bool.not_eq_true]
  · have solid : ∀ c ∈ t.host, Text.isBlank c = false := fun c found =>
      Text.isBlank_of_isVisible (Url.of_mem_text (Target.isNormal_of_parse h.asked).host found).1
    rw [RuleSet.isBlocked, asked]
    exact (blocks_bars solid u).trans (decide_eq_true (.inl host))

/-- A list for a domain in capital letters does not block the domain in small letters, nor in capital letters
behind `https`; it is a host only behind an unknown scheme. -/
theorem isBlocked_of_capital_letters :
    Spells "Example.com".toList
        ⟨⟨"https".toList, [], .name "example.com".toList, none, "/".toList, none, none⟩⟩ ∧
      (RuleSet.ofText "||Example.com".toList).isBlocked "https://Example.com/".toList = false ∧
      (RuleSet.ofText "||Example.com".toList).isBlocked "x://Example.com/".toList = true ∧
      (RuleSet.ofText "||example.com".toList).isBlocked "https://Example.com/".toList = true := by
  have spells : Spells "Example.com".toList
      ⟨⟨"https".toList, [], .name "example.com".toList, none, "/".toList, none, none⟩⟩ :=
    ⟨by decide, Text.forall_mem_of_all (by decide), Text.forall_mem_of_all (by decide)⟩
  obtain ⟨blocks, -, -, host⟩ := isBlocked_of_spelling spells
  have asked : Target.parse "https://Example.com/".toList =
      some ⟨⟨"https".toList, [], .name "example.com".toList, none, "/".toList, none, none⟩⟩ := by
    decide
  refine ⟨spells, (blocks _).trans (by rw [asked]; decide), (blocks _).trans (by decide),
    host _ _ asked rfl⟩

/-- Two spellings of one domain, and a query that the list with one of them blocks and the list with the other
does not. -/
theorem spelling_matters :
    Spells "Example.com".toList
        ⟨⟨"https".toList, [], .name "example.com".toList, none, "/".toList, none, none⟩⟩ ∧
      Spells "example.com".toList
        ⟨⟨"https".toList, [], .name "example.com".toList, none, "/".toList, none, none⟩⟩ ∧
      (RuleSet.ofText "||Example.com".toList).isBlocked "example.com".toList = false ∧
      (RuleSet.ofText "||example.com".toList).isBlocked "example.com".toList = true :=
  ⟨⟨by decide, Text.forall_mem_of_all (by decide), Text.forall_mem_of_all (by decide)⟩,
    ⟨by decide, Text.forall_mem_of_all (by decide), Text.forall_mem_of_all (by decide)⟩,
    by decide, by decide⟩

end Reading

end Detour
