import Detour.Proofs.Url.Read
import Detour.RuleSet
/-!
# The text of a target

The text of a target is what is shown of it and what most rules look at. Main statements: it is put
together from the parts that the other rules look at, and, read as a query, it has the same target
again. The second statement has two exceptions, domain names with a longer Punycode than is read and
files on a host whose path starts with the letter of a drive; their texts have no target.
-/

namespace Detour.Target

open Text (isVisible)

/-- The URL of a target is in normal form. -/
theorem isNormal_of_parse {s : List Char} {t : Target} (h : parse s = some t) : t.url.IsNormal := by
  unfold parse at h
  dsimp only at h
  split at h
  · cases h
  · unfold parseTrimmed at h
    split at h
    · rename_i u read
      cases h
      exact Url.isNormal_of_read read
    · cases h
    all_goals
      split at h
      · cases h
      · split at h
        · rename_i u read
          cases h
          exact Url.isNormal_of_read read
        · cases h

/-- What stands in front of the first colon with two slashes is found if it holds no colon. -/
theorem schemeFrom_append {scheme : List Char} (before rest : List Char) (h : ':' ∉ scheme) :
    schemeFrom before (scheme ++ ':' :: '/' :: '/' :: rest) = some (before.reverse ++ scheme) := by
  induction scheme generalizing before with
  | nil => simp [schemeFrom]
  | cons c scheme ih =>
    have other : c ≠ ':' := fun e => h (e ▸ List.mem_cons_self)
    rw [List.cons_append, schemeFrom, ih _ fun found => h (List.mem_cons_of_mem c found)]
    · simp
    · rintro rest rfl
      exact absurd rfl other

/-- A text that starts with a scheme, a colon and two slashes is found to. -/
theorem hasScheme_append {scheme : List Char} (h : Url.IsScheme scheme) (rest : List Char) :
    hasScheme (scheme ++ "://".toList ++ rest) = true := by
  have colon : ':' ∉ scheme := fun found => absurd (h.chars ':' found) (by decide)
  have whole : scheme ++ "://".toList ++ rest = scheme ++ ':' :: '/' :: '/' :: rest := by simp
  have first := h.first
  rw [hasScheme, whole, schemeFrom_append [] _ colon, List.reverse_nil, List.nil_append]
  cases scheme with
  | nil => cases first
  | cons c others =>
    have letter : c.isAlpha = true := first
    have chars : others.all Url.isSchemeChar = true :=
      List.all_eq_true.2 (List.forall_mem_cons.1 h.chars).2
    dsimp only
    rw [letter, chars]
    rfl

variable {t : Target}

/-- The text of a target starts with a scheme. -/
theorem hasScheme_text (h : t.url.IsNormal) : hasScheme t.text = true := by
  rw [text, Url.text, List.append_assoc _ t.url.userText, List.append_assoc _ (_ ++ _)]
  exact hasScheme_append h.scheme _

/-- Whether the text of a target has a target: not that of a domain name with a longer Punycode than
is read, and not that of a file on a host whose path starts with the letter of a drive. -/
def readsBack (t : Target) : Bool := !(t.url.hasLongLabel || t.url.isOnDrive)

/-- The text of a target has this target again, or none. -/
theorem parse_text_of_isNormal (h : t.url.IsNormal) :
    parse t.text = if t.readsBack then some t else none := by
  have visible : ∀ c ∈ t.text, isVisible c = true := fun c => h.isVisible_of_mem
  have scheme := hasScheme_text h
  have full : t.text.isEmpty = false := by
    cases e : t.text with
    | nil =>
      rw [e] at scheme
      cases scheme
    | cons c rest => rfl
  have read : Url.read t.text = if t.url.hasLongLabel then .malformed
      else if t.url.isOnDrive then .hostless else .url t.url := h.read_text
  rw [parse, Text.trim_of_isVisible visible, full, if_neg Bool.false_ne_true, parseTrimmed, read,
    readsBack]
  cases t.url.hasLongLabel with
  | true => rfl
  | false =>
    cases t.url.isOnDrive with
    | true =>
      simp only [Bool.false_eq_true, if_false, if_true, scheme]
      rfl
    | false => rfl

/-- A target that is read from a query is read from its own text, too, with the exceptions of
`readsBack`, and where it is, every rule set decides about the text as about the query. -/
theorem parse_text_of_parse {s : List Char} (h : parse s = some t) :
    parse t.text = (if t.readsBack then some t else none) ∧
      (t.readsBack = true → ∀ rules : RuleSet, rules.isBlocked t.text = rules.isBlocked s) := by
  have again := parse_text_of_isNormal (isNormal_of_parse h)
  refine ⟨again, fun back rules => ?_⟩
  rw [RuleSet.isBlocked, RuleSet.isBlocked, again, if_pos back, h]

/-- A host without a scheme is shown as a whole URL, which has the same target. -/
theorem parse_text_of_bare_host :
    parse "https://example.com/b".toList =
        some ⟨⟨"https".toList, [], .name "example.com".toList, none, "/b".toList, none, none⟩⟩ ∧
      (⟨{}, [⟨.urlPart "/b".toList, false⟩]⟩ : RuleSet).isBlocked "https://example.com/b".toList =
        (⟨{}, [⟨.urlPart "/b".toList, false⟩]⟩ : RuleSet).isBlocked "Example.COM/a/../b".toList := by
  have read : parse "Example.COM/a/../b".toList =
      some ⟨⟨"https".toList, [], .name "example.com".toList, none, "/b".toList, none, none⟩⟩ := by
    decide
  obtain ⟨again, same⟩ := parse_text_of_parse read
  exact ⟨again, same (by decide) _⟩

/-- The text of a file on a host has no target if its path starts with the letter of a drive, which
dropping an empty segment may lead to. -/
theorem parse_text_of_drive :
    (parse "file://[::1]//C:/x".toList).map text = some "file://[::1]/C:/x".toList ∧
      parse "file://[::1]/C:/x".toList = none ∧
      (⟨{}, [⟨.urlStart "file://".toList, false⟩]⟩ : RuleSet).isBlocked
        "file://[::1]//C:/x".toList = true ∧
      (⟨{}, [⟨.urlStart "file://".toList, false⟩]⟩ : RuleSet).isBlocked
        "file://[::1]/C:/x".toList = false := by
  decide

/-- The parts of the text of a target. -/
structure WellShaped (t : Target) : Prop where
  /-- The host is not empty. -/
  full : t.host ≠ []
  /-- Nothing in the host ends it. -/
  host : ∀ c ∈ t.host, c ∉ "/?#@".toList
  /-- The text does not start with a blank. -/
  first : ∀ c ∈ t.text.head?, Text.isBlank c = false
  /-- The text does not end with a blank. -/
  last : ∀ c ∈ t.text.getLast?, Text.isBlank c = false
  /-- The text has the authority behind the scheme and the user, and the path behind it. -/
  parts : ∃ user rest, t.text = t.scheme ++ "://".toList ++ user ++ t.authority ++ rest ∧
    (user = [] ∨ ∃ info, user = info ++ ['@'] ∧ ∀ c ∈ info, c ∉ "/?#@".toList) ∧
    ∀ c ∈ rest.head?, c ∈ "/?#".toList
  /-- The authority is the host, possibly with a port. -/
  authority : t.authority = t.host ∨ ∃ port ≤ 65535, t.authority = t.host ++ ':' :: Text.decimal port

/-- A target is put together from its parts, so that what a rule finds in the authority or at the
start of the text is found in the text. -/
theorem wellShaped_of_parse {s : List Char} (h : parse s = some t) :
    t.WellShaped ∧ ∀ p : List Char,
      ((Rule.Kind.hostPart p).fits t = true → (Rule.Kind.urlPart p).fits t = true) ∧
      ((Rule.Kind.urlStart p).fits t = true → (Rule.Kind.urlPart p).fits t = true) := by
  have normal := isNormal_of_parse h
  have blank {c : Char} (found : c ∈ t.text) : Text.isBlank c = false :=
    Text.isBlank_of_isVisible (normal.isVisible_of_mem found)
  have fewer {c : Char} (h : c ∉ "#/?@\\".toList) : c ∉ "/?#@".toList := by
    have more : ∀ d ∈ "/?#@".toList, d ∈ "#/?@\\".toList := Text.forall_mem_of_all (by decide)
    exact fun found => h (more c found)
  have shape : t.WellShaped := by
    refine ⟨Url.text_ne_nil normal.host, fun c found => fewer (Url.of_mem_text normal.host found).2,
      fun c found => blank (List.mem_of_mem_head? found),
      fun c found => blank (List.mem_of_getLast? found),
      ⟨t.url.userText, t.url.rest, rfl, ?_, ?_⟩, ?_⟩
    · unfold Url.userText
      split
      · exact .inl rfl
      · exact .inr ⟨t.url.user, rfl, fun c found => fewer (Url.of_mem_user normal.user found).2⟩
    · intro c found
      rcases normal.head?_rest c found with rfl | tail
      · decide
      · simp only [Url.endsPath, Bool.or_eq_true, decide_eq_true_eq] at tail
        rcases tail with rfl | rfl <;> decide
    · cases port : t.url.port with
      | none =>
        left
        rw [Target.authority, Url.authority_eq, port]
        exact List.append_nil _
      | some n =>
        right
        refine ⟨n, (normal.port n port).1, ?_⟩
        rw [Target.authority, Url.authority_eq, port]
        rfl
  refine ⟨shape, fun p => ⟨fun found => ?_, Text.isIn_of_isPrefixOf⟩⟩
  obtain ⟨user, rest, whole, -, -⟩ := shape.parts
  have inside : p <:+: t.authority := Text.isIn_iff.1 found
  refine Text.isIn_iff.2 (inside.trans ?_)
  rw [whole]
  exact List.infix_append _ _ _

/-- A URL with a user and a port is put together from its parts. -/
theorem wellShaped_with_user_and_port :
    parse "git://me@x:8080/a?b#c".toList =
        some ⟨⟨"git".toList, "me".toList, .name "x".toList, some 8080, "/a".toList, some "b".toList,
          some "c".toList⟩⟩ ∧
      WellShaped ⟨⟨"git".toList, "me".toList, .name "x".toList, some 8080, "/a".toList, some "b".toList,
        some "c".toList⟩⟩ := by
  have read : parse "git://me@x:8080/a?b#c".toList =
      some ⟨⟨"git".toList, "me".toList, .name "x".toList, some 8080, "/a".toList, some "b".toList,
        some "c".toList⟩⟩ := by
    decide
  exact ⟨read, (wellShaped_of_parse read).1⟩

end Detour.Target
