import Detour.Proofs.Target
/-!
# Queries without a scheme

A query that does not say how its host is reached asks about it by `https`. Its first reading takes what
stands in front of a colon for a scheme, as in `host:port`, or finds none, and gives no host either
way, so that the query is read once more. Main statement: such a query has the same target as the
text with `https` in front of it.
-/

namespace Detour.Target

/-- The schemes of which a URL has a host even without two slashes. -/
def wellKnown : List (List Char) :=
  ["http".toList, "https".toList, "ws".toList, "wss".toList, "ftp".toList, "file".toList]

/-- Controls of ASCII. -/
def isControl (c : Char) : Bool := c.toNat < 0x20 || c.toNat = 0x7f

/-- A text that starts with a scheme, a colon and two slashes. -/
inductive StartsWithScheme : List Char → Prop where
  /-- The scheme is a letter, followed by letters, digits and some signs. -/
  | intro (c : Char) (others rest : List Char) (letter : c.isAlpha = true)
    (chars : ∀ d ∈ others, d.isAlphanum = true ∨ d ∈ ['+', '-', '.']) :
    StartsWithScheme (c :: others ++ ':' :: '/' :: '/' :: rest)

/-- What stands in front of the first colon with two slashes is followed by them. -/
theorem eq_append_of_schemeFrom {before s found : List Char} (h : schemeFrom before s = some found) :
    ∃ own rest, found = before.reverse ++ own ∧ s = own ++ ':' :: '/' :: '/' :: rest := by
  induction s generalizing before with
  | nil => cases h
  | cons c s ih =>
    unfold schemeFrom at h
    split at h
    · cases h
    · rename_i rest e
      cases h
      exact ⟨[], rest, (List.append_nil _).symm, e⟩
    · rename_i e
      cases e
      obtain ⟨own, rest, rfl, rfl⟩ := ih h
      exact ⟨c :: own, rest, by simp, rfl⟩

/-- The characters of a scheme behind its first letter are letters, digits and some signs. -/
theorem isSchemeChar_iff {c : Char} :
    Url.isSchemeChar c = true ↔ c.isAlphanum = true ∨ c ∈ ['+', '-', '.'] := by
  simp only [Url.isSchemeChar, Bool.or_eq_true, decide_eq_true_eq, List.mem_cons, List.not_mem_nil,
    or_false, or_assoc]

/-- Exactly what starts with a scheme is taken to. -/
theorem hasScheme_iff {s : List Char} : hasScheme s = true ↔ StartsWithScheme s := by
  constructor
  · intro h
    unfold hasScheme at h
    split at h
    · rename_i c others found
      obtain ⟨letter, chars⟩ := (Bool.and_eq_true _ _).mp h
      obtain ⟨own, rest, same, rfl⟩ := eq_append_of_schemeFrom found
      rw [List.reverse_nil, List.nil_append] at same
      subst same
      exact .intro c others rest letter fun d inside =>
        isSchemeChar_iff.1 (List.all_eq_true.1 chars d inside)
    · cases h
  · rintro ⟨c, others, rest, letter, chars⟩
    have signs : ∀ d ∈ others, Url.isSchemeChar d = true := fun d inside =>
      isSchemeChar_iff.2 (chars d inside)
    have colon : ':' ∉ c :: others := by
      rintro (_ | ⟨_, inside⟩)
      · exact absurd letter (by decide)
      · exact absurd (signs ':' inside) (by decide)
    rw [hasScheme, schemeFrom_append [] rest colon, List.reverse_nil, List.nil_append]
    dsimp only
    rw [letter, List.all_eq_true.2 signs]
    rfl

/-- The default scheme is one. -/
theorem hasScheme_defaultStart (s : List Char) : hasScheme (defaultStart ++ s) = true := by
  have chars : ∀ d ∈ "ttps".toList, d.isAlphanum = true ∨ d ∈ ['+', '-', '.'] :=
    Text.forall_mem_of_all (by decide)
  exact hasScheme_iff.2 (.intro 'h' "ttps".toList s (by decide) chars)

/-- The host of a scheme that is not well known is only looked for behind two slashes. -/
theorem unusual_of_not_mem {scheme : List Char} (h : scheme ∉ wellKnown) :
    Url.isFile scheme = false ∧ Url.usualPort scheme = none := by
  simp only [wellKnown, List.mem_cons, List.not_mem_nil, or_false, not_or] at h
  obtain ⟨http, https, ws, wss, ftp, file⟩ := h
  refine ⟨decide_eq_false file, ?_⟩
  rw [Url.usualPort, if_neg (not_or.2 ⟨http, ws⟩), if_neg (not_or.2 ⟨https, wss⟩), if_neg ftp]

variable {s : List Char}

/-- The first reading of a text without a scheme gives no host. -/
theorem read_of_not_startsWithScheme (clean : Url.clean s = s) (bare : ¬StartsWithScheme s)
    (unknown : ':' ∈ s → (s.takeWhile (· ≠ ':')).map Char.toLower ∉ wellKnown) :
    Url.read s = .relative ∨ Url.read s = .hostless := by
  unfold Url.read
  rw [clean]
  cases cut : Url.splitScheme s with
  | none => exact .inl rfl
  | some parts =>
    obtain ⟨scheme, rest⟩ := parts
    obtain ⟨own, rfl, rfl, first, chars⟩ := Url.eq_append_of_splitScheme cut
    have front : ∀ c ∈ own, decide (c ≠ ':') = true := fun c found => by
      rw [decide_eq_true_eq]
      rintro rfl
      exact absurd (chars ':' found) (by decide)
    have name : (own ++ ':' :: rest).takeWhile (· ≠ ':') = own :=
      Text.takeWhile_append_of_head? front (by simp)
    have other := unknown (by simp)
    rw [name] at other
    obtain ⟨notFile, noPort⟩ := unusual_of_not_mem other
    dsimp only
    rw [notFile, noPort]
    right
    simp only [Bool.false_eq_true, if_false, Option.isSome_none]
    split
    · rename_i after
      refine absurd ?_ bare
      cases own with
      | nil => cases first
      | cons c others =>
        exact .intro c others after first fun d inside =>
          isSchemeChar_iff.1 (chars d (List.mem_cons_of_mem c inside))
    · rfl

/-- What is no blank and no control is kept at the ends of a URL. -/
theorem isEdge_of_isBlank {c : Char} (plain : isControl c = false) (visible : Text.isBlank c = false) :
    Url.isEdge c = false := by
  simp only [isControl, Bool.or_eq_false_iff, decide_eq_false_iff_not] at plain
  have blank : c.toNat ≠ 0x20 := fun e => by
    rw [← Char.ofNat_toNat c, e] at visible
    cases visible
  exact decide_eq_false (by omega)

/-- A trimmed text without controls is clean, also behind the default scheme. -/
theorem clean_trim (plain : ∀ c ∈ Text.trim s, isControl c = false) :
    Url.clean (Text.trim s) = Text.trim s := by
  have edge {c : Char} (found : c ∈ Text.trim s) : Text.isBlank c = false → Url.isEdge c = false :=
    isEdge_of_isBlank (plain c found)
  refine Url.clean_of_ends
    (fun c found => edge (List.mem_of_mem_head? found) (Text.isBlank_of_head?_trim c found))
    (fun c found => edge (List.mem_of_getLast? found) (Text.isBlank_of_getLast?_trim c found))
    fun c found => ?_
  cases ignored : Url.isIgnored c with
  | false => rfl
  | true =>
    simp only [Url.isIgnored, Bool.or_eq_true, decide_eq_true_eq] at ignored
    rcases ignored with (rfl | rfl) | rfl <;> exact absurd (plain _ found) (by decide)

/-- A trimmed text has nothing to trim behind the default scheme. -/
theorem trim_defaultStart (s : List Char) :
    Text.trim (defaultStart ++ Text.trim s) = defaultStart ++ Text.trim s := by
  refine Text.trim_of_ends (fun c found => ?_) fun c found => ?_
  · cases found
    decide
  · rw [List.getLast?_append] at found
    cases last : (Text.trim s).getLast? with
    | none =>
      rw [last] at found
      cases found
      decide
    | some d =>
      rw [last] at found
      cases found
      exact Text.isBlank_of_getLast?_trim c last

/-- A text that starts with a scheme is read once. -/
theorem parseTrimmed_of_hasScheme (h : hasScheme s = true) :
    parseTrimmed s = match Url.read s with
      | .url u => some ⟨u⟩
      | _ => none := by
  rw [parseTrimmed, h]
  cases Url.read s <;> rfl

/-- A text without a scheme is read as the text behind the default scheme. -/
theorem parseTrimmed_of_not_startsWithScheme (clean : Url.clean s = s) (bare : ¬StartsWithScheme s)
    (unknown : ':' ∈ s → (s.takeWhile (· ≠ ':')).map Char.toLower ∉ wellKnown) :
    parseTrimmed s = parseTrimmed (defaultStart ++ s) := by
  have none : hasScheme s = false := by
    rw [Bool.eq_false_iff, Ne, hasScheme_iff]
    exact bare
  rw [parseTrimmed_of_hasScheme (hasScheme_defaultStart s), parseTrimmed, none]
  rcases read_of_not_startsWithScheme clean bare unknown with read | read
  · rw [read]
    rfl
  · rw [read]
    rfl

/-- A query without a scheme has the same target as the query with `https` in front of it, or both have
none, so that every rule set decides about both alike. The query holds no controls, and what stands
in front of its first colon, if it has one, is none of the schemes of which a URL has a host even
without two slashes. -/
theorem parse_eq_parse_https (plain : ∀ c ∈ Text.trim s, isControl c = false)
    (bare : ¬StartsWithScheme (Text.trim s))
    (unknown : ':' ∈ Text.trim s →
      ((Text.trim s).takeWhile (· ≠ ':')).map Char.toLower ∉ wellKnown) :
    parse s = parse ("https://".toList ++ Text.trim s) ∧
      ∀ rules : RuleSet, rules.isBlocked s = rules.isBlocked ("https://".toList ++ Text.trim s) := by
  have same : parse s = parse (defaultStart ++ Text.trim s) := by
    have reading := parseTrimmed_of_not_startsWithScheme (clean_trim plain) bare unknown
    unfold parse
    rw [trim_defaultStart]
    cases e : Text.trim s with
    | nil => decide
    | cons c u =>
      rw [e] at reading
      exact reading
  refine ⟨same, fun rules => ?_⟩
  rw [RuleSet.isBlocked, RuleSet.isBlocked, same]
  rfl

/-- A host with a port is asked about by `https`, whatever its query holds. -/
theorem parse_host_with_port :
    parse " host.test:8080/a?b=ftp://c ".toList = parse "https://host.test:8080/a?b=ftp://c".toList ∧
      parse "https://host.test:8080/a?b=ftp://c".toList =
        some ⟨⟨"https".toList, [], .name "host.test".toList, some 8080, "/a".toList,
          some "b=ftp://c".toList, none⟩⟩ := by
  have trimmed : Text.trim " host.test:8080/a?b=ftp://c ".toList =
      "host.test:8080/a?b=ftp://c".toList := by
    decide
  have same := parse_eq_parse_https (s := " host.test:8080/a?b=ftp://c ".toList)
    (Text.forall_mem_of_all (by decide)) (by rw [← hasScheme_iff]; decide) (fun _ => by decide)
  rw [trimmed] at same
  exact ⟨same.1, by decide⟩

end Detour.Target
