import Detour.Feed
import Detour.Proofs.Target.Scheme
import Detour.Proofs.Url.Case
/-!
# Tabs and line breaks in queries

A URL reader drops tabs and line breaks wherever they stand, so that a text is the same URL with and
without them. Whether a query starts with a scheme is asked of the query as it is, however, and a tab
may hide a scheme there. Main statement: dropping tabs and line breaks changes the target of a query
only if its scheme was hidden and it is a URL without a host. Such a query is asked about by `https`, as if
its scheme were the host, and without its tabs and line breaks it has no target.
-/

namespace Detour

namespace Text

variable {α : Type} {p q : α → Bool}

/-- What is left out anyway need not be dropped in front. -/
theorem dropWhile_filter (h : ∀ a, q a = false → p a = true) (s : List α) :
    (s.filter q).dropWhile p = (s.dropWhile p).filter q := by
  induction s with
  | nil => rfl
  | cons a s ih =>
    cases kept : q a with
    | false => rw [List.filter_cons_of_neg (by simp [kept]), List.dropWhile_cons_of_pos (h a kept), ih]
    | true =>
      rw [List.filter_cons_of_pos kept]
      cases dropped : p a with
      | false =>
        rw [List.dropWhile_cons_of_neg (by simp [dropped]), List.dropWhile_cons_of_neg (by simp [dropped]),
          List.filter_cons_of_pos kept]
      | true => rw [List.dropWhile_cons_of_pos dropped, List.dropWhile_cons_of_pos dropped, ih]

/-- What is left out anyway need not be dropped at the ends. -/
theorem strip_filter (h : ∀ a, q a = false → p a = true) (s : List α) :
    strip p (s.filter q) = (strip p s).filter q := by
  rw [strip, strip, List.rdropWhile, List.rdropWhile, dropWhile_filter h, ← List.filter_reverse,
    dropWhile_filter h, List.filter_reverse]

end Text

namespace Target

/-- The tab and the characters that make line breaks. -/
def breaks : List Char := ['\t', '\n', '\r']

/-- A text without its tabs and line breaks. -/
def unbroken (s : List Char) : List Char := s.filter (· ∉ breaks)

/-- Tabs and line breaks are what a URL reader drops everywhere. -/
theorem unbroken_eq (s : List Char) : unbroken s = s.filter (!Url.isIgnored ·) := by
  refine List.filter_congr fun c _ => ?_
  simp [breaks, Url.isIgnored, Bool.or_assoc]

/-- What is dropped in a text is a control. -/
theorem isEdge_of_isIgnored {c : Char} (h : (!Url.isIgnored c) = false) : Url.isEdge c = true := by
  rw [Bool.not_eq_false'] at h
  cases edge : Url.isEdge c with
  | true => rfl
  | false =>
    rw [Url.isIgnored_of_isEdge edge] at h
    cases h

/-- What is dropped in a text is a blank. -/
theorem isBlank_of_isIgnored {c : Char} (h : (!Url.isIgnored c) = false) : Text.isBlank c = true := by
  simp only [Url.isIgnored, Bool.not_eq_false', Bool.or_eq_true, decide_eq_true_eq] at h
  rcases h with (rfl | rfl) | rfl <;> decide

variable (s : List Char)

/-- A text is the same URL with and without tabs and line breaks. -/
theorem read_unbroken : Url.read (unbroken s) = Url.read s := by
  have same : Url.clean (unbroken s) = Url.clean s := by
    change (Text.strip Url.isEdge (unbroken s)).filter _ = (Text.strip Url.isEdge s).filter _
    rw [unbroken_eq, Text.strip_filter (fun _ => isEdge_of_isIgnored), List.filter_filter]
    simp only [Bool.and_self]
  rw [Url.read_eq, Url.read_eq, same]

/-- Behind the default scheme, too, a text is the same URL with and without tabs and line breaks. -/
theorem read_defaultStart_unbroken :
    Url.read (defaultStart ++ unbroken s) = Url.read (defaultStart ++ s) := by
  have whole : defaultStart ++ unbroken s = unbroken (defaultStart ++ s) := by
    rw [unbroken, unbroken, List.filter_append]
    rfl
  rw [whole, read_unbroken]

/-- Tabs and line breaks at the ends of a text are trimmed away in any case. -/
theorem trim_unbroken : Text.trim (unbroken s) = unbroken (Text.trim s) := by
  rw [unbroken_eq, unbroken_eq]
  exact Text.strip_filter (fun _ => isBlank_of_isIgnored) s

/-- A trimmed text that is not empty is more than tabs and line breaks. -/
theorem isEmpty_unbroken_trim : (unbroken (Text.trim s)).isEmpty = (Text.trim s).isEmpty := by
  have first := Text.isBlank_of_head?_trim (s := s)
  rw [unbroken_eq]
  cases trimmed : Text.trim s with
  | nil => rfl
  | cons c rest =>
    have own : (!Url.isIgnored c) = true := by
      cases ignored : !Url.isIgnored c with
      | true => rfl
      | false =>
        have visible := first c (by rw [trimmed]; rfl)
        rw [isBlank_of_isIgnored ignored] at visible
        cases visible
    have kept : (c :: rest).filter (!Url.isIgnored ·) = c :: rest.filter (!Url.isIgnored ·) :=
      List.filter_cons_of_pos own
    rw [kept]
    rfl

variable {s}

/-- A text starts with a scheme if characters of schemes stand in front of the colon, the first a letter. -/
theorem startsWithScheme_iff : StartsWithScheme s ↔
    ∃ scheme rest, s = scheme ++ ':' :: '/' :: '/' :: rest ∧ scheme.head?.any Char.isAlpha = true ∧
      ∀ c ∈ scheme, Url.isSchemeChar c = true := by
  constructor
  · rintro ⟨c, others, rest, letter, chars⟩
    refine ⟨c :: others, rest, rfl, letter, List.forall_mem_cons.2 ⟨?_, fun d found =>
      isSchemeChar_iff.2 (chars d found)⟩⟩
    rw [Url.isSchemeChar, Char.isAlphanum, letter]
    rfl
  · rintro ⟨scheme, rest, rfl, first, chars⟩
    cases scheme with
    | nil => cases first
    | cons c others =>
      exact .intro c others rest first fun d found =>
        isSchemeChar_iff.1 (chars d (List.mem_cons_of_mem c found))

/-- No character of a scheme is a control. -/
theorem isEdge_of_isSchemeChar {c : Char} (h : Url.isSchemeChar c = true) : Url.isEdge c = false :=
  Url.isEdge_of_isVisible (Url.isVisible_of_isSchemeChar h)

/-- A scheme that is seen in a text is seen without tabs and line breaks, too. -/
theorem StartsWithScheme.unbroken (h : StartsWithScheme s) : StartsWithScheme (unbroken s) := by
  obtain ⟨scheme, rest, rfl, first, chars⟩ := startsWithScheme_iff.1 h
  have kept : scheme.filter (!Url.isIgnored ·) = scheme := List.filter_eq_self.2 fun c found => by
    rw [Url.isIgnored_of_isEdge (isEdge_of_isSchemeChar (chars c found))]
    rfl
  refine startsWithScheme_iff.2 ⟨scheme, rest.filter (!Url.isIgnored ·), ?_, first, chars⟩
  rw [unbroken_eq, List.filter_append, kept]
  rfl

/-- What follows a scheme cannot take it back. -/
theorem readBehind_ne (scheme rest : List Char) : Url.readBehind scheme rest ≠ .relative := by
  have authority (special : Bool) (s : List Char) : Url.readAuthority scheme special s ≠ .relative := by
    unfold Url.readAuthority
    dsimp only
    split
    · nofun
    split
    · split <;> nofun
    · split <;> nofun
  unfold Url.readBehind
  split
  · unfold Url.readFile
    dsimp only
    repeat' split
    all_goals nofun
  split
  · exact authority true _
  split
  · exact authority false _
  · nofun

/-- What starts with a scheme is no text without a scheme for a URL reader. -/
theorem StartsWithScheme.read_ne (h : StartsWithScheme s) : Url.read s ≠ .relative := by
  obtain ⟨scheme, rest, rfl, first, chars⟩ := startsWithScheme_iff.1 h
  have front : ∀ c ∈ scheme ++ [':'], Url.isEdge c = false := by
    rw [List.forall_mem_append]
    exact ⟨fun c found => isEdge_of_isSchemeChar (chars c found),
      List.forall_mem_singleton.2 (by decide)⟩
  have tail : Url.IsTail ('/' :: '/' :: rest) := by
    rintro c ⟨⟩
    decide
  have clean : Url.clean (scheme ++ ':' :: '/' :: '/' :: rest) =
      scheme ++ ':' :: Url.clean ('/' :: '/' :: rest) := by
    have kept := Url.clean_append front tail
    rwa [List.append_assoc, List.append_assoc] at kept
  have behind : (scheme ++ ':' :: Url.clean ('/' :: '/' :: rest)).dropWhile Url.isSchemeChar =
      ':' :: Url.clean ('/' :: '/' :: rest) :=
    Text.dropWhile_append_of_head? chars (by simp [Url.isSchemeChar])
  have letter : (scheme ++ ':' :: Url.clean ('/' :: '/' :: rest)).head?.any Char.isAlpha = true := by
    cases scheme with
    | nil => cases first
    | cons c others => exact first
  rw [Url.read_eq, clean, Url.splitScheme, if_pos letter, behind]
  exact readBehind_ne _ _

/-- A query whose scheme is only seen without tabs and line breaks, and which is a URL without a host. -/
structure HidesScheme (s : List Char) : Prop where
  /-- Without them it starts with a scheme. -/
  seen : StartsWithScheme (unbroken (Text.trim s))
  /-- With them it does not. -/
  hidden : ¬StartsWithScheme (Text.trim s)
  /-- A URL reader finds no host in it. -/
  hostless : Url.read (Text.trim s) = .hostless

variable (s)

/-- A query is read with and without tabs and line breaks alike, unless they hide its scheme. -/
theorem parseTrimmed_unbroken (open_ : ¬HidesScheme s) :
    parseTrimmed (unbroken (Text.trim s)) = parseTrimmed (Text.trim s) := by
  have scheme (bare : Url.read (Text.trim s) = .hostless ∨ Url.read (Text.trim s) = .relative) :
      hasScheme (unbroken (Text.trim s)) = hasScheme (Text.trim s) := by
    rw [Bool.eq_iff_iff, hasScheme_iff, hasScheme_iff]
    refine ⟨fun seen => ?_, StartsWithScheme.unbroken⟩
    by_contra hidden
    rcases bare with hostless | relative
    · exact open_ ⟨seen, hidden, hostless⟩
    · rw [← read_unbroken] at relative
      exact seen.read_ne relative
  rw [parseTrimmed, parseTrimmed, read_unbroken, read_defaultStart_unbroken]
  cases read : Url.read (Text.trim s) with
  | url u => rfl
  | malformed => rfl
  | hostless => rw [scheme (.inl read)]
  | relative => rw [scheme (.inr read)]

/-- A query that starts with a scheme only without tabs and line breaks is read behind the default scheme
with them, if a URL reader finds no host in it, and not at all without them. In all other queries tabs
and line breaks do not matter, and every rule set answers alike with and without them. -/
theorem parse_unbroken :
    (HidesScheme s → parse (unbroken s) = none ∧
      parse s = parse ("https://".toList ++ unbroken (Text.trim s))) ∧
    (¬HidesScheme s → parse (unbroken s) = parse s ∧
      ∀ rules : RuleSet, rules.isBlocked (unbroken s) = rules.isBlocked s) := by
  refine ⟨fun hides => ?_, fun open_ => ?_⟩
  · have seen := hasScheme_iff.2 hides.seen
    have hidden : hasScheme (Text.trim s) = false := by
      rw [Bool.eq_false_iff, Ne, hasScheme_iff]
      exact hides.hidden
    have full : (Text.trim s).isEmpty = false := by
      cases trimmed : Text.trim s with
      | nil =>
        rw [trimmed] at seen
        cases seen
      | cons c rest => rfl
    have behind : (defaultStart ++ unbroken (Text.trim s)).isEmpty = false := rfl
    constructor
    · rw [parse, trim_unbroken, isEmpty_unbroken_trim, full, if_neg Bool.false_ne_true, parseTrimmed,
        read_unbroken, hides.hostless, seen]
      rfl
    · change parse s = parse (defaultStart ++ unbroken (Text.trim s))
      rw [parse, full, if_neg Bool.false_ne_true, parseTrimmed, hides.hostless, hidden, parse,
        ← trim_unbroken, trim_defaultStart, trim_unbroken, behind, if_neg Bool.false_ne_true,
        parseTrimmed_of_hasScheme (hasScheme_defaultStart _), read_defaultStart_unbroken]
      rfl
  · have same : parse (unbroken s) = parse s := by
      rw [parse, parse, trim_unbroken, isEmpty_unbroken_trim, parseTrimmed_unbroken s open_]
    exact ⟨same, fun rules => by rw [RuleSet.isBlocked, RuleSet.isBlocked, same]⟩

/-- The path of a file is taken for a host with a path if a tab stands behind the colon of its scheme. -/
theorem parse_file_behind_tab :
    HidesScheme "file:\t///etc/passwd".toList ∧
      parse (unbroken "file:\t///etc/passwd".toList) = none ∧
      parse "file:\t///etc/passwd".toList =
        some ⟨⟨"https".toList, [], .name "file".toList, none, "///etc/passwd".toList, none, none⟩⟩ ∧
      (RuleSet.ofText "||file".toList).isBlocked "file:\t///etc/passwd".toList = true ∧
      (RuleSet.ofText "||file".toList).isBlocked (unbroken "file:\t///etc/passwd".toList) = false := by
  refine ⟨⟨hasScheme_iff.1 (by decide), ?_, by decide⟩, by decide, by decide, by decide, by decide⟩
  rw [← hasScheme_iff]
  decide

end Target

end Detour
