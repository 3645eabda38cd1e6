import Detour.Proofs.HostRule
import Detour.Proofs.Reading.Reach
import Detour.Proofs.RootDomain
import Detour.Proofs.Target
/-!
# Lines for what is no domain

The index of a list is meant for domains, and what has a path is meant for the order. Most lines are kept
so, but what stands behind two bars is taken for a domain whatever it is, and so is what stands behind
a point if it has no slash. Main statement: these lines are the only ones whose rules are kept under
what is no domain, and no query ever reaches these rules.
-/

namespace Detour.Reading

/-- Whether a text may be a domain: it has no slash, and no bar in front. -/
def isDomain (text : List Char) : Bool := '/' ∉ text && text.head? ≠ some '|'

/-- Whether a line is meant for what is no domain. -/
def isStray (line : List Char) : Bool := (key? line).any (!isDomain ·)

/-- A line is meant for what is no domain if this stands behind two bars, or behind a point and without a
slash. -/
theorem key_eq_iff_of_not_isDomain {line key : List Char} (other : isDomain key = false) :
    key? line = some key ↔
      body line = '|' :: '|' :: key ∨ body line = '.' :: key ∧ '/' ∉ key := by
  rw [← place_readText_eq_indexed_iff]
  have form := Rule.form_readText (body line)
  generalize body line = s at form ⊢
  generalize Rule.readText s = read at form ⊢
  obtain ⟨kind, place⟩ := read
  cases form with
  | domain own => simp [eq_comm]
  | start text bar =>
    constructor
    · exact nofun
    · rintro (bars | ⟨point, -⟩)
      · cases bars
        exact absurd rfl bar
      · cases point
  | expression => simp
  | part _ bar slash =>
    constructor
    · exact nofun
    · rintro (rfl | ⟨rfl, free⟩)
      · exact absurd rfl bar
      · exact absurd (List.mem_cons.1 slash) (by simpa using free)
  | host _ bar slash =>
    constructor
    · intro kept
      cases kept
      rcases Rule.eq_or_eq_of_keyOf s with whole | point
      -- Without a point in front the text is its own domain, and it is one.
      · rw [← whole] at other
        simp [isDomain, slash, bar] at other
      · refine .inr ⟨point, fun inside => slash ?_⟩
        rw [point]
        exact List.mem_cons_of_mem '.' inside
    · rintro (rfl | ⟨rfl, -⟩)
      · exact absurd rfl bar
      · rfl

/-- What a host holds is found in no text that is not a domain. -/
theorem isDomain_of_belongsTo {t : Target} {key : List Char} (normal : t.url.IsNormal)
    (h : BelongsTo t.host key) : isDomain key = true := by
  have inside : ∀ c ∈ key, c ∈ t.host := by
    rcases h with same | below
    · exact fun c found => same ▸ found
    · exact fun c found => below.subset (List.mem_cons_of_mem '.' found)
  have char {c : Char} (found : c ∈ key) : Url.isHostChar c = true ∨ c ∈ "[:]".toList :=
    Url.isHostChar_of_mem_text normal.host (inside c found)
  have slash : '/' ∉ key := fun found => absurd (char found) (by decide)
  have bar : key.head? ≠ some '|' := fun found =>
    absurd (char (List.mem_of_mem_head? found)) (by decide)
  simp [isDomain, slash, bar]

/-- The last line for a domain is found among the lines that are meant for domains. -/
theorem lastFor_filter {key : List Char} (own : isDomain key = true) (lines : List (List Char)) :
    lastFor key (lines.filter (!isStray ·)) = lastFor key lines := by
  have same (line : List Char) :
      (decide (key? line = some key) && !isStray line) = decide (key? line = some key) := by
    by_cases meant : key? line = some key
    · simp [isStray, meant, own]
    · simp [meant]
  rw [lastFor, lastFor, List.filter_filter]
  simp only [same]

/-- Lines whose place matters are not meant for what is no domain. -/
theorem filter_isOrdered_filter (lines : List (List Char)) :
    (lines.filter (!isStray ·)).filter isOrdered = lines.filter isOrdered := by
  have same (line : List Char) : (isOrdered line && !isStray line) = isOrdered line := by
    cases meant : key? line with
    | some key => rw [isOrdered_of_key meant, Bool.false_and]
    | none => rw [isStray, meant, Option.any_none, Bool.not_false, Bool.and_true]
  rw [List.filter_filter]
  simp only [same]

/-- Lines that are meant for what is no domain decide nothing. -/
theorem decides_filter {t : Target} (normal : t.url.IsNormal) (lines : List (List Char)) :
    decides (lines.filter (!isStray ·)) t = decides lines t := by
  have host : hostLine (lines.filter (!isStray ·)) t.host = hostLine lines t.host := by
    rw [hostLine, hostLine, lastFor_filter (isDomain_of_belongsTo normal (.refl t.host)),
      lastFor_filter (isDomain_of_belongsTo normal (belongsTo_rootDomain t.host))]
  rw [decides, decides, host, filter_isOrdered_filter]

/-- A list keeps a rule under what lines are meant for. -/
theorem isSome_lookup_ofText_iff (list key : List Char) :
    ((RuleSet.ofText list).lookup key).isSome ↔ ∃ line ∈ ruleLines list, key? line = some key := by
  rw [lookup_ofText_eq, Option.isSome_map, lastFor, List.getLast?_isSome, ← List.length_pos_iff,
    List.length_filter_pos_iff]
  simp only [decide_eq_true_eq]

/-- A text with a slash that stands neither behind a bar nor between slashes is looked for in URLs. -/
theorem ruleOf_of_slash {line : List Char} (slash : '/' ∈ body line)
    (bar : (body line).head? ≠ some '|') (loose : isBetweenSlashes (body line) = false) :
    ruleOf line = ⟨.urlPart (body line), exempts line⟩ := by
  have open_ : Rule.betweenSlashes (body line) = none := by
    rw [isBetweenSlashes_eq, Option.isSome_eq_false_iff, Option.isNone_iff_eq_none] at loose
    exact loose
  rw [ruleOf, readTrimmed_eq, Rule.readText_of_form (.part _ bar slash open_)]

/-- A list keeps a rule under what is no domain exactly if this stands behind two bars in a line, or behind
a point and without a slash. Such lines decide nothing, so that the list answers as if it did not have
them. All other lines with a slash are kept in order; without a bar or slashes around them they are
looked for in URLs. -/
theorem keeps_domains_but_strays (list : List Char) :
    (∀ key, ('/' ∈ key ∨ key.head? = some '|') →
      (((RuleSet.ofText list).lookup key).isSome ↔ ∃ line ∈ ruleLines list,
        body line = '|' :: '|' :: key ∨ body line = '.' :: key ∧ '/' ∉ key)) ∧
      (∀ query t, Target.parse query = some t →
        (RuleSet.ofText list).blocks t = decides ((ruleLines list).filter (!isStray ·)) t) ∧
      ∀ line ∈ ruleLines list, '/' ∈ body line → ¬['|', '|'] <+: body line →
        ruleOf line ∈ (RuleSet.ofText list).ordered ∧
          ((body line).head? ≠ some '|' → isBetweenSlashes (body line) = false →
            ruleOf line = ⟨.urlPart (body line), exempts line⟩) := by
  refine ⟨fun key other => ?_, fun query t asked => ?_, fun line found slash bars => ?_⟩
  · have stray : isDomain key = false := by
      rcases other with slash | bar
      · simp [isDomain, slash]
      · simp [isDomain, bar]
    simp only [isSome_lookup_ofText_iff, key_eq_iff_of_not_isDomain stray]
  · rw [blocks_ofText_eq, decides_filter (Target.isNormal_of_parse asked)]
  · have other : ['|', '|'].isPrefixOf (body line) = false := by
      rw [Bool.eq_false_iff, Ne, List.isPrefixOf_iff_prefix]
      exact bars
    have ordered : isOrdered line = true := by simp [isOrdered, slash, other]
    refine ⟨?_, ruleOf_of_slash slash⟩
    rw [ordered_ofText_eq]
    exact List.mem_map_of_mem (List.mem_filter.2 ⟨found, ordered⟩)

/-- A domain with a path behind two bars is kept as if it were a domain, and so is a domain with a bar in
front. The path is not kept in order, and a URL with it goes straight. -/
theorem keeps_path_behind_bars :
    (RuleSet.ofText "||example.com/ads".toList).lookup "example.com/ads".toList =
        some ⟨.hostPart "example.com/ads".toList, false⟩ ∧
      (RuleSet.ofText "||example.com/ads".toList).ordered = [] ∧
      (RuleSet.ofText "||example.com/ads".toList).isBlocked "http://example.com/ads/1".toList = false ∧
      (RuleSet.ofText "|||example.com".toList).lookup "|example.com".toList =
        some ⟨.hostPart "|example.com".toList, false⟩ := by
  decide

end Detour.Reading
