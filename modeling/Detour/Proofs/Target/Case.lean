import Detour.Proofs.Target.Scheme
import Detour.Proofs.Url.Case
import Detour.Store
/-!
# Letter case in queries

A query may write the scheme, the host and the port in large or in small letters. A query without a scheme
is read up to three times, once to see whether it is a URL, once for a scheme and once behind the default
scheme, and each reading is the same in small letters. Main statement: queries that differ in this
letter case only have the same target, so that nobody answers them differently.
-/

namespace Detour.Target

open Text (lowered lowered_append lowered_lowered)

/-- What a query has for a host and a port: nothing in it ends this part or is left out. -/
structure IsServer (s : List Char) : Prop where
  /-- Nothing in it ends a user or a host. -/
  signs : ∀ c ∈ s, c ∉ "#/?@\\".toList
  /-- There are no blanks in it. -/
  blank : ∀ c ∈ s, Text.isBlank c = false
  /-- There are no controls of ASCII in it. -/
  control : ∀ c ∈ s, isControl c = false

/-- Whether a text is a host and a port is seen from its characters. -/
theorem isServer_iff_all {s : List Char} : IsServer s ↔ s.all (fun c =>
    decide (c ∉ "#/?@\\".toList ∧ Text.isBlank c = false ∧ isControl c = false)) = true := by
  simp only [List.all_eq_true, decide_eq_true_eq, forall_and]
  exact ⟨fun h => ⟨h.signs, h.blank, h.control⟩, fun h => ⟨h.1, h.2.1, h.2.2⟩⟩

instance : DecidablePred IsServer := fun _ => decidable_of_iff _ isServer_iff_all.symm

/-- The schemes with a usual port. -/
def withPort : List (List Char) :=
  ["http".toList, "https".toList, "ws".toList, "wss".toList, "ftp".toList]

/-- Queries that differ in the case of letters in the scheme, the host and the port only. -/
inductive Respelled : List Char → List Char → Prop where
  /-- There is no scheme. -/
  | bare {server other rest : List Char} (form : IsServer server)
    (same : lowered server = lowered other) (tail : Url.IsTail rest) :
    Respelled (server ++ rest) (other ++ rest)
  /-- There is a scheme with a usual port. -/
  | full {scheme name server other rest : List Char} (known : lowered scheme ∈ withPort)
    (named : lowered scheme = lowered name) (form : IsServer server)
    (same : lowered server = lowered other) (tail : Url.IsTail rest) :
    Respelled (scheme ++ "://".toList ++ server ++ rest) (name ++ "://".toList ++ other ++ rest)

/-- What is a host and a port in small letters is one in any letters. -/
theorem isServer_lowered_iff {s : List Char} : IsServer (lowered s) ↔ IsServer s := by
  have same (c : Char) := Text.apply_toLower (f := fun c => decide (c ∉ "#/?@\\".toList ∧
    Text.isBlank c = false ∧ isControl c = false)) (by decide) c
  rw [isServer_iff_all, isServer_iff_all, List.all_eq_true, List.all_eq_true]
  exact Text.forall_mem_lowered_iff fun c => by rw [same]

variable {server rest : List Char}

/-- The characters of a host and a port. -/
theorem IsServer.isServerChar (h : IsServer server) : ∀ c ∈ server, Url.isServerChar c = true := by
  intro c found
  rw [Url.isServerChar, isEdge_of_isBlank (h.control c found) (h.blank c found),
    decide_eq_false (h.signs c found)]
  rfl

/-- Large and small letters are the same in front of two slashes. -/
theorem schemeFrom_lowered (before s : List Char) :
    schemeFrom (lowered before) (lowered s) = (schemeFrom before s).map lowered := by
  fun_induction schemeFrom before s with
  | case1 => rfl
  | case2 before after => exact congrArg some (Text.reverse_lowered before)
  | case3 before c rest other ih =>
    have kept (after : List Char) (colon : c.toLower = ':') (slashes : lowered rest = '/' :: '/' :: after) :
        False := by
      obtain ⟨d, others, rfl, first, later⟩ := List.map_eq_cons_iff.1 slashes
      obtain ⟨e, behind, rfl, second, -⟩ := List.map_eq_cons_iff.1 later
      have slash {c : Char} : c.toLower = '/' ↔ c = '/' := Text.toLower_eq_iff (by decide)
      rw [slash] at first second
      rw [first, second] at other
      exact other behind ((Text.toLower_eq_iff (by decide)).1 colon) rfl
    rw [Text.lowered_cons, schemeFrom]
    · exact ih
    · exact kept

/-- Whether a text starts with a scheme does not depend on letter case. -/
theorem hasScheme_lowered (s : List Char) : hasScheme (lowered s) = hasScheme s := by
  have found : schemeFrom [] (lowered s) = (schemeFrom [] s).map lowered := schemeFrom_lowered [] s
  rw [hasScheme, hasScheme, found]
  cases schemeFrom [] s with
  | none => rfl
  | some scheme =>
    cases scheme with
    | nil => rfl
    | cons c others =>
      have chars : (lowered others).all Url.isSchemeChar = others.all Url.isSchemeChar := by
        rw [lowered, List.all_map, show Url.isSchemeChar ∘ Char.toLower = Url.isSchemeChar from
          funext Url.isSchemeChar_toLower]
      dsimp only [Option.map_some, Text.lowered_cons]
      rw [chars, Text.isAlpha_toLower]

/-- The schemes with a usual port are schemes and have such a port. -/
theorem isScheme_of_mem_withPort {scheme : List Char} (h : scheme ∈ withPort) :
    Url.IsScheme scheme ∧ (Url.usualPort scheme).isSome = true := by
  have all : ∀ s ∈ withPort, s.head?.any Char.isAlpha = true ∧ s.all Url.isSchemeChar = true ∧
      s.all (fun c => decide (c.toLower = c)) = true ∧ (Url.usualPort s).isSome = true := by
    decide
  obtain ⟨first, chars, small, known⟩ := all scheme h
  exact ⟨⟨first, List.all_eq_true.1 chars,
    fun c found => of_decide_eq_true (List.all_eq_true.1 small c found)⟩, known⟩

/-- A trimmed query is read as the one in which the host and the port are in small letters. -/
theorem parseTrimmed_lowered (h : IsServer server) (tail : Url.IsTail rest) :
    parseTrimmed (lowered server ++ rest) = parseTrimmed (server ++ rest) := by
  have first := Url.read_lowered h.isServerChar tail
  obtain ⟨form, known⟩ := isScheme_of_mem_withPort (show "https".toList ∈ withPort by decide)
  have second : Url.read (defaultStart ++ (lowered server ++ rest)) =
      Url.read (defaultStart ++ (server ++ rest)) := by
    have read := Url.read_scheme_lowered form known h.isServerChar tail
    rwa [List.append_assoc, List.append_assoc] at read
  have scheme : hasScheme (lowered server ++ rest) = hasScheme (server ++ rest) := by
    rw [← hasScheme_lowered, ← hasScheme_lowered (server ++ rest), lowered_append, lowered_append,
      lowered_lowered]
  rw [parseTrimmed, parseTrimmed, first, scheme, second]

/-- What holds no blanks is kept in front of what ends a host. -/
theorem trim_append {front : List Char} (kept : ∀ c ∈ front, Text.isBlank c = false)
    (tail : Url.IsTail rest) : Text.trim (front ++ rest) = front ++ Text.trim rest :=
  Text.strip_append kept (tail.of_all (by decide))

/-- What is left of a text starts as the text does. -/
theorem isTail_trim (tail : Url.IsTail rest) : Url.IsTail (Text.trim rest) := by
  have same : (Text.trim rest).head? = rest.head? := Text.head?_strip (tail.of_all (by decide))
  rw [Url.IsTail, same]
  exact tail

/-- A query is read as the one in which the host and the port are in small letters. -/
theorem parse_lowered (h : IsServer server) (tail : Url.IsTail rest) :
    parse (lowered server ++ rest) = parse (server ++ rest) := by
  have small := isServer_lowered_iff.2 h
  have empty : (lowered server ++ Text.trim rest).isEmpty = (server ++ Text.trim rest).isEmpty := by
    cases server <;> rfl
  rw [parse, parse, trim_append small.blank tail, trim_append h.blank tail, empty,
    parseTrimmed_lowered h (isTail_trim tail)]

/-- A scheme with a usual port and a colon may be taken for a host with a port. -/
theorem isServer_of_mem_withPort : ∀ scheme ∈ withPort, IsServer (scheme ++ [':']) := by decide

/-- A query is read as the one in which the scheme is in small letters. -/
theorem parse_lowered_scheme {scheme : List Char} (known : lowered scheme ∈ withPort)
    (s : List Char) :
    parse (lowered scheme ++ "://".toList ++ s) = parse (scheme ++ "://".toList ++ s) := by
  -- The scheme and its colon are a host in a query without a scheme, and the slashes follow it.
  have small : IsServer (lowered (scheme ++ [':'])) := by
    rw [lowered_append]
    exact isServer_of_mem_withPort _ known
  have tail : Url.IsTail ('/' :: '/' :: s) := by
    rintro c ⟨⟩
    decide
  have read := parse_lowered (isServer_lowered_iff.1 small) tail
  have sign : lowered [':'] = [':'] := rfl
  simpa [sign] using read

/-- Behind a scheme with a usual port, a query is read as the one in which the host and the port are in
small letters. -/
theorem parse_scheme_lowered {scheme : List Char} (known : scheme ∈ withPort) (h : IsServer server)
    (tail : Url.IsTail rest) :
    parse (scheme ++ "://".toList ++ lowered server ++ rest) =
      parse (scheme ++ "://".toList ++ server ++ rest) := by
  obtain ⟨form, port⟩ := isScheme_of_mem_withPort known
  have marks : ∀ c ∈ "://".toList, Text.isBlank c = false := Text.forall_mem_of_all (by decide)
  have starts (s : List Char) : hasScheme (scheme ++ "://".toList ++ s ++ Text.trim rest) = true := by
    rw [List.append_assoc _ s]
    exact hasScheme_append form _
  have cut {s : List Char} (h : IsServer s) : parse (scheme ++ "://".toList ++ s ++ rest) =
      parseTrimmed (scheme ++ "://".toList ++ s ++ Text.trim rest) := by
    have kept : ∀ c ∈ scheme ++ "://".toList ++ s, Text.isBlank c = false := by
      intro c found
      rw [List.mem_append, List.mem_append] at found
      rcases found with (inside | mark) | inside
      · exact Text.isBlank_of_isVisible (Url.isVisible_of_isSchemeChar (form.chars c inside))
      · exact marks c mark
      · exact h.blank c inside
    have full : (scheme ++ "://".toList ++ s ++ Text.trim rest).isEmpty = false := by simp
    rw [parse, trim_append kept tail, full, if_neg Bool.false_ne_true]
  rw [cut (isServer_lowered_iff.2 h), cut h, parseTrimmed_of_hasScheme (starts _),
    parseTrimmed_of_hasScheme (starts _),
    Url.read_scheme_lowered form port h.isServerChar (isTail_trim tail)]

/-- Queries that differ in the case of letters in the scheme, the host and the port only have the same
target or have both none, so that every rule set and every store answers both alike. -/
theorem parse_eq_of_respelled {s t : List Char} (h : Respelled s t) :
    parse s = parse t ∧ (∀ rules : RuleSet, rules.isBlocked s = rules.isBlocked t) ∧
      ∀ store : Store, (store.query s).1 = (store.query t).1 := by
  have other {server other : List Char} (form : IsServer server)
      (same : lowered server = lowered other) : IsServer other :=
    isServer_lowered_iff.1 (same ▸ isServer_lowered_iff.2 form)
  -- Either query is read as the one in small letters, which they share.
  have same : parse s = parse t := by
    cases h with
    | bare form same tail =>
      rw [← parse_lowered form tail, same, parse_lowered (other form same) tail]
    | @full scheme name server server' rest known named form same tail =>
      have small {scheme server : List Char} (known : lowered scheme ∈ withPort)
          (form : IsServer server) : parse (scheme ++ "://".toList ++ server ++ rest) =
            parse (lowered scheme ++ "://".toList ++ lowered server ++ rest) := by
        rw [parse_scheme_lowered known form tail, List.append_assoc _ server,
          List.append_assoc _ server, parse_lowered_scheme known]
      rw [small known form, named, same, ← small (named ▸ known) (other form same)]
  have blocked (rules : RuleSet) : rules.isBlocked s = rules.isBlocked t := by
    rw [RuleSet.isBlocked, RuleSet.isBlocked, same]
  exact ⟨same, blocked, fun store => blocked store.active⟩

/-- A host is asked about in large letters as in small ones: a name with an escape behind a scheme, and an
address with a port without one. -/
theorem parse_in_large_letters :
    (parse "HTTP://Ads.%45XAMPLE.com/Ab".toList = parse "http://ads.%45xample.COM/Ab".toList ∧
        parse "http://ads.%45xample.COM/Ab".toList =
          some ⟨⟨"http".toList, [], .name "ads.example.com".toList, none, "/Ab".toList, none, none⟩⟩) ∧
      parse "[2001:DB8::A]:8443?Q".toList = parse "[2001:db8::a]:8443?Q".toList ∧
      parse "[2001:db8::a]:8443?Q".toList =
        some ⟨⟨"https".toList, [], .ipv6 [0x2001, 0xdb8, 0, 0, 0, 0, 0, 10], some 8443, "/".toList,
          some "Q".toList, none⟩⟩ := by
  have full : Respelled "HTTP://Ads.%45XAMPLE.com/Ab".toList "http://ads.%45xample.COM/Ab".toList :=
    @Respelled.full "HTTP".toList "http".toList "Ads.%45XAMPLE.com".toList "ads.%45xample.COM".toList
      "/Ab".toList (by decide) (by decide) (by decide) (by decide) (by rintro c ⟨⟩; decide)
  have bare : Respelled "[2001:DB8::A]:8443?Q".toList "[2001:db8::a]:8443?Q".toList :=
    @Respelled.bare "[2001:DB8::A]:8443".toList "[2001:db8::a]:8443".toList "?Q".toList
      (by decide) (by decide) (by rintro c ⟨⟩; decide)
  exact ⟨⟨(parse_eq_of_respelled full).1, by decide⟩, (parse_eq_of_respelled bare).1, by decide⟩

end Detour.Target
