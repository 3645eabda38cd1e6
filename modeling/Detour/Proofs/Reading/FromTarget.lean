import Detour.Proofs.Reading.Appended
import Detour.Proofs.Reading.Reach
/-!
# Lines written from a target

The text of a target, as a query is shown in its normal form, can be put into a list as it stands, and so
can its host with the port. Main statements: a line with the text, in front of all others, decides about
the target unless a rule for its host does, and a line with the host and the port blocks the target
exactly if there is no port. With one the line is kept under what no host is, and no query reaches it.
-/

namespace Detour.Reading

open Rule (readLine lastUnder inOrder)

variable {t : Target}

/-! ### The text of a target -/

/-- The lines that compare whole URLs with the text of a target, and how they do. -/
inductive OwnLine (t : Target) : List Char → Rule.Kind → Prop where
  /-- Behind a bar the text is looked for at the start of URLs. -/
  | start : OwnLine t ('|' :: t.text) (.urlStart t.text)
  /-- As it stands the text is looked for in URLs. -/
  | part : OwnLine t t.text (.urlPart t.text)

/-- The text of a target starts with a letter. -/
theorem exists_cons_text (normal : t.url.IsNormal) :
    ∃ c rest, t.text = c :: rest ∧ c.isAlpha = true := by
  have first := normal.scheme.first
  rw [Target.text, Url.text]
  cases scheme : t.url.scheme with
  | nil =>
    rw [scheme] at first
    cases first
  | cons c rest =>
    rw [scheme] at first
    exact ⟨c, _, rfl, first⟩

/-- The text of a target does not start with a sign that has a meaning at the start of lines. -/
theorem head?_text_ne (normal : t.url.IsNormal) {c : Char} (sign : c.isAlpha = false) :
    t.text.head? ≠ some c := by
  obtain ⟨d, rest, whole, letter⟩ := exists_cons_text normal
  rw [whole]
  rintro ⟨⟩
  rw [letter] at sign
  cases sign

/-- No other form of lines takes the text of a target for itself. -/
theorem OwnLine.isWritable {line : List Char} {kind : Rule.Kind} (normal : t.url.IsNormal)
    (own : OwnLine t line kind) (isException : Bool) : Rule.IsWritable ⟨kind, isException⟩ := by
  have bar : t.text.head? ≠ some '|' := head?_text_ne normal (by decide)
  cases own with
  | start => exact bar
  | part =>
    have slash : '/' ∈ t.text := by simp [Target.text, Url.text]
    have first : t.text.head? ≠ some '/' := head?_text_ne normal (by decide)
    have unmarked : exempts t.text = false := by
      obtain ⟨c, rest, whole, letter⟩ := exists_cons_text normal
      rw [whole]
      refine Rule.not_exempts_cons ?_ rest
      rintro rfl
      cases letter
    refine ⟨slash, bar, ?_, fun _ => ⟨head?_text_ne normal (by decide),
      head?_text_ne normal (by decide), unmarked⟩⟩
    rw [isBetweenSlashes, decide_eq_false first, Bool.and_false, Bool.false_and]

/-- There are no blanks in a line with the text of a target, nor in the mark of an exception. -/
theorem OwnLine.isVisible_of_mem {line : List Char} {kind : Rule.Kind} (normal : t.url.IsNormal)
    (own : OwnLine t line kind) (isException : Bool) :
    ∀ c ∈ Rule.mark isException ++ line, Text.isVisible c = true := by
  have marks : ∀ c ∈ "@|".toList, Text.isVisible c = true := Text.forall_mem_of_all (by decide)
  have chars : ∀ c ∈ Rule.mark isException ++ line, c ∈ "@|".toList ∨ c ∈ t.text := by
    cases own <;> cases isException <;>
      simp +contextual [Rule.mark, Rule.exceptionMark]
  exact fun c found => (chars c found).elim (marks c) fun inside => normal.isVisible_of_mem inside

/-- A line with the text of a target can be put in front of every list. -/
theorem OwnLine.insertsLine {line : List Char} {kind : Rule.Kind} (normal : t.url.IsNormal)
    (own : OwnLine t line kind) (isException : Bool) (list : List Char) :
    InsertsLine (Rule.mark isException ++ line) 0 list
      (Rule.mark isException ++ line ++ '\n' :: list) := by
  have visible := own.isVisible_of_mem normal isException
  exact insertsLine_front (fun found => absurd (visible '\n' found) (by decide))
    (fun last => absurd (visible '\r' (List.mem_of_getLast? last)) (by decide)) list

/-- A line with the text of a target is read as such, as a plain one and as an exception. -/
theorem OwnLine.readLine_mark {line : List Char} {kind : Rule.Kind} (normal : t.url.IsNormal)
    (own : OwnLine t line kind) (isException : Bool) :
    readLine (Rule.mark isException ++ line) = some ⟨⟨kind, isException⟩, .ordered⟩ := by
  have written : Rule.mark isException ++ line = Rule.line ⟨kind, isException⟩ := by
    cases own <;> rfl
  have place : kind.place = .ordered := by
    cases own <;> rfl
  have trimmed : Text.trim (Rule.line ⟨kind, isException⟩) = Rule.line ⟨kind, isException⟩ :=
    written ▸ Text.trim_of_isVisible (own.isVisible_of_mem normal isException)
  rw [written, ← place]
  exact (Rule.readLine_line_iff trimmed).2 (own.isWritable normal isException)

/-- The text of a target is found in itself, and at its start. -/
theorem OwnLine.fits {line : List Char} {kind : Rule.Kind} (own : OwnLine t line kind)
    (isException : Bool) : Rule.fits ⟨kind, isException⟩ t = true := by
  cases own with
  | start => exact List.isPrefixOf_iff_prefix.2 List.prefix_rfl
  | part => exact Text.isIn_iff.2 List.infix_rfl

/-- A rule in order that matches a target decides about it in front of all lines, unless a rule for its host
does. -/
theorem blocks_of_insertsLine {line list longer : List Char} {r : Rule}
    (read : readLine line = some ⟨r, .ordered⟩) (inserted : InsertsLine line 0 list longer)
    (host : (RuleSet.ofText list).lookup t.host = none)
    (root : (RuleSet.ofText list).lookup (rootDomain t.host) = none) (hits : r.fits t = true) :
    (RuleSet.ofText longer).blocks t = !r.isException := by
  have entries : Rule.entries (Text.lines longer) =
      [⟨r, .ordered⟩] ++ Rule.entries (Text.lines list) := by
    rw [inserted, List.take_zero, List.drop_zero, Rule.entries_middle read]
    rfl
  have same (key : List Char) :
      (RuleSet.ofText longer).lookup key = (RuleSet.ofText list).lookup key := by
    rw [RuleSet.lookup_ofText, RuleSet.lookup_ofText, entries, Rule.lastUnder_append]
    exact Option.or_none
  have none : (RuleSet.ofText longer).hostRule t.host = none := by
    rw [RuleSet.hostRule, same, same, host, root]
    rfl
  have order : (RuleSet.ofText longer).ordered = r :: (RuleSet.ofText list).ordered := by
    rw [RuleSet.ordered_ofText, entries, Rule.inOrder_append, RuleSet.ordered_ofText]
    rfl
  rw [RuleSet.blocks, none, order]
  exact (RuleSet.orderedVerdict_cons r _ t).trans (if_pos hits)

/-- A line with the text of a target is kept as it stands: behind a bar for the start of URLs, and without one for
what occurs in URLs. With a line feed behind it, it can be put in front of every list. In front of a list that
keeps no rule under the host of the target or under its root domain, it has the target blocked, and
behind the mark of an exception it has it go straight. -/
theorem isBlocked_of_ownLine {line list query : List Char} {kind : Rule.Kind}
    (asked : Target.parse query = some t) (own : OwnLine t line kind)
    (host : (RuleSet.ofText list).lookup t.host = none)
    (root : (RuleSet.ofText list).lookup (rootDomain t.host) = none) :
    readLine line = some ⟨⟨kind, false⟩, .ordered⟩ ∧
      readLine ('@' :: '@' :: line) = some ⟨⟨kind, true⟩, .ordered⟩ ∧
      InsertsLine line 0 list (line ++ '\n' :: list) ∧
      InsertsLine ('@' :: '@' :: line) 0 list ('@' :: '@' :: line ++ '\n' :: list) ∧
      (∀ longer, InsertsLine line 0 list longer → (RuleSet.ofText longer).isBlocked query = true) ∧
      ∀ longer, InsertsLine ('@' :: '@' :: line) 0 list longer →
        (RuleSet.ofText longer).isBlocked query = false := by
  have normal := Target.isNormal_of_parse asked
  have plain : readLine line = some ⟨⟨kind, false⟩, .ordered⟩ := own.readLine_mark normal false
  have exempt : readLine ('@' :: '@' :: line) = some ⟨⟨kind, true⟩, .ordered⟩ :=
    own.readLine_mark normal true
  refine ⟨plain, exempt, own.insertsLine normal false list, own.insertsLine normal true list,
    fun longer inserted => ?_, fun longer inserted => ?_⟩
  · rw [RuleSet.isBlocked, asked]
    exact blocks_of_insertsLine plain inserted host root (own.fits false)
  · rw [RuleSet.isBlocked, asked]
    exact blocks_of_insertsLine exempt inserted host root (own.fits true)

/-- The text of a target decides in front of an exception that matches the target, too, whatever the query looks
like. -/
theorem isBlocked_of_ownLine_before_exception :
    (RuleSet.ofText "@@/b\n||b".toList).isBlocked "Example.COM/a/../b".toList = false ∧
      (RuleSet.ofText "|https://example.com/b\n@@/b\n||b".toList).isBlocked
        "Example.COM/a/../b".toList = true := by
  have asked : Target.parse "Example.COM/a/../b".toList =
      some ⟨⟨"https".toList, [], .name "example.com".toList, none, "/b".toList, none, none⟩⟩ := by
    decide
  have host : (RuleSet.ofText "@@/b\n||b".toList).lookup "example.com".toList = none := by decide
  have root : (RuleSet.ofText "@@/b\n||b".toList).lookup (rootDomain "example.com".toList) = none := by
    decide
  obtain ⟨-, -, inserted, -, blocked, -⟩ := isBlocked_of_ownLine asked .start host root
  exact ⟨by decide, blocked _ inserted⟩

/-! ### The host of a target with the port -/

/-- The host of a URL holds no colon, or ends with a bracket. -/
theorem getLast?_of_colon {special : Bool} {host : Url.Host} (normal : host.IsNormal special)
    (colon : ':' ∈ host.text) : host.text.getLast? = some ']' := by
  cases host with
  | name text => exact absurd (normal.2.1 ':' colon) (by decide)
  | ipv4 n => exact absurd (Url.isPlain_of_mem_ipv4 colon) (by decide)
  | ipv6 groups => exact List.getLast?_concat

/-- A host with a port is no host, nor is it the root domain of one. -/
theorem not_belongsTo_of_port {u : Target} {port : Nat} (normal : u.url.IsNormal)
    (shown : t.url.port = some port) : ¬BelongsTo u.host t.authority := by
  have whole : t.authority = t.host ++ ':' :: Text.decimal port := by
    rw [Target.authority, Url.authority, shown]
    rfl
  intro below
  have suffix' : t.authority <:+ u.host := by
    rcases below with same | inside
    · exact same ▸ List.suffix_rfl
    · exact (List.suffix_cons '.' _).trans inside
  have colon : ':' ∈ u.host := suffix'.subset (by simp [whole])
  -- A host with a colon ends with a bracket, and a port with a digit.
  obtain ⟨front, digit, digits⟩ : ∃ front digit, Text.decimal port = front ++ [digit] :=
    ⟨_, _, (List.dropLast_append_getLast Nat.toDigits_ne_nil).symm⟩
  have last : u.host.getLast? = some digit := by
    obtain ⟨before, e⟩ := suffix'
    have parts : u.host = before ++ t.host ++ ':' :: front ++ [digit] := by
      rw [← e, whole, digits]
      simp
    rw [parts, List.getLast?_concat]
  have bracket := getLast?_of_colon normal.host colon
  have number : digit.isDigit = true := Text.isDigit_of_mem_decimal (n := port) (by simp [digits])
  have same : digit = ']' := Option.some.inj (last.symm.trans bracket)
  rw [same] at number
  cases number

/-- A list with the host of a target and the port in its only line keeps one rule, under both together. -/
theorem ofText_authority (normal : t.url.IsNormal) :
    (∀ key, (RuleSet.ofText ('|' :: '|' :: t.authority)).lookup key =
        if t.authority = key then some ⟨.hostPart t.authority, false⟩ else none) ∧
      (RuleSet.ofText ('|' :: '|' :: t.authority)).ordered = [] := by
  have visible : ∀ c ∈ t.authority, Text.isVisible c = true := fun c found =>
    (normal.of_mem_authority found).1
  have read := readLine_of_host visible false
  have single : '\n' ∉ '|' :: '|' :: t.authority := by
    have feed : '\n' ∉ t.authority := fun found => absurd (visible '\n' found) (by decide)
    simp [feed]
  have entries : Rule.entries (Text.lines ('|' :: '|' :: t.authority)) =
      [⟨⟨.hostPart t.authority, false⟩, .indexed t.authority⟩] := by
    rw [Rule.entries_lines_of_not_mem single]
    exact congrArg Option.toList read
  constructor
  · intro key
    rw [RuleSet.lookup_ofText, entries]
    by_cases same : t.authority = key <;> simp [lastUnder, same]
  · rw [RuleSet.ordered_ofText, entries]
    rfl

/-- A list with the host of a target and a port in its only line blocks nothing. -/
theorem isBlocked_of_port {port : Nat} (normal : t.url.IsNormal) (shown : t.url.port = some port)
    (query : List Char) : (RuleSet.ofText ('|' :: '|' :: t.authority)).isBlocked query = false := by
  obtain ⟨kept, ordered⟩ := ofText_authority normal
  cases asked : Target.parse query with
  | none => rw [RuleSet.isBlocked, asked, Option.any_none]
  | some u =>
    have missing {key : List Char} (below : BelongsTo u.host key) :
        (RuleSet.ofText ('|' :: '|' :: t.authority)).lookup key = none := by
      rw [kept, if_neg]
      rintro rfl
      exact not_belongsTo_of_port (Target.isNormal_of_parse asked) shown below
    have none : (RuleSet.ofText ('|' :: '|' :: t.authority)).hostRule u.host = none := by
      rw [RuleSet.hostRule, missing (.refl u.host), missing (belongsTo_rootDomain u.host)]
      rfl
    rw [RuleSet.isBlocked, asked, Option.any_some, RuleSet.blocks, none, ordered]
    rfl

/-- The list whose only line has the host of a target behind two bars, together with the port if there is one,
has a rule that matches the target. It blocks the target if there is no port, and with a port it
blocks nothing at all. -/
theorem isBlocked_of_authority {query : List Char} (asked : Target.parse query = some t) :
    (∃ r, (RuleSet.ofText ('|' :: '|' :: t.authority)).lookup t.authority = some r ∧
        r.isException = false ∧ r.fits t = true) ∧
      (t.url.port = none → (RuleSet.ofText ('|' :: '|' :: t.authority)).isBlocked query = true) ∧
      (t.url.port ≠ none → ∀ other,
        (RuleSet.ofText ('|' :: '|' :: t.authority)).isBlocked other = false) := by
  have normal := Target.isNormal_of_parse asked
  obtain ⟨kept, -⟩ := ofText_authority normal
  have own := (kept t.authority).trans (if_pos rfl)
  refine ⟨⟨_, own, rfl, Text.isIn_iff.2 List.infix_rfl⟩, fun hidden => ?_, fun shown other => ?_⟩
  · have host : t.authority = t.host := by
      rw [Target.authority, Url.authority, hidden]
      exact List.append_nil _
    rw [host] at own ⊢
    rw [RuleSet.isBlocked, asked]
    exact RuleSet.blocks_of_lookup_host own
  · obtain ⟨port, some⟩ := Option.ne_none_iff_exists'.1 shown
    exact isBlocked_of_port normal some other

/-- A host with the usual port of its scheme is blocked, and one with another port is not. -/
theorem isBlocked_of_authority_with_port :
    (RuleSet.ofText "||example.com".toList).isBlocked "http://example.com:80/".toList = true ∧
      (RuleSet.ofText "||example.com:8080".toList).isBlocked "http://example.com:8080/".toList = false := by
  have usual : Target.parse "http://example.com:80/".toList =
      some ⟨⟨"http".toList, [], .name "example.com".toList, none, "/".toList, none, none⟩⟩ := by
    decide
  have other : Target.parse "http://example.com:8080/".toList =
      some ⟨⟨"http".toList, [], .name "example.com".toList, some 8080, "/".toList, none, none⟩⟩ := by
    decide
  obtain ⟨-, blocked, -⟩ := isBlocked_of_authority usual
  obtain ⟨-, -, straight⟩ := isBlocked_of_authority other
  exact ⟨blocked rfl, straight nofun _⟩

/-- A list that blocks a host with a port in its text does not block this host with this port: its rule matches, but
is kept under the host and the port together. -/
theorem keeps_port_behind_bars :
    (RuleSet.ofText "||example.com:8080".toList).lookup "example.com:8080".toList =
        some ⟨.hostPart "example.com:8080".toList, false⟩ ∧
      (Target.parse "http://example.com:8080/".toList).map Target.authority =
        some "example.com:8080".toList ∧
      (Target.parse "http://example.com:8080/".toList).any
        (Rule.Kind.hostPart "example.com:8080".toList).fits = true ∧
      (RuleSet.ofText "||example.com:8080".toList).isBlocked "http://example.com:8080/".toList =
        false := by
  decide

end Detour.Reading
