import Detour.Proofs.Reading
/-!
# Spellings of a rule

A line says which rule it carries and where the rule is kept. Main statement: two lines say the same only
if they are the same, up to two bars in front of a domain, and a rule is read back from the line that
is written for it exactly if none of the other forms takes the line for itself.
-/

namespace Detour.Rule

open Reading (body exempts isBetweenSlashes isSilent)

/-- What stands in front of the text of a rule. -/
def mark (isException : Bool) : List Char := if isException then exceptionMark else []

/-- A domain that is kept under itself, with two bars in front and without them. -/
structure IsBare (domain : List Char) : Prop where
  /-- It has no slash. -/
  slash : '/' ∉ domain
  /-- It has no point in front. -/
  point : domain.head? ≠ some '.'
  /-- It has no bar in front. -/
  bar : domain.head? ≠ some '|'

/-- A line with two bars in front of a domain, and the line without them. -/
inductive DropsBars : List Char → List Char → Prop where
  /-- Both lines make an exception or neither does. -/
  | domain (isException : Bool) (domain : List Char) (bare : IsBare domain)
    (plain : isException = false → exempts domain = false) :
    DropsBars (mark isException ++ '|' :: '|' :: domain) (mark isException ++ domain)

/-! ### The mark of an exception -/

/-- A line is its text behind its mark. -/
theorem mark_append_body (line : List Char) : mark (exempts line) ++ body line = line := by
  cases marked : exempts line with
  | true =>
    obtain ⟨text, whole⟩ := List.isPrefixOf_iff_prefix.1 marked
    rw [body, marked, ← whole]
    rfl
  | false =>
    rw [body, marked]
    rfl

/-- A mark is found in front of a text that does not look like one without it. -/
theorem exempts_mark_append {isException : Bool} {text : List Char}
    (plain : isException = false → exempts text = false) :
    exempts (mark isException ++ text) = isException := by
  cases isException with
  | true => rfl
  | false => exact plain rfl

/-- What stands behind a mark is the text. -/
theorem body_mark_append {isException : Bool} {text : List Char}
    (plain : isException = false → exempts text = false) :
    body (mark isException ++ text) = text := by
  cases isException with
  | true => rfl
  | false =>
    have unmarked := plain rfl
    rw [mark, body]
    simp [unmarked]

/-- A marked text is read as the text, and the mark says whether there is an exception. -/
theorem readTrimmed_mark_append {isException : Bool} {text : List Char}
    (plain : isException = false → exempts text = false) :
    readTrimmed (mark isException ++ text) =
      ⟨⟨(readText text).1, isException⟩, (readText text).2⟩ := by
  rw [Reading.readTrimmed_eq, exempts_mark_append plain, body_mark_append plain]

/-- A text that starts with another character than an at sign makes no exception. -/
theorem not_exempts_cons {c : Char} (other : c ≠ '@') (rest : List Char) :
    exempts (c :: rest) = false := by
  simp [exempts, List.isPrefixOf, other.symm]

/-! ### Texts that are read alike -/

/-- A domain is kept under itself if it has no point in front. -/
theorem keyOf_eq_self_iff (text : List Char) : keyOf text = text ↔ text.head? ≠ some '.' := by
  rw [Reading.keyOf_eq]
  split
  · rename_i point
    obtain ⟨rest, rfl⟩ := List.head?_eq_some_iff.1 point
    simp
  · rename_i point
    simp [point]

/-- Texts with the same kind and place differ at most by two bars in front of a domain. -/
theorem Form.eq_or_bars {s u : List Char} {kind other : Kind} {place elsewhere : Place}
    (first : Form s kind place) (second : Form u other elsewhere) (sameKind : kind = other)
    (samePlace : place = elsewhere) :
    s = u ∨ (s = '|' :: '|' :: u ∧ IsBare u) ∨ (u = '|' :: '|' :: s ∧ IsBare s) := by
  have bare {text : List Char} (slash : '/' ∉ text) (bar : text.head? ≠ some '|')
      (own : text = keyOf text) : IsBare text :=
    ⟨slash, (keyOf_eq_self_iff text).1 own.symm, bar⟩
  cases first with
  | domain key =>
    cases second with
    | domain own =>
      cases sameKind
      exact .inl rfl
    | host text bar slash =>
      cases sameKind
      have own := Place.indexed.inj samePlace
      exact .inr (.inl ⟨rfl, bare slash bar own⟩)
    | start | expression | part => cases sameKind
  | start text bar =>
    cases second with
    | start =>
      cases sameKind
      exact .inl rfl
    | domain | expression | part | host => cases sameKind
  | expression source =>
    cases second with
    | expression =>
      have sources := congrArg Expression.source (Kind.expression.inj sameKind)
      exact .inl (congrArg (fun source => '/' :: (source ++ ['/'])) sources)
    | domain | start | part | host => cases sameKind
  | part text bar slash loose =>
    cases second with
    | part =>
      cases sameKind
      exact .inl rfl
    | domain | start | expression | host => cases sameKind
  | host text bar slash =>
    cases second with
    | domain key =>
      cases sameKind
      have own := Place.indexed.inj samePlace
      exact .inr (.inr ⟨rfl, bare slash bar own.symm⟩)
    | host =>
      cases sameKind
      exact .inl rfl
    | start | expression | part => cases sameKind

/-- A bare domain is read as if it stood behind two bars. -/
theorem IsBare.readText_bars {domain : List Char} (bare : IsBare domain) :
    readText ('|' :: '|' :: domain) = readText domain := by
  have own := (keyOf_eq_self_iff domain).2 bare.point
  rw [readText_of_form (.domain domain), readText_of_form (.host domain bare.bar bare.slash), own]

/-- Lines that carry the same rule to the same place are the same, up to two bars in front of a domain. -/
theorem readTrimmed_eq_iff (a b : List Char) :
    readTrimmed a = readTrimmed b ↔ a = b ∨ DropsBars a b ∨ DropsBars b a := by
  have barred {line other : List Char} (same : exempts line = exempts other)
      (bars : body line = '|' :: '|' :: body other) (bare : IsBare (body other)) :
      DropsBars line other := by
    have plain : exempts other = false → exempts (body other) = false := by
      intro unmarked
      rw [body, unmarked]
      exact unmarked
    have drops := DropsBars.domain (exempts other) (body other) bare plain
    rwa [← bars, mark_append_body, ← same, mark_append_body] at drops
  have alike {line other : List Char} (drops : DropsBars line other) :
      readTrimmed line = readTrimmed other := by
    obtain ⟨isException, domain, bare, plain⟩ := drops
    have marked : isException = false → exempts ('|' :: '|' :: domain) = false := fun _ =>
      not_exempts_cons (by decide) _
    rw [readTrimmed_mark_append marked, readTrimmed_mark_append plain, bare.readText_bars]
  constructor
  · intro same
    rw [Reading.readTrimmed_eq, Reading.readTrimmed_eq] at same
    simp only [Entry.mk.injEq, Rule.mk.injEq] at same
    obtain ⟨⟨kind, marks⟩, place⟩ := same
    rcases (form_readText (body a)).eq_or_bars (form_readText (body b)) kind place with
      text | ⟨bars, bare⟩ | ⟨bars, bare⟩
    · refine .inl ?_
      rw [← mark_append_body a, marks, text, mark_append_body]
    · exact .inr (.inl (barred marks bars bare))
    · exact .inr (.inr (barred marks.symm bars bare))
  · rintro (rfl | drops | drops)
    · rfl
    · exact alike drops
    · exact (alike drops).symm

/-! ### Lines that are written for rules -/

/-- Where the line that is written for a rule has it kept. -/
def Kind.place : Kind → Place
  | .hostPart text => .indexed text
  | .urlStart _ | .urlPart _ | .expression _ => .ordered

/-- Whether no other form takes the line of a rule for itself. Only texts that are looked for at the start of
URLs or in URLs can be mistaken. -/
def IsWritable (r : Rule) : Prop :=
  match r.kind with
  | .hostPart _ | .expression _ => True
  | .urlStart text => text.head? ≠ some '|'
  | .urlPart text =>
    '/' ∈ text ∧ text.head? ≠ some '|' ∧ isBetweenSlashes text = false ∧
      (r.isException = false →
        text.head? ≠ some '!' ∧ text.head? ≠ some '[' ∧ exempts text = false)

/-- A text stands between slashes, or nothing is left without them. -/
theorem isBetweenSlashes_eq_false_iff (text : List Char) :
    isBetweenSlashes text = false ↔ betweenSlashes text = none := by
  rw [Reading.isBetweenSlashes_eq, Option.isSome_eq_false_iff, Option.isNone_iff_eq_none]

/-- The line of a writable rule has the form of the rule. -/
theorem IsWritable.form {r : Rule} (h : r.IsWritable) : Form r.kind.line r.kind r.kind.place := by
  obtain ⟨kind, isException⟩ := r
  cases kind with
  | hostPart text => exact .domain text
  | urlStart text => exact .start text h
  | urlPart text =>
    obtain ⟨slash, bar, loose, -⟩ := h
    exact .part text bar slash ((isBetweenSlashes_eq_false_iff text).1 loose)
  | expression e =>
    have form := Form.expression e.source
    rwa [Expression.ofSource_source] at form

/-- The line of a writable rule that is no exception does not look like that of one. -/
theorem IsWritable.plain {r : Rule} (h : r.IsWritable) :
    r.isException = false → exempts r.kind.line = false := by
  intro unmarked
  obtain ⟨kind, isException⟩ := r
  cases kind with
  | hostPart text => exact not_exempts_cons (by decide) _
  | urlStart text => exact not_exempts_cons (by decide) _
  | urlPart text =>
    obtain ⟨-, -, -, plain⟩ := h
    exact (plain unmarked).2.2
  | expression e => exact not_exempts_cons (by decide) _

/-- The line of a writable rule is no remark. -/
theorem IsWritable.not_isRemark {r : Rule} (h : r.IsWritable) : isRemark r.line = false := by
  obtain ⟨kind, isException⟩ := r
  cases isException with
  | true => rfl
  | false =>
    cases kind with
    | hostPart text => rfl
    | urlStart text => rfl
    | urlPart text =>
      obtain ⟨slash, -, -, plain⟩ := h
      obtain ⟨comment, header, -⟩ := plain rfl
      have full : text ≠ [] := List.ne_nil_of_mem slash
      have silent : isSilent text = false := by simp [isSilent, full, comment, header]
      rw [Reading.isSilent_eq] at silent
      exact silent
    | expression e => rfl

/-- A rule whose line has its form and, without a mark, looks like no remark and no exception is writable. -/
theorem IsWritable.of_form {r : Rule} (form : Form r.kind.line r.kind r.kind.place)
    (audible : r.isException = false → isSilent r.kind.line = false)
    (plain : r.isException = false → exempts r.kind.line = false) : r.IsWritable := by
  obtain ⟨kind, isException⟩ := r
  cases kind with
  | hostPart text => trivial
  | urlStart text =>
    cases form with
    | start _ bar => exact bar
  | urlPart text =>
    cases form with
    | part _ bar slash loose =>
      refine ⟨slash, bar, (isBetweenSlashes_eq_false_iff text).2 loose, fun unmarked => ?_⟩
      have ends : isSilent text = false := audible unmarked
      simp only [isSilent, Bool.or_eq_false_iff, decide_eq_false_iff_not] at ends
      exact ⟨ends.1.2, ends.2, plain unmarked⟩
  | expression e => trivial

/-- A rule is read back from the line that is written for it exactly if it is writable. -/
theorem readTrimmed_line_iff (r : Rule) :
    isRemark r.line = false ∧ readTrimmed r.line = ⟨r, r.kind.place⟩ ↔ r.IsWritable := by
  have whole : r.line = mark r.isException ++ r.kind.line := rfl
  constructor
  · rintro ⟨audible, read⟩
    have marks : exempts r.line = r.isException := by
      rw [Reading.readTrimmed_eq] at read
      exact congrArg (fun e => e.rule.isException) read
    -- Without a mark the line is nothing but the text.
    have own (unmarked : r.isException = false) : r.line = r.kind.line := by
      rw [whole, unmarked]
      rfl
    have plain (unmarked : r.isException = false) : exempts r.kind.line = false := by
      rw [← own unmarked, marks, unmarked]
    have form := form_readText r.kind.line
    rw [whole, readTrimmed_mark_append plain, Entry.mk.injEq] at read
    have kind : (readText r.kind.line).1 = r.kind := congrArg Rule.kind read.1
    rw [kind, read.2] at form
    refine .of_form form (fun unmarked => ?_) plain
    rw [← own unmarked, Reading.isSilent_eq, audible]
  · intro writable
    have read := readTrimmed_mark_append writable.plain
    rw [readText_of_form writable.form] at read
    exact ⟨writable.not_isRemark, read⟩

/-- A rule whose line has no blanks at its ends is read back from this line exactly if it is writable. -/
theorem readLine_line_iff {r : Rule} (trimmed : Text.trim r.line = r.line) :
    readLine r.line = some ⟨r, r.kind.place⟩ ↔ r.IsWritable := by
  rw [readLine_eq_some_iff, trimmed]
  exact readTrimmed_line_iff r

/-- Reading tells lines apart and gives back what is written. Two lines without blanks at their ends that
carry rules carry the same rule to the same place exactly if they are the same, or one is the other
without two bars in front of a domain that has no slash, and neither a point nor a bar in front. A rule
whose line has no blanks at its ends is read back from this line, and kept under its whole text if it
looks for this in hosts, exactly if no other form takes the line for itself. -/
theorem readLine_faithful :
    (∀ a b : List Char, Text.trim a = a → Text.trim b = b → (readLine a).isSome →
      (readLine b).isSome →
        (readLine a = readLine b ↔ a = b ∨ DropsBars a b ∨ DropsBars b a)) ∧
      ∀ r : Rule, Text.trim r.line = r.line →
        (readLine r.line = some ⟨r, r.kind.place⟩ ↔ r.IsWritable) := by
  constructor
  · intro a b trimmedA trimmedB carriesA carriesB
    obtain ⟨entry, readA⟩ := Option.isSome_iff_exists.1 carriesA
    obtain ⟨other, readB⟩ := Option.isSome_iff_exists.1 carriesB
    have lineA := (readLine_eq_some_iff.1 readA).2
    have lineB := (readLine_eq_some_iff.1 readB).2
    rw [trimmedA] at lineA
    rw [trimmedB] at lineB
    rw [readA, readB, Option.some.injEq, ← lineA, ← lineB]
    exact readTrimmed_eq_iff a b
  · intro r trimmed
    exact readLine_line_iff trimmed

example : readLine ['/'] = some ⟨⟨.urlPart ['/'], false⟩, .ordered⟩ := by decide

example : readLine ['/', '/'] = some ⟨⟨.expression (.ofSource []), false⟩, .ordered⟩ := by decide

/-- The mark of an exception with nothing behind it says the same as with two bars behind it. Behind a mark two
further at signs are text. -/
theorem readLine_of_marks :
    readLine ['@', '@', '|', '|'] = readLine ['@', '@'] ∧
      readLine ['@', '@', '@', '@', '/'] =
        some ⟨⟨.urlPart ['@', '@', '/'], true⟩, .ordered⟩ := by
  have drops : DropsBars ['@', '@', '|', '|'] ['@', '@'] :=
    .domain true [] ⟨List.not_mem_nil, nofun, nofun⟩ nofun
  have alike := readLine_faithful.1 ['@', '@', '|', '|'] ['@', '@'] (by decide) (by decide)
    (by decide) (by decide)
  have writable : Rule.IsWritable ⟨.urlPart ['@', '@', '/'], true⟩ :=
    ⟨by decide, by decide, by decide, nofun⟩
  have written := readLine_faithful.2 ⟨.urlPart ['@', '@', '/'], true⟩ (by decide)
  exact ⟨alike.2 (.inr (.inl drops)), written.2 writable⟩

end Detour.Rule
