import Detour.Rule.Line
/-!
# Forms of a rule

The text of a rule, without a mark for exceptions, has one of five forms, and the form says what the rule
compares and where it is kept. Main statement: reading a text is deciding which form it has, so that
whatever holds of a rule by its form holds of every rule that is read.
-/

namespace Detour.Rule

/-- The forms of the text of a rule, with what the rule compares and where it is kept. -/
inductive Form : List Char → Kind → Place → Prop where
  /-- A domain behind two bars. -/
  | domain (key : List Char) : Form ('|' :: '|' :: key) (.hostPart key) (.indexed key)
  /-- The start of a URL behind one bar. -/
  | start (text : List Char) (bar : text.head? ≠ some '|') :
    Form ('|' :: text) (.urlStart text) .ordered
  /-- An expression between two slashes. -/
  | expression (source : List Char) :
    Form ('/' :: (source ++ ['/'])) (.expression (.ofSource source)) .ordered
  /-- A text with a slash, but not between two of them. -/
  | part (text : List Char) (bar : text.head? ≠ some '|') (slash : '/' ∈ text)
    (loose : betweenSlashes text = none) : Form text (.urlPart text) .ordered
  /-- A text without a slash. -/
  | host (text : List Char) (bar : text.head? ≠ some '|') (slash : '/' ∉ text) :
    Form text (.hostPart text) (.indexed (keyOf text))

/-- What stands between two slashes is what remains without them. -/
theorem betweenSlashes_eq_some_iff {s source : List Char} :
    betweenSlashes s = some source ↔ s = '/' :: (source ++ ['/']) := by
  constructor
  · intro h
    unfold betweenSlashes at h
    split at h
    · rename_i rest
      split at h
      · rename_i last
        obtain ⟨front, rfl⟩ := List.getLast?_eq_some_iff.1 last
        cases h
        simp
      · cases h
    · cases h
  · rintro rfl
    simp [betweenSlashes]

/-- A text without a slash does not stand between slashes. -/
theorem betweenSlashes_of_not_mem {s : List Char} (slash : '/' ∉ s) : betweenSlashes s = none := by
  cases between : betweenSlashes s with
  | none => rfl
  | some source =>
    rw [betweenSlashes_eq_some_iff.1 between] at slash
    exact absurd List.mem_cons_self slash

/-- A text that starts with a bar does not stand between slashes. -/
theorem betweenSlashes_bar (s : List Char) : betweenSlashes ('|' :: s) = none := rfl

/-- Every text has the form by which it is read. -/
theorem form_readText (s : List Char) : Form s (readText s).1 (readText s).2 := by
  cases h : betweenSlashes s with
  | some source =>
    unfold readText
    rw [h, betweenSlashes_eq_some_iff.1 h]
    exact .expression source
  | none =>
    unfold readText
    rw [h]
    dsimp only
    split
    · exact .domain _
    · rename_i text bars
      refine .start text ?_
      intro bar
      obtain ⟨rest, rfl⟩ := List.head?_eq_some_iff.1 bar
      exact bars rest rfl
    · rename_i bars bar
      have first : s.head? ≠ some '|' := by
        intro e
        obtain ⟨rest, rfl⟩ := List.head?_eq_some_iff.1 e
        exact bar rest rfl
      split
      · rename_i slash
        exact .part s first slash h
      · rename_i slash
        exact .host s first slash

/-- A text has one form only. -/
theorem readText_of_form {s : List Char} {kind : Kind} {place : Place} (h : Form s kind place) :
    readText s = (kind, place) := by
  cases h with
  | domain key => rfl
  | start text bar =>
    cases text with
    | nil => rfl
    | cons c rest =>
      have other : c ≠ '|' := fun e => bar (by rw [e]; rfl)
      simp [readText, betweenSlashes_bar, other]
  | expression source =>
    have between : betweenSlashes ('/' :: (source ++ ['/'])) = some source :=
      betweenSlashes_eq_some_iff.2 rfl
    unfold readText
    rw [between]
  | part text bar slash loose =>
    cases s with
    | nil => cases slash
    | cons c rest =>
      have other : c ≠ '|' := fun e => bar (by rw [e]; rfl)
      simp [readText, loose, other, slash]
  | host text bar slash =>
    have loose := betweenSlashes_of_not_mem slash
    cases s with
    | nil => rfl
    | cons c rest =>
      have other : c ≠ '|' := fun e => bar (by rw [e]; rfl)
      simp [readText, loose, other, slash]

/-- A line has an entry unless it is a remark, and it is that of the line without the blanks at its ends. -/
theorem readLine_eq_some_iff {line : List Char} {e : Entry} :
    readLine line = some e ↔ isRemark (Text.trim line) = false ∧ readTrimmed (Text.trim line) = e := by
  unfold readLine
  cases remark : isRemark (Text.trim line) <;> simp [remark]

/-- A remark has no entry. -/
theorem readLine_of_isRemark {line : List Char} (remark : isRemark (Text.trim line) = true) :
    readLine line = none :=
  if_pos remark

end Detour.Rule
