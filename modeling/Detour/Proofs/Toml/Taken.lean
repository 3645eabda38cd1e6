import Detour.Proofs.Toml.Behind
/-!
# What a reader takes

Main statement: whatever is read is taken from the front of a text, and what is given back is the rest of that
text. An entry or a header takes at least one character, so that the length of a text is limit enough for
the number of its lines.
-/

namespace Detour.Toml

/-- A reader gives back the rest of the text. -/
def Takes {α : Type} (reader : Reader α) : Prop :=
  ∀ {s rest : List Char} {a : α}, reader s = some (a, rest) → rest <:+ s

section Skipped

variable {c : Char} {s rest : List Char}

/-- A rest is a rest with one more character in front. -/
theorem suffix_cons_of (h : rest <:+ s) : rest <:+ c :: s := h.trans (List.suffix_cons c s)

/-- A rest without its first character is a rest. -/
theorem suffix_of_cons (h : c :: rest <:+ s) : rest <:+ s := (List.suffix_cons c rest).trans h

/-- Gaps are taken. -/
theorem skipGaps_suffix (s : List Char) : skipGaps s <:+ s := List.dropWhile_suffix isGap

/-- Gaps, comments and line breaks are taken. -/
theorem skipLines_suffix (s : List Char) : skipLines s <:+ s := by
  have all (comment : Bool) : skipLinesFrom comment s <:+ s := by
    fun_induction skipLinesFrom comment s with
    | case1 comment s ih => exact suffix_cons_of (suffix_cons_of ih)
    | case2 comment s single ih => exact suffix_cons_of ih
    | case3 c s single line char ih => exact suffix_cons_of ih
    | case4 c s single line char => exact List.suffix_refl _
    | case5 comment c s single line plain gap ih => exact suffix_cons_of ih
    | case6 comment s plain single line gap ih => exact suffix_cons_of ih
    | case7 comment c s single line plain gap sharp => exact List.suffix_refl _
    | case8 comment => exact List.suffix_refl _
  exact all false

/-- So is what stands up to the end of a line. -/
theorem endLine_suffix (h : endLine s = some rest) : rest <:+ s := by
  have comment (s : List Char) : skipComment s <:+ s := by
    unfold skipComment
    split
    · exact suffix_cons_of (List.dropWhile_suffix _)
    · exact List.suffix_refl _
  have whole := (comment (skipGaps s)).trans (skipGaps_suffix s)
  unfold endLine at h
  split at h
  · cases h
    exact List.nil_suffix
  · rename_i feed
    cases h
    rw [feed] at whole
    exact suffix_of_cons whole
  · rename_i pair
    cases h
    rw [pair] at whole
    exact suffix_of_cons (suffix_of_cons whole)
  · cases h

end Skipped

namespace Quote

variable {s rest t : List Char}

/-- What is separated with something in front is taken. -/
theorem push_suffix {front : List Char} {r : Option (List Char × List Char)}
    (inner : ∀ {b}, r = some (b, rest) → rest <:+ s) (h : push front r = some (t, rest)) : rest <:+ s := by
  obtain ⟨b, found, -⟩ := push_eq_some h
  exact inner found

/-- A body between double quotes is taken. -/
theorem takes_body : Takes body := by
  intro s rest b h
  fun_induction body s generalizing b with
  | case1 s =>
    cases h
    exact List.suffix_cons _ _
  | case2 c s ih => exact suffix_cons_of (suffix_cons_of (push_suffix ih h))
  | case3 c s quote pair ih => exact suffix_cons_of (push_suffix ih h)
  | case4 => cases h

/-- A body between single quotes is taken. -/
theorem takes_plainBody : Takes plainBody := by
  intro s rest b h
  fun_induction plainBody s generalizing b with
  | case1 s =>
    cases h
    exact List.suffix_cons _ _
  | case2 c s quote ih => exact suffix_cons_of (push_suffix ih h)
  | case3 => cases h

/-- Quotes that belong to a body are taken. -/
theorem closing_suffix (quote : Char) (s : List Char) : (closing quote s).2 <:+ s := by
  fun_cases closing quote s <;> simp [List.suffix_cons, suffix_cons_of]

/-- A body between three double quotes is taken. -/
theorem takes_bodyOfLines : Takes bodyOfLines := by
  intro s rest b h
  fun_induction bodyOfLines s generalizing b with
  | case1 s =>
    have own := closing_suffix '"' s
    rw [Option.some.inj h] at own
    exact suffix_cons_of (suffix_cons_of (suffix_cons_of own))
  | case2 c s ih => exact suffix_cons_of (suffix_cons_of (push_suffix ih h))
  | case3 c s quotes pair ih => exact suffix_cons_of (push_suffix ih h)
  | case4 => cases h

/-- A body between three single quotes is taken. -/
theorem takes_plainBodyOfLines : Takes plainBodyOfLines := by
  intro s rest b h
  fun_induction plainBodyOfLines s generalizing b with
  | case1 s =>
    have own := closing_suffix '\'' s
    rw [Option.some.inj h] at own
    exact suffix_cons_of (suffix_cons_of (suffix_cons_of own))
  | case2 c s quotes ih => exact suffix_cons_of (push_suffix ih h)
  | case3 => cases h

/-- To find out what a body means takes nothing. -/
theorem finish_suffix {meaning : List Char → Option (List Char)} {r : Option (List Char × List Char)}
    (inner : ∀ {b}, r = some (b, rest) → rest <:+ s) (h : finish meaning r = some (t, rest)) :
    rest <:+ s := by
  obtain ⟨⟨b, rest'⟩, found, read⟩ := Option.bind_eq_some_iff.1 h
  obtain ⟨t', -, same⟩ := Option.map_eq_some_iff.1 read
  cases same
  exact inner found

/-- A text of one line is taken. -/
theorem takes_readLine : Takes readLine := by
  intro s rest t h
  unfold readLine at h
  split at h
  · exact suffix_cons_of (finish_suffix takes_body h)
  · exact suffix_cons_of (finish_suffix takes_plainBody h)
  · cases h

/-- A text is taken. -/
theorem takes_read : Takes read := by
  intro s rest t h
  unfold read at h
  split at h
  · exact suffix_cons_of (suffix_cons_of (suffix_cons_of (finish_suffix takes_bodyOfLines h)))
  · exact suffix_cons_of (suffix_cons_of (suffix_cons_of (finish_suffix takes_plainBodyOfLines h)))
  · exact takes_readLine h

end Quote

section Nested

variable {value : Reader Value}

/-- A row of letters, digits and signs is taken. -/
theorem takes_scalar : Takes Scalar.read := by
  intro s rest v h
  have row : s.dropWhile Scalar.isRowChar <:+ s := List.dropWhile_suffix _
  unfold Scalar.read at h
  dsimp only at h
  split at h
  · rename_i more date gap
    rw [gap] at row
    split at h
    · cases h
      exact (List.dropWhile_suffix _).trans (suffix_of_cons row)
    · cases h
      rw [gap]
      exact row
  · obtain ⟨v', -, same⟩ := Option.map_eq_some_iff.1 h
    cases same
    exact row

/-- A value that holds no others is taken. -/
theorem takes_readSimple : Takes readSimple := by
  intro s rest v h
  unfold readSimple at h
  split at h
  · obtain ⟨⟨t, rest'⟩, read, same⟩ := Option.map_eq_some_iff.1 h
    cases same
    exact Quote.takes_read read
  · obtain ⟨⟨t, rest'⟩, read, same⟩ := Option.map_eq_some_iff.1 h
    cases same
    exact Quote.takes_read read
  · exact takes_scalar h

/-- A part of a key is taken. -/
theorem takes_readKey : Takes readKey := by
  intro s rest key h
  unfold readKey at h
  split at h
  · exact Quote.takes_readLine h
  · exact Quote.takes_readLine h
  · dsimp only at h
    split at h
    · cases h
    · cases h
      exact List.dropWhile_suffix _

/-- A dotted key is taken. -/
theorem takes_readPathOf (parts : Nat) : Takes (readPathOf parts) := by
  induction parts with
  | zero =>
    intro s rest path h
    cases h
  | succ parts ih =>
    intro s rest path h
    unfold readPathOf at h
    split at h
    · cases h
    rename_i key after read
    have front := (takes_readKey read).trans (skipGaps_suffix s)
    split at h
    · rename_i behind next
      obtain ⟨⟨path', rest'⟩, later, same⟩ := Option.map_eq_some_iff.1 h
      cases same
      have point := skipGaps_suffix after
      rw [next] at point
      exact ((ih later).trans (suffix_of_cons point)).trans front
    · cases h
      exact (skipGaps_suffix after).trans front

/-- A key and its value are taken, with at least the sign between them. -/
theorem length_of_readAssignment (inner : Takes value) {s rest : List Char} {a : Assignment}
    (h : readAssignment value s = some (a, rest)) : rest <:+ s ∧ rest.length < s.length := by
  unfold readAssignment at h
  split at h
  · rename_i path behind key
    obtain ⟨⟨v, rest'⟩, read, same⟩ := Option.map_eq_some_iff.1 h
    cases same
    have front : '=' :: behind <:+ s := takes_readPathOf depthLimit key
    have later := (inner read).trans (skipGaps_suffix behind)
    refine ⟨later.trans (suffix_of_cons front), ?_⟩
    have one := front.length_le
    have two := later.length_le
    rw [List.length_cons] at one
    omega
  · cases h

/-- The items of an array are taken. -/
theorem takes_readItems (inner : Takes value) (limit : Nat) : Takes (readItems value limit) := by
  induction limit with
  | zero =>
    intro s rest items h
    cases h
  | succ limit ih =>
    intro s rest items h
    have front := skipLines_suffix s
    unfold readItems at h
    split at h
    · rename_i behind close
      cases h
      rw [close] at front
      exact suffix_of_cons front
    split at h
    · cases h
    rename_i item after read
    have behind := ((skipLines_suffix after).trans (inner read)).trans front
    split at h
    · rename_i close
      cases h
      rw [close] at behind
      exact suffix_of_cons behind
    · rename_i comma
      obtain ⟨⟨items', rest'⟩, later, same⟩ := Option.map_eq_some_iff.1 h
      cases same
      rw [comma] at behind
      exact (ih later).trans (suffix_of_cons behind)
    · cases h

/-- The entries of a table between braces are taken. -/
theorem takes_readEntries (inner : Takes value) (limit : Nat) : Takes (readEntries value limit) := by
  induction limit with
  | zero =>
    intro s rest entries h
    cases h
  | succ limit ih =>
    intro s rest entries h
    unfold readEntries at h
    split at h
    · cases h
    rename_i entry after read
    have behind := (skipGaps_suffix after).trans (length_of_readAssignment inner read).1
    split at h
    · rename_i close
      cases h
      rw [close] at behind
      exact suffix_of_cons behind
    · rename_i comma
      obtain ⟨⟨entries', rest'⟩, later, same⟩ := Option.map_eq_some_iff.1 h
      cases same
      rw [comma] at behind
      exact (ih later).trans (suffix_of_cons behind)
    · cases h

/-- A table between braces is taken. -/
theorem takes_readBraces (inner : Takes value) : Takes (readBraces value) := by
  intro s rest entries h
  have front := skipGaps_suffix s
  unfold readBraces at h
  split at h
  · rename_i close
    cases h
    rw [close] at front
    exact suffix_of_cons front
  · exact (takes_readEntries inner _ h).trans front

/-- A value is taken, whatever stands in it. -/
theorem takes_readValueOf (depth : Nat) : Takes (readValueOf depth) := by
  induction depth with
  | zero => exact takes_readSimple
  | succ depth ih =>
    intro s rest v h
    unfold readValueOf at h
    split at h
    · obtain ⟨⟨items, rest'⟩, read, same⟩ := Option.map_eq_some_iff.1 h
      cases same
      exact suffix_cons_of (takes_readItems ih _ read)
    · split at h
      · rename_i read
        obtain ⟨v', -, same⟩ := Option.map_eq_some_iff.1 h
        cases same
        exact suffix_cons_of (takes_readBraces ih read)
      · cases h
    · exact takes_readSimple h

end Nested

/-- A header is taken, with at least one bracket. -/
theorem length_of_readHeader {s rest : List Char} {header : Bool × List Key}
    (h : readHeader s = some (header, rest)) : rest.length < s.length := by
  unfold readHeader at h
  split at h
  · rename_i inside
    split at h
    · rename_i path behind key
      cases h
      have taken : ']' :: ']' :: rest <:+ inside := takes_readPathOf depthLimit key
      have := (suffix_of_cons (suffix_of_cons taken)).length_le
      simp only [List.length_cons]
      omega
    · cases h
  · rename_i inside double
    split at h
    · rename_i path behind key
      cases h
      have taken : ']' :: rest <:+ inside := takes_readPathOf depthLimit key
      have := (suffix_of_cons taken).length_le
      simp only [List.length_cons]
      omega
    · cases h
  · cases h

end Detour.Toml
