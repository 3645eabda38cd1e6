import Detour.Proofs.Text.Ascii
import Detour.Proofs.Text.Numeral
import Detour.Proofs.Text.Utf8
import Detour.Url.Percent
/-!
# Escaping twice

Escaping writes a percent sign and digits, which are not escaped anywhere. Main statements: a text
that was escaped for some part of a URL stays as it is when it is escaped for this part again, and
what is not escaped in a part is visible.
-/

namespace Detour.Url

open Text (isVisible)

/-- The characters that escaping writes. -/
def escapeChars : List Char := "%0123456789ABCDEF".toList

/-- A byte is written with characters that escaping writes. -/
theorem mem_escapeChars_of_mem_percentByte {b : UInt8} {c : Char} (h : c ∈ percentByte b) :
    c ∈ escapeChars := by
  have digit {m : Nat} {x : Char} (found : x ∈ Nat.toDigits 16 m) : x.toUpper ∈ escapeChars := by
    obtain ⟨d, below, rfl⟩ := Text.exists_digitChar_of_mem (by decide) found
    have all : ∀ e ∈ List.range 16, e.digitChar.toUpper ∈ escapeChars := by decide
    exact all d (List.mem_range.2 below)
  rcases List.mem_cons.1 h with rfl | found
  · decide
  · obtain ⟨x, small, large⟩ := List.mem_map.1 found
    rw [← large]
    rcases List.mem_append.1 small with high | low
    · exact digit high
    · exact digit low

variable {escaped : Char → Bool}

/-- One character is escaped after the other. -/
theorem percentEncode_cons (c : Char) (s : List Char) :
    percentEncode escaped (c :: s) =
      (if escaped c then (Text.Utf8.encodeChar c).flatMap percentByte else [c]) ++
        percentEncode escaped s := rfl

/-- What is left or written by escaping. -/
theorem mem_percentEncode {c : Char} {s : List Char} (h : c ∈ percentEncode escaped s) :
    c ∈ s ∧ escaped c = false ∨ c ∈ escapeChars := by
  obtain ⟨d, inside, found⟩ := List.mem_flatMap.1 h
  split at found
  · obtain ⟨b, -, digit⟩ := List.mem_flatMap.1 found
    exact .inr (mem_escapeChars_of_mem_percentByte digit)
  · rename_i kept
    rw [List.mem_singleton.1 found]
    exact .inl ⟨inside, by simpa using kept⟩

/-- A text without characters to escape stays as it is. -/
theorem percentEncode_of_forall {s : List Char} (h : ∀ c ∈ s, escaped c = false) :
    percentEncode escaped s = s := by
  induction s with
  | nil => rfl
  | cons c s ih =>
    have own := h c List.mem_cons_self
    rw [percentEncode_cons, ih fun d found => h d (List.mem_cons_of_mem c found), own]
    rfl

/-- An escaped text has no characters to escape. -/
theorem not_escaped_of_mem_percentEncode (keeps : ∀ c ∈ escapeChars, escaped c = false) {c : Char}
    {s : List Char} (h : c ∈ percentEncode escaped s) : escaped c = false := by
  rcases mem_percentEncode h with left | written
  · exact left.2
  · exact keeps c written

/-- Escaping a second time changes nothing. -/
theorem percentEncode_percentEncode (keeps : ∀ c ∈ escapeChars, escaped c = false) (s : List Char) :
    percentEncode escaped (percentEncode escaped s) = percentEncode escaped s :=
  percentEncode_of_forall fun _ found => not_escaped_of_mem_percentEncode keeps found

/-- An escape starts with a percent sign. -/
theorem exists_cons_escape (c : Char) :
    ∃ more, (Text.Utf8.encodeChar c).flatMap percentByte = '%' :: more := by
  obtain ⟨b, bytes, written⟩ := List.exists_cons_of_ne_nil (Text.Utf8.encodeChar_ne_nil c)
  exact ⟨_, by rw [written, List.flatMap_cons]; rfl⟩

/-- What an escaped text starts with, if it is no percent sign, was there before. -/
theorem exists_cons_of_percentEncode {c : Char} {s t : List Char} (h : percentEncode escaped s = c :: t)
    (percent : c ≠ '%') : ∃ rest, s = c :: rest ∧ percentEncode escaped rest = t := by
  cases s with
  | nil => cases h
  | cons d rest =>
    rw [percentEncode_cons] at h
    split at h
    · obtain ⟨more, escape⟩ := exists_cons_escape d
      rw [escape] at h
      cases h
      exact absurd rfl percent
    · cases h
      exact ⟨rest, rfl, rfl⟩

/-- An escaped text without percent signs was so before. -/
theorem eq_of_percentEncode_of_not_mem {s t : List Char} (h : percentEncode escaped s = t)
    (percent : '%' ∉ t) : s = t := by
  induction t generalizing s with
  | nil =>
    cases s with
    | nil => rfl
    | cons d rest =>
      rw [percentEncode_cons] at h
      split at h
      · obtain ⟨more, escape⟩ := exists_cons_escape d
        rw [escape] at h
        cases h
      · cases h
  | cons c t ih =>
    obtain ⟨rest, rfl, later⟩ :=
      exists_cons_of_percentEncode h fun e => percent (e ▸ List.mem_cons_self)
    rw [ih later fun found => percent (List.mem_cons_of_mem c found)]

/-- Escaping leaves something of every character. -/
theorem percentEncode_ne_nil {s : List Char} (h : s ≠ []) : percentEncode escaped s ≠ [] := by
  intro empty
  exact h (eq_of_percentEncode_of_not_mem empty List.not_mem_nil)

/-- What escaping writes is not escaped everywhere. -/
theorem escapedEverywhere_escapeChars : ∀ c ∈ escapeChars, escapedEverywhere c = false :=
  Text.forall_mem_of_all (by decide)

/-- What escaping writes is not escaped in a fragment. -/
theorem escapedInFragment_escapeChars : ∀ c ∈ escapeChars, escapedInFragment c = false :=
  Text.forall_mem_of_all (by decide)

/-- What escaping writes is not escaped in a query. -/
theorem escapedInQuery_escapeChars (special : Bool) :
    ∀ c ∈ escapeChars, escapedInQuery special c = false := by
  cases special
  · exact Text.forall_mem_of_all (by decide)
  · exact Text.forall_mem_of_all (by decide)

/-- What escaping writes is not escaped in a path. -/
theorem escapedInPath_escapeChars : ∀ c ∈ escapeChars, escapedInPath c = false :=
  Text.forall_mem_of_all (by decide)

/-- What escaping writes is not escaped in the user. -/
theorem escapedInUser_escapeChars : ∀ c ∈ escapeChars, escapedInUser c = false :=
  Text.forall_mem_of_all (by decide)

/-- Only the blank is neither visible nor escaped everywhere. -/
theorem isVisible_of_not_escapedEverywhere {c : Char} (h : escapedEverywhere c = false)
    (blank : c ≠ ' ') : isVisible c = true := by
  have code : c.toNat ≠ 0x20 := fun e => blank (Char.toNat_inj.1 e)
  simp only [escapedEverywhere, Bool.or_eq_false_iff, decide_eq_false_iff_not] at h
  simp only [isVisible, Bool.and_eq_true, decide_eq_true_eq]
  omega

/-- What is not escaped in a fragment is visible. -/
theorem isVisible_of_not_escapedInFragment {c : Char} (h : escapedInFragment c = false) :
    isVisible c = true := by
  rw [escapedInFragment, Bool.or_eq_false_iff, decide_eq_false_iff_not] at h
  exact isVisible_of_not_escapedEverywhere h.1 fun e => h.2 (e ▸ by decide)

/-- What is not escaped in a query is visible. -/
theorem isVisible_of_not_escapedInQuery {special : Bool} {c : Char}
    (h : escapedInQuery special c = false) : isVisible c = true := by
  rw [escapedInQuery, Bool.or_eq_false_iff, Bool.or_eq_false_iff, decide_eq_false_iff_not] at h
  exact isVisible_of_not_escapedEverywhere h.1.1 fun e => h.1.2 (e ▸ by decide)

/-- What is not escaped in a path is not escaped in a fragment either. -/
theorem not_escapedInFragment_of_path {c : Char} (h : escapedInPath c = false) :
    escapedInFragment c = false := by
  rw [escapedInPath, Bool.or_eq_false_iff] at h
  exact h.1

/-- What is not escaped in the user is not escaped in a path either. -/
theorem not_escapedInPath_of_user {c : Char} (h : escapedInUser c = false) :
    escapedInPath c = false := by
  rw [escapedInUser, Bool.or_eq_false_iff] at h
  exact h.1

end Detour.Url
