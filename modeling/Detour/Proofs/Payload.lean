import Detour.Feed
import Detour.Proofs.Base64
/-!
# What a payload holds

White space may be put anywhere into a list in Base64, between symbols and into the padding, and the list
stays the same. Main statement: a payload holds a text exactly if it is the writing of the text with
white space put in, and then it makes the rules that the text makes.
-/

namespace Detour.Payload

/-- A payload is some bytes with white space put in anywhere. -/
inductive Spaced : List UInt8 → List UInt8 → Prop where
  /-- Nothing is left. -/
  | nil : Spaced [] []
  /-- A byte stays where it is. -/
  | keep (b : UInt8) {bytes payload : List UInt8} (rest : Spaced bytes payload) :
    Spaced (b :: bytes) (b :: payload)
  /-- A space, a tab or the end of a line is put in. -/
  | space {b : UInt8} (blank : isSpace b = true) {bytes payload : List UInt8}
    (rest : Spaced bytes payload) : Spaced bytes (b :: payload)

/-- No symbol is white space. -/
theorem isSpace_symbol (n : Nat) : isSpace (Base64.symbol n) = false := by
  by_cases h : n < 64
  · have all : ∀ m ∈ List.range 64, isSpace (Base64.symbol m) = false := by decide
    exact all n (List.mem_range.2 h)
  · rw [Base64.symbol, if_neg (by omega), if_neg (by omega), if_neg (by omega), if_neg (by omega)]
    rfl

/-- There is no white space in what bytes are written as. -/
theorem isSpace_of_mem_encode (bytes : List UInt8) : ∀ b ∈ Base64.encode bytes, isSpace b = false := by
  have padding : isSpace Base64.pad = false := rfl
  fun_induction Base64.encode bytes with
  | case1 => simp
  | case2 a => simp [isSpace_symbol, padding]
  | case3 a b => simp [isSpace_symbol, padding]
  | case4 a b c rest ih => simpa [isSpace_symbol] using ih

/-- Bytes that are no white space are what is left without it, wherever it was put in. -/
theorem spaced_iff {bytes payload : List UInt8} (solid : ∀ b ∈ bytes, isSpace b = false) :
    Spaced bytes payload ↔ payload.filter (!isSpace ·) = bytes := by
  constructor
  · intro h
    induction h with
    | nil => rfl
    | keep b rest ih =>
      have own := solid b List.mem_cons_self
      have left := ih fun c found => solid c (List.mem_cons_of_mem b found)
      simp [own, left]
    | space blank rest ih => simp [blank, ih solid]
  · rintro rfl
    clear solid
    induction payload with
    | nil => exact .nil
    | cons b payload ih =>
      cases blank : isSpace b with
      | true => simpa [blank] using Spaced.space blank ih
      | false => simpa [blank] using Spaced.keep b ih

/-- A payload in Base64 holds a text exactly if the text is written with the symbols that it has. -/
theorem decode_base64_eq_ok_iff {payload : List UInt8} {t : List Char} :
    decode .base64 payload = .ok t ↔
      payload.filter (!isSpace ·) = Base64.encode (Text.Utf8.encode t) := by
  unfold decode unwrap
  dsimp only
  constructor
  · intro h
    cases inner : Base64.decode (payload.filter (!isSpace ·)) with
    | error fault => simp [inner] at h
    | ok bytes =>
      cases text : Text.Utf8.decode bytes with
      | error fault => simp [inner, text] at h
      | ok read =>
        simp only [inner, text, Except.ok.injEq] at h
        rw [Base64.decode_eq_ok_iff.1 inner, Text.Utf8.decode_eq_ok_iff.1 text, h]
  · intro h
    rw [Base64.decode_eq_ok_iff.2 h]
    dsimp only
    rw [Text.Utf8.decode_eq_ok_iff.2 rfl]

/-- The bytes of a text hold the text. -/
theorem decode_plain_encode (t : List Char) : decode .plain (Text.Utf8.encode t) = .ok t := by
  simp only [decode, unwrap, Text.Utf8.decode_eq_ok_iff.2 rfl]

/-- A payload in Base64 holds a text exactly if, without its white space, it is what the bytes of the text
are written as. However white space is put into the writing of a text, it holds the text and makes
the rules that the text makes and that its bytes make as they are. Payloads that hold the same
text differ in white space only. -/
theorem holds_text_iff (t : List Char) :
    (∀ payload, decode .base64 payload = .ok t ↔
      payload.filter (!isSpace ·) = Base64.encode (Text.Utf8.encode t)) ∧
    (∀ payload, Spaced (Base64.encode (Text.Utf8.encode t)) payload →
      decode .base64 payload = .ok t ∧
        RuleSet.ofPayload .base64 payload = .ok (RuleSet.ofText t) ∧
        RuleSet.ofPayload .plain (Text.Utf8.encode t) = .ok (RuleSet.ofText t)) ∧
    ∀ payload other, decode .base64 payload = .ok t → decode .base64 other = .ok t →
      payload.filter (!isSpace ·) = other.filter (!isSpace ·) := by
  refine ⟨fun payload => decode_base64_eq_ok_iff, fun payload spaced => ?_, ?_⟩
  · have left := (spaced_iff (isSpace_of_mem_encode _)).1 spaced
    have read := decode_base64_eq_ok_iff.2 left
    refine ⟨read, ?_, ?_⟩
    · rw [RuleSet.ofPayload, read]
      rfl
    · rw [RuleSet.ofPayload, decode_plain_encode]
      rfl
  · intro payload other read again
    rw [decode_base64_eq_ok_iff.1 read, decode_base64_eq_ok_iff.1 again]

/-- A line end between two symbols and one in front of the padding do not matter. -/
theorem holds_text_across_line_ends :
    Spaced (Base64.encode (Text.Utf8.encode ['é'])) [119, 54, 10, 107, 13, 10, 61] ∧
      decode .base64 [119, 54, 10, 107, 13, 10, 61] = .ok ['é'] := by
  have spaced : Spaced (Base64.encode (Text.Utf8.encode ['é'])) [119, 54, 10, 107, 13, 10, 61] :=
    (spaced_iff (isSpace_of_mem_encode _)).2 (by decide)
  exact ⟨spaced, ((holds_text_iff ['é']).2.1 _ spaced).1⟩

end Detour.Payload
