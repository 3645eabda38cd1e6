import Detour.Proofs.Payload
import Detour.Proofs.Text.Utf8.Fault
/-!
# Where a payload is wrong

A fault in Base64 names a symbol by its place among the bytes that are no white space, and a fault in UTF-8 is
about the bytes inside. Main statement: the byte that a fault names stands where it says, and a payload
in Base64 is refused for its text exactly as the bytes that it wraps are.
-/

namespace Detour.Base64

/-- The offsets in a fault are counted from `offset` on, where a text starts, and the byte that it names stands
there. Without one, the number of symbols is at fault. -/
def Fault.Points (offset : Nat) (s : List UInt8) : Fault → Prop
  | .symbol b n | .lastSymbol b n => ∃ k, n = offset + k ∧ s[k]? = some b
  | .length count => count = offset + s.length ∧ s.length % 4 = 1
  | .padding => s.length % 4 = 2 ∨ s.length % 4 = 3

/-- Symbols in front of a text count for its offset. -/
theorem Fault.Points.append {offset : Nat} (front : List UInt8) {s : List UInt8} {fault : Fault}
    (h : fault.Points (offset + front.length) s) (groups : front.length % 4 = 0) :
    fault.Points offset (front ++ s) := by
  cases fault with
  | symbol b n | lastSymbol b n =>
    obtain ⟨k, rfl, here⟩ := h
    refine ⟨front.length + k, Nat.add_assoc _ _ _, ?_⟩
    rw [List.getElem?_append_right (Nat.le_add_right _ _), Nat.add_sub_cancel_left, here]
  | length count =>
    obtain ⟨rfl, one⟩ := h
    rw [Points, List.length_append]
    omega
  | padding =>
    rw [Points] at h ⊢
    rw [List.length_append]
    omega

/-- Only the byte at some place is refused there. -/
theorem eq_symbol_of_valueAt_error {offset : Nat} {b : UInt8} {fault : Fault}
    (h : valueAt offset b = .error fault) : fault = .symbol b offset := by
  unfold valueAt at h
  split at h
  · cases h
  · cases h
    rfl

/-- One step fails, or the other behind it does. -/
theorem error_of_bind_eq_error {α β : Type} {step : Except Fault α} {next : α → Except Fault β}
    {fault : Fault} (h : step >>= next = .error fault) :
    step = .error fault ∨ ∃ a, step = .ok a ∧ next a = .error fault := by
  cases step with
  | error own =>
    cases h
    exact .inl rfl
  | ok a => exact .inr ⟨a, rfl, h⟩

/-- A symbol that is read gives way to what is behind it, or it is the fault. -/
theorem points_of_valueAt {α : Type} {offset k : Nat} {s : List UInt8} {b : UInt8}
    {next : Nat → Except Fault α} {fault : Fault} (h : valueAt (offset + k) b >>= next = .error fault)
    (here : s[k]? = some b) (rest : ∀ n, next n = .error fault → fault.Points offset s) :
    fault.Points offset s := by
  rcases error_of_bind_eq_error h with own | ⟨n, -, later⟩
  · rw [eq_symbol_of_valueAt_error own]
    exact ⟨k, rfl, here⟩
  · exact rest n later

/-- The last group is refused for a symbol in it or for its length. -/
theorem points_of_decodeLast {offset : Nat} {last : List UInt8} {fault : Fault} (short : last.length ≤ 4)
    (h : decodeLast offset last = .error fault) : fault.Points offset last := by
  match last with
  | [] => cases h
  | [a] =>
    refine points_of_valueAt (k := 0) h rfl fun x next => ?_
    cases next
    exact ⟨rfl, rfl⟩
  | [a, b] =>
    refine points_of_valueAt (k := 0) h rfl fun x next => ?_
    refine points_of_valueAt (k := 1) next rfl fun y next => ?_
    cases next
    exact .inl rfl
  | [a, b, c] =>
    refine points_of_valueAt (k := 0) h rfl fun x next => ?_
    refine points_of_valueAt (k := 1) next rfl fun y next => ?_
    split at next
    · cases next
      exact .inr rfl
    · refine points_of_valueAt (k := 2) next rfl fun z next => ?_
      cases next
      exact .inr rfl
  | [a, b, c, d] =>
    refine points_of_valueAt (k := 0) h rfl fun x next => ?_
    refine points_of_valueAt (k := 1) next rfl fun y next => ?_
    split at next
    · split at next
      · cases next
        exact ⟨2, rfl, rfl⟩
      split at next
      · cases next
        exact ⟨1, rfl, rfl⟩
      · cases next
    · refine points_of_valueAt (k := 2) next rfl fun z next => ?_
      split at next
      · split at next
        · cases next
          exact ⟨2, rfl, rfl⟩
        · cases next
      · refine points_of_valueAt (k := 3) next rfl fun w next => ?_
        cases next

/-- A text is refused for a symbol in it or for its length. -/
theorem points_of_decodeFrom {offset : Nat} {done s : List UInt8} {fault : Fault}
    (h : decodeFrom offset done s = .error fault) : fault.Points offset s := by
  fun_induction decodeFrom offset done s with
  | case1 offset done a b c d e rest ih =>
    refine points_of_valueAt (k := 0) h rfl fun x next => ?_
    refine points_of_valueAt (k := 1) next rfl fun y next => ?_
    refine points_of_valueAt (k := 2) next rfl fun z next => ?_
    refine points_of_valueAt (k := 3) next rfl fun w next => ?_
    exact Fault.Points.append [a, b, c, d] (ih x y z w next) (by simp)
  | case2 offset done last long =>
    have short : last.length ≤ 4 := by
      rcases last with _ | ⟨a, _ | ⟨b, _ | ⟨c, _ | ⟨d, _ | ⟨e, rest⟩⟩⟩⟩⟩
      case cons.cons.cons.cons.cons => exact absurd rfl (long a b c d e rest)
      all_goals simp
    rcases error_of_bind_eq_error h with own | ⟨bytes, -, refused⟩
    · exact points_of_decodeLast short own
    · cases refused

/-- The fault for which a text is refused is found in the text. -/
theorem points_of_decode {s : List UInt8} {fault : Fault} (h : decode s = .error fault) :
    fault.Points 0 s := by
  unfold decode at h
  split at h
  · rename_i stray
    cases h
    unfold strayEnd at stray
    split at stray
    · rename_i b last
      split at stray
      · cases stray
        refine ⟨s.length - 1, (Nat.zero_add _).symm, ?_⟩
        rw [← List.getLast?_eq_getElem?, last]
      · cases stray
    · cases stray
  · exact points_of_decodeFrom h

end Detour.Base64

namespace Detour.Payload

/-- A payload that is refused for its bytes wraps them, and they are no text as they are. -/
theorem unwrap_of_decode_eq_utf8 {encoding : Encoding} {payload bytes : List UInt8}
    {inner : Text.Utf8.Fault} (h : decode encoding payload = .error (.utf8 bytes inner)) :
    unwrap encoding payload = .ok bytes ∧ Text.Utf8.decode bytes = .error inner := by
  unfold decode at h
  split at h
  · rename_i fault wrapped
    cases h
    cases encoding with
    | plain => cases wrapped
    | base64 =>
      unfold unwrap at wrapped
      dsimp only at wrapped
      split at wrapped
      · cases wrapped
      · cases wrapped
  · rename_i own wrapped
    split at h
    · cases h
    · rename_i found
      cases h
      exact ⟨wrapped, found⟩

/-- A payload in Base64 wraps the bytes that it is the writing of. -/
theorem written_of_unwrap {payload bytes : List UInt8} (h : unwrap .base64 payload = .ok bytes) :
    payload.filter (!isSpace ·) = Base64.encode bytes := by
  unfold unwrap at h
  dsimp only at h
  split at h
  · rename_i found
    cases h
    exact Base64.decode_eq_ok_iff.1 found
  · cases h

/-- A payload that is refused for its symbols is in Base64. -/
theorem decode_of_decode_eq_base64 {encoding : Encoding} {payload : List UInt8} {inner : Base64.Fault}
    (h : decode encoding payload = .error (.base64 inner)) :
    encoding = .base64 ∧ Base64.decode (payload.filter (!isSpace ·)) = .error inner := by
  cases encoding with
  | plain =>
    unfold decode unwrap at h
    dsimp only at h
    split at h <;> cases h
  | base64 =>
    unfold decode unwrap at h
    dsimp only at h
    split at h
    · rename_i fault wrapped
      split at wrapped
      · cases wrapped
      · rename_i found
        cases wrapped
        cases h
        exact ⟨rfl, found⟩
    · split at h <;> cases h

/-- Bytes as they are are refused as the text that they are not. -/
theorem decode_plain_of_decode {bytes : List UInt8} {inner : Text.Utf8.Fault}
    (h : Text.Utf8.decode bytes = .error inner) : decode .plain bytes = .error (.utf8 bytes inner) := by
  simp only [decode, unwrap, h]

/-- Whatever payload is refused, the fault says where it is wrong. A symbol that it names stands at its offset
among the bytes of a payload in Base64 that are no white space, and the payload is the writing of no bytes. A
fault in UTF-8 is one in the bytes that the payload wraps, if it is in Base64 the bytes that it is the
writing of: the same bytes are refused with the same fault as they are, and it names the place up to which
they are a text. -/
theorem decode_error_points {encoding : Encoding} {payload : List UInt8} {fault : Fault}
    (refused : decode encoding payload = .error fault) :
    (∀ inner, fault = .base64 inner →
      encoding = .base64 ∧ (∀ bytes, payload.filter (!isSpace ·) ≠ Base64.encode bytes) ∧
      ∀ b n, inner = .symbol b n ∨ inner = .lastSymbol b n →
        n < (payload.filter (!isSpace ·)).length ∧ (payload.filter (!isSpace ·))[n]? = some b) ∧
    ∀ bytes inner, fault = .utf8 bytes inner →
      (encoding = .base64 → payload.filter (!isSpace ·) = Base64.encode bytes) ∧
      (encoding = .plain → payload = bytes) ∧
      decode .plain bytes = .error fault ∧ inner.Points bytes := by
  constructor
  · rintro inner rfl
    obtain ⟨rfl, found⟩ := decode_of_decode_eq_base64 refused
    refine ⟨rfl, fun bytes written => ?_, fun b n named => ?_⟩
    · rw [Base64.decode_eq_ok_iff.2 written] at found
      cases found
    · obtain ⟨k, rfl, here⟩ : ∃ k, n = 0 + k ∧ (payload.filter (!isSpace ·))[k]? = some b := by
        rcases named with rfl | rfl <;> exact Base64.points_of_decode found
      rw [Nat.zero_add]
      exact ⟨(List.getElem?_eq_some_iff.1 here).1, here⟩
  · rintro bytes inner rfl
    obtain ⟨wrapped, found⟩ := unwrap_of_decode_eq_utf8 refused
    refine ⟨?_, ?_, decode_plain_of_decode found, Text.Utf8.points_of_decode found⟩
    · rintro rfl
      exact written_of_unwrap wrapped
    · rintro rfl
      cases wrapped
      rfl

/-- The second symbol of the last group carries bits that belong to no byte: it is the sixth, white space
aside. The bytes of a surrogate are no text, in Base64 or not, and the first of them begins a character. -/
theorem decode_error_points_stray_bits_and_surrogate :
    decode .base64 [89, 87, 74, 106, 10, 90, 71, 61, 61] =
        .error (.base64 (.lastSymbol 71 5)) ∧
      (5 < ([89, 87, 74, 106, 10, 90, 71, 61, 61].filter (!isSpace ·)).length ∧
        ([89, 87, 74, 106, 10, 90, 71, 61, 61].filter (!isSpace ·))[5]? = some 71) ∧
      decode .base64 [89, 101, 50, 103, 103, 65, 61, 61] =
        .error (.utf8 [97, 0xed, 0xa0, 0x80] (.invalid 1 1)) ∧
      Text.Utf8.Fault.Points [97, 0xed, 0xa0, 0x80] (.invalid 1 1) := by
  have bits : decode .base64 [89, 87, 74, 106, 10, 90, 71, 61, 61] =
      .error (.base64 (.lastSymbol 71 5)) := by decide
  have surrogate : decode .base64 [89, 101, 50, 103, 103, 65, 61, 61] =
      .error (.utf8 [97, 0xed, 0xa0, 0x80] (.invalid 1 1)) := by decide
  exact ⟨bits, ((decode_error_points bits).1 _ rfl).2.2 _ _ (.inr rfl), surrogate,
    ((decode_error_points surrogate).2 _ _ rfl).2.2.2⟩

end Detour.Payload
