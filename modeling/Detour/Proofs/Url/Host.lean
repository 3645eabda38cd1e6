import Detour.Proofs.Address.Ipv6
import Detour.Proofs.Domain.Name
import Detour.Proofs.Url.Percent
import Detour.Url.Read
/-!
# Reading hosts back

The text of a host holds visible characters only, and none of those that end the host in a URL. Main
statement: a host is read from its own text, with the exception of domain names that have a label
with a longer Punycode than is read.
-/

namespace Detour.Url

open Text (isVisible)

/-- The characters of a host that is no address between brackets. -/
def isHostChar (c : Char) : Bool := isVisible c && !decide (c ∈ "#/:?@[\\]|".toList)

/-- A character that a domain name in ASCII form may hold. -/
theorem isHostChar_of_isPlain {c : Char} (h : Domain.isPlain c = true) : isHostChar c = true := by
  have small := Domain.lt_of_isPlain h
  have allowed := Domain.not_isForbidden_of_isPlain h
  simp only [Domain.isForbidden, Bool.or_eq_false_iff, decide_eq_false_iff_not] at allowed
  obtain ⟨⟨⟨control, delete⟩, -⟩, marks⟩ := allowed
  have visible : isVisible c = true := by
    simp only [isVisible, Bool.and_eq_true, decide_eq_true_eq]
    omega
  have more : ∀ d ∈ "#/:?@[\\]|".toList, d ∈ "%#/:<>?@[\\]^|".toList :=
    Text.forall_mem_of_all (by decide)
  rw [isHostChar, visible, decide_eq_false fun found => marks (more c found)]
  rfl

/-- A character that a host with an unknown scheme may hold, after escaping. -/
theorem isHostChar_of_mem_percentEncode {s : List Char} {c : Char}
    (allowed : s.any isForbiddenInName = false) (found : c ∈ percentEncode escapedEverywhere s) :
    isHostChar c = true := by
  rcases mem_percentEncode found with ⟨inside, kept⟩ | written
  · have own := List.any_eq_false.1 allowed c inside
    rw [isForbiddenInName, decide_eq_true_eq] at own
    have more : ∀ d ∈ "#/:?@[\\]|".toList, d ∈ "\x00\t\n\r #/:<>?@[\\]^|".toList :=
      Text.forall_mem_of_all (by decide)
    rw [isHostChar, decide_eq_false fun found => own (more c found),
      isVisible_of_not_escapedEverywhere kept fun e => own (e ▸ by decide)]
    rfl
  · have all : ∀ d ∈ escapeChars, isHostChar d = true := Text.forall_mem_of_all (by decide)
    exact all c written

/-- A host that is brought into its normal form. -/
def Host.IsNormal (special : Bool) : Host → Prop
  | .name text => text ≠ [] ∧ (∀ c ∈ text, isHostChar c = true) ∧
      hostOf special text =
        if special && Domain.hasOverlong text then none else some (.name text)
  | .ipv4 address => special = true ∧ address < 0x100000000
  | .ipv6 groups => Address.Ipv6.IsAddress groups

/-- Where a bracket stands in front, an address is read. -/
theorem hostOf_of_bracket (special : Bool) {s : List Char} (h : s.head? = some '[') :
    hostOf special s = bracketed s := by
  cases special
  · exact if_pos h
  · exact if_pos h

/-- An address between brackets is in its normal form. -/
theorem isNormal_of_bracketed {special : Bool} {s : List Char} {host : Host}
    (h : bracketed s = some host) : host.IsNormal special := by
  obtain ⟨-, read⟩ := Option.ite_none_right_eq_some.1 h
  obtain ⟨groups, address, rfl⟩ := Option.map_eq_some_iff.1 read
  exact Address.Ipv6.isAddress_of_parse address

/-- A name without brackets and escapes is read as a domain name. -/
theorem readHost_of_isPlain {name : List Char} (plain : ∀ c ∈ name, Domain.isPlain c = true) :
    readHost name = (Domain.toAscii name).bind hostOfName := by
  have front : name.head? ≠ some '[' := fun first =>
    absurd (plain '[' (List.mem_of_head? first)) (by decide)
  have percent : '%' ∉ name := fun found => absurd (plain '%' found) (by decide)
  rw [readHost, if_neg front, readDomain, decodedText, if_neg percent]
  dsimp only
  cases Domain.toAscii name with
  | none => rfl
  | some t => rfl

/-- A host with a well-known scheme is brought into its normal form. -/
theorem isNormal_of_readHost {s : List Char} {host : Host} (h : readHost s = some host) :
    host.IsNormal true := by
  unfold readHost at h
  split at h
  · exact isNormal_of_bracketed h
  unfold readDomain at h
  split at h
  · cases h
  split at h
  · cases h
  rename_i name ascii
  have plain : ∀ c ∈ name, Domain.isPlain c = true := fun c => Domain.isPlain_of_mem_toAscii ascii
  have read := h
  unfold hostOfName at h
  split at h
  · cases h
  rename_i some
  split at h
  · obtain ⟨n, address, rfl⟩ := Option.map_eq_some_iff.1 h
    exact ⟨rfl, Address.Ipv4.lt_of_parseLoose address⟩
  · cases h
    refine ⟨fun e => some (by rw [e]; rfl), fun c found => isHostChar_of_isPlain (plain c found), ?_⟩
    rw [hostOf, if_pos rfl, readHost_of_isPlain plain, Domain.toAscii_toAscii ascii, Bool.true_and]
    split
    · rfl
    · exact read

/-- A host with an unknown scheme is brought into its normal form. -/
theorem isNormal_of_readVerbatim {s : List Char} {host : Host} (full : s ≠ [])
    (h : readVerbatim s = some host) : host.IsNormal false := by
  unfold readVerbatim at h
  split at h
  · exact isNormal_of_bracketed h
  split at h
  · cases h
  rename_i allowed
  cases h
  have chars {c : Char} := isHostChar_of_mem_percentEncode (c := c) (Bool.eq_false_iff.2 allowed)
  refine ⟨percentEncode_ne_nil full, fun c => chars, ?_⟩
  have front : (percentEncode escapedEverywhere s).head? ≠ some '[' := fun first =>
    absurd (chars (List.mem_of_head? first)) (by decide)
  have again : (percentEncode escapedEverywhere s).any isForbiddenInName = false := by
    refine List.any_eq_false.2 fun c found forbidden => ?_
    rcases mem_percentEncode found with ⟨inside, -⟩ | written
    · exact List.any_eq_false.1 (Bool.eq_false_iff.2 allowed) c inside forbidden
    · have all : ∀ d ∈ escapeChars, isForbiddenInName d = false :=
        Text.forall_mem_of_all (by decide)
      rw [all c written] at forbidden
      cases forbidden
  rw [hostOf, if_neg Bool.false_ne_true, readVerbatim, if_neg front, again,
    percentEncode_percentEncode escapedEverywhere_escapeChars]
  rfl

/-- A host is brought into its normal form. -/
theorem isNormal_of_hostOf {special : Bool} {s : List Char} {host : Host} (full : s ≠ [])
    (h : hostOf special s = some host) : host.IsNormal special := by
  cases special
  · exact isNormal_of_readVerbatim full h
  · exact isNormal_of_readHost h

variable {special : Bool} {host : Host}

/-- A decimal digit is a plain character. -/
theorem isPlain_of_isDigit {c : Char} (h : c.isDigit = true) : Domain.isPlain c = true := by
  have number : c.isAlphanum = true := by rw [Char.isAlphanum, h, Bool.or_true]
  refine Text.forall_of_ascii (P := fun d => d.isDigit = true → Domain.isPlain d = true) ?_
    (Text.lt_of_isVisible (Text.isVisible_of_isAlphanum number)) h
  decide

/-- The text of an address of four bytes is made of plain characters. -/
theorem isPlain_of_mem_ipv4 {n : Nat} {c : Char} (h : c ∈ Address.Ipv4.text n) :
    Domain.isPlain c = true := by
  rcases Address.Ipv4.isDigit_of_mem_text h with rfl | digit
  · decide
  · exact isPlain_of_isDigit digit

/-- The text of an address of four bytes is no Punycode. -/
theorem asciiMark_ipv4 {n : Nat} {label : List Char}
    (piece : label ∈ Text.splitOn '.' (Address.Ipv4.text n)) :
    Domain.asciiMark.isPrefixOf label = false := by
  refine Bool.eq_false_iff.2 fun start => ?_
  obtain ⟨code, rfl⟩ := List.isPrefixOf_iff_prefix.1 start
  have inside := Text.mem_of_mem_splitOn piece (List.mem_append_left code (a := 'x') (by decide))
  rcases Address.Ipv4.isDigit_of_mem_text inside with e | e <;> exact absurd e (by decide)

/-- There is always something of an address of four bytes. -/
theorem ipv4_ne_nil (n : Nat) : Address.Ipv4.text n ≠ [] := by
  intro empty
  have number := Address.Ipv4.endsInNumber_text n
  rw [empty] at number
  exact absurd number (by decide)

/-- There are no points in an address of eight groups. -/
theorem point_not_mem_ipv6 (groups : List Nat) : '.' ∉ (Host.ipv6 groups).text := by
  simp only [Host.text, List.cons_append, List.mem_cons, List.mem_append, not_or]
  refine ⟨by decide, fun found => ?_, by decide⟩
  rcases Address.Ipv6.isAlphanum_of_mem_text found with e | e <;> exact absurd e (by decide)

/-- The text of an address of eight groups is no Punycode. -/
theorem hasOverlong_ipv6 (groups : List Nat) :
    Domain.hasOverlong (Host.ipv6 groups).text = false := by
  rw [Domain.hasOverlong, Text.splitOn_of_not_mem (point_not_mem_ipv6 groups)]
  rfl

/-- A host is read from its own text, unless that has a label that is too long. -/
theorem hostOf_text (h : host.IsNormal special) :
    hostOf special host.text =
      if special && Domain.hasOverlong host.text then none else some host := by
  cases host with
  | name text => exact h.2.2
  | ipv4 n =>
    obtain ⟨rfl, small⟩ := h
    have plain : ∀ c ∈ Address.Ipv4.text n, Domain.isPlain c = true := fun c => isPlain_of_mem_ipv4
    have short : Domain.hasOverlong (Host.ipv4 n).text = false := by
      refine List.any_eq_false.2 fun label piece => ?_
      rw [Domain.isOverlong, asciiMark_ipv4 piece, Bool.false_and]
      exact Bool.false_ne_true
    have read : hostOfName (Address.Ipv4.text n) = some (.ipv4 n) := by
      rw [hostOfName, List.isEmpty_eq_false_iff.2 (ipv4_ne_nil n), Address.Ipv4.endsInNumber_text,
        Address.Ipv4.parseLoose_text small]
      rfl
    rw [short, Bool.and_false, hostOf, if_pos rfl]
    exact (readHost_of_isPlain plain).trans
      (by rw [Domain.toAscii_of_isPlain plain fun _ => asciiMark_ipv4, Option.bind_some, read]; rfl)
  | ipv6 groups =>
    have last : (Host.ipv6 groups).text.getLast? = some ']' := List.getLast?_concat
    have inside : ((Host.ipv6 groups).text.drop 1).dropLast = Address.Ipv6.text groups :=
      List.dropLast_concat
    rw [hasOverlong_ipv6, Bool.and_false, hostOf_of_bracket special rfl, bracketed, if_pos last,
      inside, Address.Ipv6.parse_text h]
    rfl

/-- The text of a host is not empty. -/
theorem text_ne_nil (h : host.IsNormal special) : host.text ≠ [] := by
  cases host with
  | name text => exact h.1
  | ipv4 n => exact ipv4_ne_nil n
  | ipv6 groups => exact List.cons_ne_nil _ _

/-- Letters and digits may stand in hosts. -/
theorem isHostChar_of_isAlphanum {c : Char} (h : c.isAlphanum = true) : isHostChar c = true := by
  have marks : ∀ d ∈ "#/:?@[\\]|".toList, d.isAlphanum = false := Text.forall_mem_of_all (by decide)
  have own : c ∉ "#/:?@[\\]|".toList := fun found => by
    rw [marks c found] at h
    cases h
  rw [isHostChar, Text.isVisible_of_isAlphanum h, decide_eq_false own]
  rfl

/-- The text of a host is made of characters that may stand in hosts, and of colons between brackets. -/
theorem isHostChar_of_mem_text {c : Char} (h : host.IsNormal special) (found : c ∈ host.text) :
    isHostChar c = true ∨ c ∈ "[:]".toList := by
  cases host with
  | name text => exact .inl (h.2.1 c found)
  | ipv4 n => exact .inl (isHostChar_of_isPlain (isPlain_of_mem_ipv4 found))
  | ipv6 groups =>
    simp only [Host.text, List.cons_append, List.mem_cons, List.mem_append, List.not_mem_nil,
      or_false] at found
    rcases found with rfl | inside | rfl
    · exact .inr (by decide)
    · rcases Address.Ipv6.isAlphanum_of_mem_text inside with rfl | digit
      · exact .inr (by decide)
      · exact .inl (isHostChar_of_isAlphanum digit)
    · exact .inr (by decide)

/-- The text of a host is visible, and nothing in it ends a host. -/
theorem of_mem_text {c : Char} (h : host.IsNormal special) (found : c ∈ host.text) :
    isVisible c = true ∧ c ∉ "#/?@\\".toList := by
  have more : ∀ e ∈ "#/?@\\".toList, e ∈ "#/:?@[\\]|".toList := Text.forall_mem_of_all (by decide)
  have marks : ∀ e ∈ "[:]".toList, isVisible e = true ∧ e ∉ "#/?@\\".toList :=
    Text.forall_mem_of_all (by decide)
  rcases isHostChar_of_mem_text h found with own | mark
  · rw [isHostChar, Bool.and_eq_true, Bool.not_eq_true', decide_eq_false_iff_not] at own
    exact ⟨own.1, fun e => own.2 (more c e)⟩
  · exact marks c mark

/-- A sign that may not stand in hosts is none of their characters. -/
theorem ne_of_isHostChar {c sign : Char} (h : isHostChar c = true) (other : isHostChar sign = false) :
    c ≠ sign := by
  rintro rfl
  rw [h] at other
  cases other

/-- What holds no colons and brackets belongs to the host, colons between brackets too. -/
theorem splitHostFrom_append {inBrackets : Bool} {front : List Char} (before back : List Char)
    (h : ∀ c ∈ front, (c = ':' → inBrackets = true) ∧ c ≠ '[' ∧ c ≠ ']') :
    splitHostFrom inBrackets before (front ++ back) =
      splitHostFrom inBrackets (front.reverse ++ before) back := by
  induction front generalizing before with
  | nil => rfl
  | cons c front ih =>
    obtain ⟨⟨colon, opens, closes⟩, others⟩ := List.forall_mem_cons.1 h
    have goesOn : ¬(c = ':' ∧ inBrackets = false) := fun e => by
      rw [colon e.1] at e
      cases e.2
    rw [List.cons_append, splitHostFrom, if_neg goesOn, if_neg opens, if_neg closes, ih _ others]
    simp

/-- The host ends at the end or at a colon outside brackets. -/
theorem splitHostFrom_of_head? {before back : List Char} (stop : ∀ c ∈ back.head?, c = ':') :
    splitHostFrom false before back = (before.reverse, back) := by
  cases back with
  | nil => rfl
  | cons c rest => rw [splitHostFrom, if_pos ⟨stop c rfl, rfl⟩]

/-- A host is found in front of its port. -/
theorem splitHost_append {back : List Char} (h : host.IsNormal special)
    (stop : ∀ c ∈ back.head?, c = ':') : splitHost (host.text ++ back) = (host.text, back) := by
  have plain {text : List Char} (chars : ∀ c ∈ text, isHostChar c = true) :
      splitHost (text ++ back) = (text, back) := by
    rw [splitHost, splitHostFrom_append, splitHostFrom_of_head? stop]
    · simp
    · intro c found
      have own := chars c found
      exact ⟨fun colon => absurd colon (ne_of_isHostChar own (by decide)),
        ne_of_isHostChar own (by decide), ne_of_isHostChar own (by decide)⟩
  cases host with
  | name text => exact plain h.2.1
  | ipv4 n => exact plain fun c found => isHostChar_of_isPlain (isPlain_of_mem_ipv4 found)
  | ipv6 groups =>
    have inside : ∀ c ∈ Address.Ipv6.text groups, (c = ':' → true = true) ∧ c ≠ '[' ∧ c ≠ ']' := by
      intro c found
      rcases Address.Ipv6.isAlphanum_of_mem_text found with rfl | digit
      · decide
      · have own := isHostChar_of_isAlphanum digit
        exact ⟨fun _ => rfl, ne_of_isHostChar own (by decide), ne_of_isHostChar own (by decide)⟩
    have opened : splitHost ((Host.ipv6 groups).text ++ back) =
        splitHostFrom true ['['] (Address.Ipv6.text groups ++ (']' :: back)) := by
      rw [Host.text, List.cons_append, List.cons_append, List.append_assoc]
      rfl
    have closed (before : List Char) : splitHostFrom true before (']' :: back) =
        splitHostFrom false (']' :: before) back := rfl
    rw [opened, splitHostFrom_append _ _ inside, closed, splitHostFrom_of_head? stop]
    simp [Host.text]

/-- No host is the letter of a drive. -/
theorem isDrive_text (h : host.IsNormal special) : isDrive host.text = false := by
  have plain {text : List Char} (chars : ∀ c ∈ text, isHostChar c = true) : isDrive text = false := by
    unfold isDrive
    split
    · rename_i letter mark
      have own := chars mark (by simp)
      have colon : mark ≠ ':' := ne_of_isHostChar own (by decide)
      have bar : mark ≠ '|' := ne_of_isHostChar own (by decide)
      simp [colon, bar]
    · rfl
  cases host with
  | name text => exact plain h.2.1
  | ipv4 n => exact plain fun c found => isHostChar_of_isPlain (isPlain_of_mem_ipv4 found)
  | ipv6 groups =>
    unfold isDrive
    split
    · rename_i letter mark e
      obtain rfl : '[' = letter := (List.cons.inj e).1
      rfl
    · rfl

end Detour.Url
