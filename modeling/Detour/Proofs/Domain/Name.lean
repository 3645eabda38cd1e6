import Detour.Domain.Name
import Detour.Proofs.Domain.Punycode.RoundTrip
import Detour.Proofs.Text.Ascii
import Detour.Proofs.Text.Split
import Detour.Proofs.Unicode.NormalForm
/-!
# Reading domain names twice

The ASCII form of a domain name is made of ASCII characters that every host may hold. Main
statement: a name in ASCII form is read as itself, with one exception. A label outside ASCII may be
written with a longer Punycode than is read, and a name with such a label is not read again.
-/

namespace Detour.Domain

/-- The characters that a domain name in ASCII form may hold. -/
def isPlain (c : Char) : Bool := isAscii c && !isForbidden c

/-- Such a character belongs to ASCII. -/
theorem lt_of_isPlain {c : Char} (h : isPlain c = true) : c.toNat < 0x80 := by
  simp only [isPlain, Bool.and_eq_true, isAscii, decide_eq_true_eq] at h
  exact h.1

/-- No host may be without such a character. -/
theorem not_isForbidden_of_isPlain {c : Char} (h : isPlain c = true) : isForbidden c = false := by
  rw [isPlain, Bool.and_eq_true, Bool.not_eq_true'] at h
  exact h.2

/-- A digit of a Punycode is such a character. -/
theorem isPlain_of_isSome_digit? {c : Char} (h : (Punycode.digit? c).isSome = true) :
    isPlain c = true ∧ c ≠ '.' := by
  obtain ⟨d, below, rfl⟩ := Punycode.exists_digitChar h
  have all : ∀ e ∈ List.range 36,
      isPlain (Punycode.digitChar e) = true ∧ Punycode.digitChar e ≠ '.' := by decide
  exact all d (List.mem_range.2 below)

/-- There are no capital letters among these characters. -/
theorem toLower_of_isPlain {c : Char} (h : isPlain c = true) : c.toLower = c := by
  have allowed := not_isForbidden_of_isPlain h
  simp only [isForbidden, Bool.or_eq_false_iff] at allowed
  exact dif_neg (of_decide_eq_false allowed.1.2)

variable {s : List Char}

/-- Mapping and composing leave such characters as they are. -/
theorem normalize_of_isPlain (h : ∀ c ∈ s, isPlain c = true) : normalize s = some s := by
  have mapped : mapText s = some s := by
    induction s with
    | nil => rfl
    | cons c rest ih =>
      obtain ⟨own, others⟩ := List.forall_mem_cons.1 h
      rw [mapText_cons, mapping_of_ascii (lt_of_isPlain own), toLower_of_isPlain own, ih others]
      rfl
  have composed := Unicode.compose_of_ascii fun c found => lt_of_isPlain (h c found)
  rw [normalize, mapped, Option.map_some, composed]

/-- A name of such characters is cut at its points only. -/
theorem readLabels_of_isPlain (h : ∀ c ∈ s, isPlain c = true) :
    readLabels s = (Text.splitOn '.' s).mapM readLabel := by
  rw [readLabels, normalize_of_isPlain h]

/-- Whether a label is written with a longer Punycode than is read. -/
def isOverlong (label : List Char) : Bool :=
  asciiMark.isPrefixOf label && decide (longestPunycode < (label.drop asciiMark.length).length)

/-- What is read of a Punycode. -/
theorem of_labelOfPunycode {code text : List Char} (h : labelOfPunycode code = some text) :
    code.all isAscii = true ∧ code.length ≤ longestPunycode ∧ Punycode.decode code = some text ∧
      isLabel text = true := by
  unfold labelOfPunycode at h
  split at h
  · cases h
  · rename_i fits
    split at h
    · rename_i t read
      obtain ⟨label, same⟩ := Option.ite_none_right_eq_some.1 h
      cases same
      simp only [Bool.or_eq_true, not_or, Bool.not_eq_true', Bool.not_eq_false, decide_eq_true_eq,
        Nat.not_lt] at fits
      exact ⟨fits.1.2, fits.2, read, label⟩
    · cases h

/-- The characters of a label are allowed in hosts. -/
theorem not_isForbidden_of_isLabel {text : List Char} {c : Char} (h : isLabel text = true)
    (found : c ∈ text) : isForbidden c = false := by
  simp only [isLabel, Bool.and_eq_true] at h
  have allowed := List.all_eq_true.1 h.1.1.2 c found
  simpa using allowed

/-- The characters of a Punycode that is read. -/
theorem isPlain_of_mem_code {code text : List Char} {c : Char} (h : labelOfPunycode code = some text)
    (found : c ∈ code) : isPlain c = true := by
  obtain ⟨ascii, -, decoded, label⟩ := of_labelOfPunycode h
  rcases Punycode.mem_of_decode decoded found with own | rfl | digit
  · rw [isPlain, List.all_eq_true.1 ascii c found, not_isForbidden_of_isLabel label own]
    rfl
  · decide
  · exact (isPlain_of_isSome_digit? digit).1

/-- The characters of a Punycode that is written. -/
theorem isPlain_of_mem_encode {c : Char} (label : isLabel s = true) (point : '.' ∉ s)
    (found : c ∈ Punycode.encode s) : isPlain c = true ∧ c ≠ '.' := by
  rcases Punycode.mem_encode found with ⟨own, ascii⟩ | rfl | digit
  · refine ⟨?_, fun e => point (e ▸ own)⟩
    rw [isPlain, not_isForbidden_of_isLabel label own, isAscii, decide_eq_true ascii]
    rfl
  · decide
  · exact isPlain_of_isSome_digit? digit

/-- The characters of a label that was read, in its ASCII form. -/
theorem isPlain_of_mem_ascii {l : Label} {c : Char} (h : readLabel s = some l) (point : '.' ∉ s)
    (found : c ∈ l.ascii) : isPlain c = true ∧ c ≠ '.' := by
  have mark : ∀ d ∈ asciiMark, isPlain d = true ∧ d ≠ '.' := Text.forall_mem_of_all (by decide)
  have other (inside : c ∈ s) : c ≠ '.' := fun e => point (e ▸ inside)
  unfold readLabel at h
  split at h
  · rename_i start
    obtain ⟨text, read, rfl⟩ := Option.map_eq_some_iff.1 h
    obtain ⟨code, rfl⟩ := List.isPrefixOf_iff_prefix.1 start
    rw [List.drop_left] at read
    refine ⟨?_, other found⟩
    rcases List.mem_append.1 found with front | inside
    · exact (mark c front).1
    · exact isPlain_of_mem_code read inside
  · split at h
    · rename_i ascii
      split at h
      · cases h
      · rename_i allowed
        cases h
        have own := List.any_eq_false.1 (Bool.eq_false_iff.2 allowed) c found
        refine ⟨?_, other found⟩
        rw [isPlain, List.all_eq_true.1 ascii c found, Bool.eq_false_iff.2 own]
        rfl
    · obtain ⟨fits, same⟩ := Option.ite_none_right_eq_some.1 h
      cases same
      rw [Bool.and_eq_true] at fits
      rcases List.mem_append.1 found with front | code
      · exact mark c front
      · exact isPlain_of_mem_encode fits.1 point code

/-- A label that is written with its Punycode is read from it, unless the Punycode is too long. -/
theorem labelOfPunycode_encode (outside : s.all isAscii ≠ true) (label : isLabel s = true)
    (short : s.length ≤ longestLabel) :
    labelOfPunycode (Punycode.encode s) =
      if longestPunycode < (Punycode.encode s).length then none else some s := by
  have read : Punycode.decode (Punycode.encode s) = some s := Punycode.decode_encode short
  have ascii : (Punycode.encode s).all isAscii = true :=
    List.all_eq_true.2 fun c found => decide_eq_true (Punycode.lt_of_mem_encode found)
  have last : (Punycode.encode s).getLast? ≠ some '-' := fun last =>
    -- Without digits, the label would be made of what its Punycode holds, which is ASCII.
    outside <| List.all_eq_true.2 fun c found =>
      List.all_eq_true.1 ascii c (Punycode.mem_of_decode_of_hyphen read last found)
  have some : (Punycode.encode s).isEmpty = false := by
    refine List.isEmpty_eq_false_iff.2 fun empty => outside ?_
    rw [empty] at read
    cases read
    rfl
  rw [labelOfPunycode, some, ascii, read, decide_eq_false last]
  simp only [label, Bool.false_or, Bool.not_true, decide_eq_true_eq, if_true]

/-- A label in its ASCII form is read as the same label, unless it is too long. -/
theorem readLabel_ascii {l : Label} (h : readLabel s = some l) :
    readLabel l.ascii = if isOverlong l.ascii then none else some l := by
  unfold readLabel at h
  split at h
  · rename_i start
    obtain ⟨text, read, rfl⟩ := Option.map_eq_some_iff.1 h
    have short : isOverlong s = false := by
      rw [isOverlong, decide_eq_false (Nat.not_lt.2 (of_labelOfPunycode read).2.1), Bool.and_false]
    rw [readLabel, if_pos start, read, short]
    rfl
  · rename_i start
    split at h
    · rename_i ascii
      split at h
      · cases h
      · rename_i allowed
        cases h
        have short : isOverlong s = false := by
          rw [isOverlong, Bool.eq_false_iff.2 start, Bool.false_and]
        rw [readLabel, if_neg start, if_pos ascii, if_neg allowed, short]
        rfl
    · rename_i outside
      obtain ⟨fits, same⟩ := Option.ite_none_right_eq_some.1 h
      cases same
      rw [Bool.and_eq_true, decide_eq_true_eq] at fits
      have mark : asciiMark.isPrefixOf (asciiMark ++ Punycode.encode s) = true :=
        List.isPrefixOf_iff_prefix.2 (List.prefix_append _ _)
      rw [readLabel, if_pos mark, isOverlong, mark, List.drop_left,
        labelOfPunycode_encode outside fits.1 fits.2, Bool.true_and]
      by_cases long : longestPunycode < (Punycode.encode s).length
      · rw [if_pos long, decide_eq_true long]
        rfl
      · rw [if_neg long, decide_eq_false long]
        rfl

/-- Whether a domain name in ASCII form has a label that is too long to be read. -/
def hasOverlong (name : List Char) : Bool := (Text.splitOn '.' name).any isOverlong

variable {name : List Char}

/-- What a domain name in ASCII form is made of. -/
theorem exists_labels_of_toAscii (h : toAscii s = some name) :
    ∃ labels : List Label, labels ≠ [] ∧ directionsFit (labels.map Label.text) = true ∧
      name = Text.joinWith '.' (labels.map Label.ascii) ∧
      ∀ l ∈ labels, (∀ c ∈ l.ascii, isPlain c = true ∧ c ≠ '.') ∧
        readLabel l.ascii = if isOverlong l.ascii then none else some l := by
  unfold toAscii at h
  split at h
  · cases h
  · rename_i labels read
    obtain ⟨fit, same⟩ := Option.ite_none_right_eq_some.1 h
    unfold readLabels at read
    split at read
    · cases read
    · rename_i t _
      refine ⟨labels, ?_, fit, (Option.some.inj same).symm, ?_⟩
      · rintro rfl
        have none := Text.mapM_eq_some_iff.1 read
        rw [List.map_nil, List.map_eq_nil_iff] at none
        exact Text.splitOn_ne_nil '.' t none
      · intro l found
        obtain ⟨p, piece, own⟩ := Text.exists_mem_of_mapM read found
        exact ⟨fun c inside => isPlain_of_mem_ascii own (Text.not_mem_of_mem_splitOn piece) inside,
          readLabel_ascii own⟩

/-- A domain name in ASCII form is made of plain characters. -/
theorem isPlain_of_mem_toAscii {c : Char} (h : toAscii s = some name) (found : c ∈ name) :
    isPlain c = true := by
  obtain ⟨labels, -, -, rfl, each⟩ := exists_labels_of_toAscii h
  rcases Text.mem_joinWith found with rfl | ⟨p, piece, inside⟩
  · decide
  · obtain ⟨l, label, rfl⟩ := List.mem_map.1 piece
    exact ((each l label).1 c inside).1

/-- A domain name in ASCII form is read as itself, unless one of its labels is too long. -/
theorem toAscii_toAscii (h : toAscii s = some name) :
    toAscii name = if hasOverlong name then none else some name := by
  have plain : ∀ c ∈ name, isPlain c = true := fun c => isPlain_of_mem_toAscii h
  obtain ⟨labels, some, fit, rfl, each⟩ := exists_labels_of_toAscii h
  have cut : Text.splitOn '.' (Text.joinWith '.' (labels.map Label.ascii)) = labels.map Label.ascii := by
    refine Text.splitOn_joinWith (by simpa using some) fun p piece point => ?_
    obtain ⟨l, label, rfl⟩ := List.mem_map.1 piece
    exact ((each l label).1 '.' point).2 rfl
  rw [toAscii, readLabels_of_isPlain plain, hasOverlong, cut]
  cases long : (labels.map Label.ascii).any isOverlong with
  | true =>
    -- One label that is not read keeps the whole name from being read.
    obtain ⟨p, piece, overlong⟩ := List.any_eq_true.1 long
    obtain ⟨l, label, rfl⟩ := List.mem_map.1 piece
    have unread : readLabel l.ascii = none := by rw [(each l label).2, if_pos overlong]
    rw [Text.mapM_eq_none_of_mem piece unread]
    rfl
  | false =>
    have read : (labels.map Label.ascii).mapM readLabel = Option.some labels := by
      rw [Text.mapM_eq_some_iff, List.map_map]
      refine List.map_congr_left fun l label => ?_
      have short := List.any_eq_false.1 long l.ascii (List.mem_map_of_mem label)
      rw [Function.comp_apply, (each l label).2, if_neg short]
    rw [read]
    dsimp only
    rw [if_pos fit]
    rfl

/-- Labels in ASCII may stand beside each other. -/
theorem directionsFit_of_ascii {labels : List (List Char)}
    (h : ∀ label ∈ labels, ∀ c ∈ label, c.toNat < 0x80) : directionsFit labels = true := by
  have left : (labels.any fun label => label.any runsRightToLeft) = false := by
    refine List.any_eq_false.2 fun label found some => ?_
    obtain ⟨c, inside, right⟩ := List.any_eq_true.1 some
    have small := h label found c inside
    rw [runsRightToLeft, decide_eq_false (Nat.not_le.2 small), Bool.false_and] at right
    cases right
  rw [directionsFit, left]
  rfl

/-- A domain name of plain characters without Punycode is read as itself. -/
theorem toAscii_of_isPlain (plain : ∀ c ∈ s, isPlain c = true)
    (mark : ∀ label ∈ Text.splitOn '.' s, asciiMark.isPrefixOf label = false) :
    toAscii s = some s := by
  have inside {p : List Char} (piece : p ∈ Text.splitOn '.' s) : ∀ c ∈ p, isPlain c = true :=
    fun c found => plain c (Text.mem_of_mem_splitOn piece found)
  have read : (Text.splitOn '.' s).mapM readLabel =
      some ((Text.splitOn '.' s).map fun p => (⟨p, p⟩ : Label)) := by
    rw [Text.mapM_eq_some_iff, List.map_map]
    refine List.map_congr_left fun p piece => ?_
    have ascii : p.all isAscii = true :=
      List.all_eq_true.2 fun c found => decide_eq_true (lt_of_isPlain (inside piece c found))
    have allowed : p.any isForbidden = false := List.any_eq_false.2 fun c found =>
      Bool.eq_false_iff.1 (not_isForbidden_of_isPlain (inside piece c found))
    rw [readLabel, mark p piece, ascii, allowed]
    rfl
  have texts : ((Text.splitOn '.' s).map fun p => (⟨p, p⟩ : Label)).map Label.text =
      Text.splitOn '.' s := by
    rw [List.map_map]
    exact List.map_id _
  have asciis : ((Text.splitOn '.' s).map fun p => (⟨p, p⟩ : Label)).map Label.ascii =
      Text.splitOn '.' s := by
    rw [List.map_map]
    exact List.map_id _
  have fit := directionsFit_of_ascii fun label piece c found => lt_of_isPlain (inside piece c found)
  rw [toAscii, readLabels_of_isPlain plain, read]
  dsimp only
  rw [texts, asciis, if_pos fit, Text.joinWith_splitOn]

end Detour.Domain
