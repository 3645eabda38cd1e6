import Detour.Proofs.Text.Split
import Detour.Proofs.Url.Percent
import Detour.Url.Path
/-!
# Reading paths back

The segments that remain of a path are escaped, and none of them means a place relative to another.
Main statement: a path that is put together from such segments is read as itself. For the files of
a host there is one exception, a path that starts with the letter of a drive.
-/

namespace Detour.Url

/-- The digits of a byte that is no point are not read as one. -/
theorem readDots_percentByte {b : UInt8} (point : b.toNat ≠ 0x2e) (rest : List Char) :
    readDots (percentByte b ++ rest) = percentByte b ++ rest := by
  have small := b.toNat_lt
  have all : ∀ x ∈ List.range 16, ∀ y ∈ List.range 16, x * 16 + y ≠ 0x2e →
      ¬(x.digitChar.toUpper = '2' ∧ (y.digitChar.toUpper = 'e' ∨ y.digitChar.toUpper = 'E')) := by
    decide
  have digits := all (b.toNat / 16) (List.mem_range.2 (by omega)) (b.toNat % 16)
    (List.mem_range.2 (by omega)) (by omega)
  have written : percentByte b ++ rest =
      '%' :: (b.toNat / 16).digitChar.toUpper :: (b.toNat % 16).digitChar.toUpper :: rest := by
    rw [percentByte, Text.byteDigits, Nat.toDigits_of_lt_base (by omega),
      Nat.toDigits_of_lt_base (by omega)]
    rfl
  rw [written]
  generalize (b.toNat / 16).digitChar.toUpper = x at digits
  generalize (b.toNat % 16).digitChar.toUpper = y at digits
  unfold readDots
  split <;> simp_all

/-- The first byte of a character is that of a point for a point only. -/
theorem exists_cons_encodeChar {c : Char} (h : c ≠ '.') :
    ∃ b more, Text.Utf8.encodeChar c = b :: more ∧ b.toNat ≠ 0x2e := by
  have code : c.toNat ≠ 0x2e := fun e => h (Char.toNat_inj.1 e)
  have valid := Text.Utf8.isValidChar_toNat c
  unfold Text.Utf8.encodeChar
  dsimp only
  split
  · exact ⟨_, _, rfl, by rw [Text.Utf8.toNat_byte (by omega)]; exact code⟩
  split
  · exact ⟨_, _, rfl, by rw [Text.Utf8.toNat_byte (by omega)]; omega⟩
  split
  · exact ⟨_, _, rfl, by rw [Text.Utf8.toNat_byte (by omega)]; omega⟩
  · exact ⟨_, _, rfl, by rw [Text.Utf8.toNat_byte (by omega)]; omega⟩

/-- Where neither a point nor an escaped one stands in front, no point is read. -/
theorem readDots_of_head? {s : List Char} (point : s.head? ≠ some '.')
    (small : ¬['%', '2', 'e'] <+: s) (large : ¬['%', '2', 'E'] <+: s) : readDots s = s := by
  unfold readDots
  split
  · exact absurd (List.prefix_append ['%', '2', 'e'] _) small
  · exact absurd (List.prefix_append ['%', '2', 'E'] _) large
  · exact absurd rfl point
  · rfl

/-- Points are read from an escaped text as from the text itself. -/
theorem readDots_percentEncode (s : List Char) :
    readDots (percentEncode escapedInPath s) = percentEncode escapedInPath (readDots s) := by
  have kept {c : Char} (h : escapedInPath c = false) (rest : List Char) :
      percentEncode escapedInPath (c :: rest) = c :: percentEncode escapedInPath rest := by
    rw [percentEncode_cons, h]
    rfl
  fun_induction readDots s with
  | case1 rest ih =>
    rw [kept (by decide), kept (by decide), kept (by decide), kept (by decide), readDots, ih]
  | case2 rest ih =>
    rw [kept (by decide), kept (by decide), kept (by decide), kept (by decide), readDots, ih]
  | case3 rest ih => rw [kept (by decide), kept (by decide), readDots, ih]
  | case4 s small large point =>
    cases s with
    | nil => rfl
    | cons c rest =>
      have other : c ≠ '.' := fun e => point rest (by rw [e])
      cases escape : escapedInPath c with
      | true =>
        obtain ⟨b, more, bytes, byte⟩ := exists_cons_encodeChar other
        rw [percentEncode_cons, escape, if_pos rfl, bytes, List.flatMap_cons, List.append_assoc]
        exact readDots_percentByte byte _
      | false =>
        -- An escaped point in the result stands there unchanged, and there is none in the text.
        have former {d : Char} (e : d ≠ '%')
            (found : ['%', '2', d] <+: percentEncode escapedInPath (c :: rest)) :
            ∃ after, c :: rest = '%' :: '2' :: d :: after := by
          obtain ⟨t, starts⟩ := found
          rw [kept escape] at starts
          injection starts with percent later
          obtain ⟨_, second, later⟩ := exists_cons_of_percentEncode later.symm (by decide)
          obtain ⟨after, third, _⟩ := exists_cons_of_percentEncode later e
          exact ⟨after, by rw [← percent, second, third]⟩
        refine readDots_of_head? ?_ ?_ ?_
        · rw [kept escape]
          simpa using other
        · intro found
          obtain ⟨after, e⟩ := former (by decide) found
          exact small after e
        · intro found
          obtain ⟨after, e⟩ := former (by decide) found
          exact large after e

/-- An escaped segment stands for the points that the segment stands for. -/
theorem readDots_percentEncode_eq_iff {points : List Char} (s : List Char) (percent : '%' ∉ points)
    (same : percentEncode escapedInPath points = points) :
    readDots (percentEncode escapedInPath s) = points ↔ readDots s = points := by
  rw [readDots_percentEncode]
  constructor
  · exact fun h => eq_of_percentEncode_of_not_mem h percent
  · intro h
    rw [h, same]

/-- A segment is the place where it stands exactly if it is so when it is escaped. -/
theorem isHere_percentEncode (s : List Char) : isHere (percentEncode escapedInPath s) = isHere s :=
  decide_eq_decide.2 (readDots_percentEncode_eq_iff s (by decide) (by decide))

/-- A segment is one level up exactly if it is so when it is escaped. -/
theorem isUp_percentEncode (s : List Char) : isUp (percentEncode escapedInPath s) = isUp s :=
  decide_eq_decide.2 (readDots_percentEncode_eq_iff s (by decide) (by decide))

/-- A segment that is left as it is. -/
structure Settled (special : Bool) (segment : List Char) : Prop where
  /-- It is one segment. -/
  one : ∀ c ∈ segment, isSlash special c = false
  /-- It needs no escaping. -/
  escaped : ∀ c ∈ segment, escapedInPath c = false
  /-- It is not the place where it stands. -/
  notHere : isHere segment = false
  /-- It is not one level up. -/
  notUp : isUp segment = false

/-- Nothing between two slashes is left as it is. -/
theorem settled_nil (special : Bool) : Settled special [] :=
  ⟨List.forall_mem_nil _, List.forall_mem_nil _, rfl, rfl⟩

/-- A segment that is no place relative to another is left as it is once it is escaped. -/
theorem settled_percentEncode {special : Bool} {segment : List Char}
    (one : ∀ c ∈ segment, isSlash special c = false) (notHere : isHere segment = false)
    (notUp : isUp segment = false) : Settled special (percentEncode escapedInPath segment) where
  one c found := by
    have written : ∀ d ∈ escapeChars, isSlash special d = false := by
      cases special
      · exact Text.forall_mem_of_all (by decide)
      · exact Text.forall_mem_of_all (by decide)
    rcases mem_percentEncode found with left | new
    · exact one c left.1
    · exact written c new
  escaped _ found := not_escaped_of_mem_percentEncode escapedInPath_escapeChars found
  notHere := by rw [isHere_percentEncode, notHere]
  notUp := by rw [isUp_percentEncode, notUp]

/-- The segments of a text hold no slashes. -/
theorem isSlash_of_mem_segments {special : Bool} {s segment : List Char} {c : Char}
    (piece : segment ∈ segments special s) (found : c ∈ segment) : isSlash special c = false := by
  obtain ⟨d, -, rfl⟩ := List.mem_map.1 (Text.mem_of_mem_splitOn piece found)
  split at found
  · exact absurd found (Text.not_mem_of_mem_splitOn piece)
  · rename_i other
    rw [if_neg other]
    exact Bool.eq_false_iff.2 other

/-- Settled segments are found again in the text that they make. -/
theorem segments_joinWith {special : Bool} {parts : List (List Char)} (some : parts ≠ [])
    (settled : ∀ p ∈ parts, Settled special p) : segments special (Text.joinWith '/' parts) = parts := by
  have unchanged : (Text.joinWith '/' parts).map (fun c => if isSlash special c then '/' else c) =
      Text.joinWith '/' parts := by
    refine (List.map_congr_left fun c found => ?_).trans (List.map_id _)
    rcases Text.mem_joinWith found with rfl | ⟨p, piece, inside⟩
    · simp [isSlash]
    · rw [(settled p piece).one c inside]
      rfl
  rw [segments, unchanged]
  refine Text.splitOn_joinWith some fun p piece slash => ?_
  have other := (settled p piece).one '/' slash
  simp [isSlash] at other

/-- Going up drops segments only. -/
theorem mem_of_mem_goUp {done : List (List Char)} {p : List Char} (h : p ∈ goUp done) : p ∈ done := by
  unfold goUp at h
  split at h
  · exact h
  · split at h
    · exact h
    · exact List.mem_cons_of_mem _ h

/-- All segments that remain are left as they are. -/
theorem settled_resolve {special : Bool} {done parts : List (List Char)}
    (before : ∀ p ∈ done, Settled special p)
    (pieces : ∀ p ∈ parts, ∀ c ∈ p, isSlash special c = false) :
    ∀ p ∈ resolve done parts, Settled special p := by
  have empty := settled_nil special
  have cons {p : List Char} {rest : List (List Char)} (own : Settled special p)
      (others : ∀ q ∈ rest, Settled special q) : ∀ q ∈ p :: rest, Settled special q :=
    List.forall_mem_cons.2 ⟨own, others⟩
  have up (done : List (List Char)) (h : ∀ p ∈ done, Settled special p) :
      ∀ p ∈ goUp done, Settled special p := fun p found => h p (mem_of_mem_goUp found)
  fun_induction resolve done parts with
  | case1 done => exact cons empty before
  | case2 done last isUp => exact cons empty (up done before)
  | case3 done last isUp isHere => exact cons empty before
  | case4 done last notUp notHere =>
    have own := List.forall_mem_singleton.1 pieces
    exact cons (settled_percentEncode own (Bool.eq_false_iff.2 notHere) (Bool.eq_false_iff.2 notUp))
      before
  | case5 done segment rest more isUp ih =>
    exact ih (up done before) (List.forall_mem_cons.1 pieces).2
  | case6 done segment rest more notUp isHere ih => exact ih before (List.forall_mem_cons.1 pieces).2
  | case7 done segment rest more notUp notHere ih =>
    obtain ⟨own, others⟩ := List.forall_mem_cons.1 pieces
    exact ih (cons (settled_percentEncode own (Bool.eq_false_iff.2 notHere)
      (Bool.eq_false_iff.2 notUp)) before) others

/-- Something remains of every path. -/
theorem resolve_ne_nil (done parts : List (List Char)) : resolve done parts ≠ [] := by
  fun_induction resolve done parts with
  | case1 | case2 | case3 | case4 => exact List.cons_ne_nil _ _
  | case5 _ _ _ _ _ ih | case6 _ _ _ _ _ _ ih | case7 _ _ _ _ _ _ ih => exact ih

/-- Settled segments all remain. -/
theorem resolve_of_settled {special : Bool} {parts : List (List Char)} (some : parts ≠ [])
    (settled : ∀ p ∈ parts, Settled special p) (done : List (List Char)) :
    resolve done parts = parts.reverse ++ done := by
  induction parts generalizing done with
  | nil => exact absurd rfl some
  | cons p rest ih =>
    obtain ⟨own, others⟩ := List.forall_mem_cons.1 settled
    have encoded := percentEncode_of_forall own.escaped
    cases rest with
    | nil => simp [resolve, own.notUp, own.notHere, encoded]
    | cons q rest =>
      have later := ih (List.cons_ne_nil q rest) others (p :: done)
      simp [resolve, own.notUp, own.notHere, encoded, later]

/-- Settled segments all remain. -/
theorem resolved_of_settled {special : Bool} {parts : List (List Char)} (some : parts ≠ [])
    (settled : ∀ p ∈ parts, Settled special p) : resolved parts = parts := by
  rw [resolved, resolve_of_settled some settled, List.append_nil, List.reverse_reverse]

/-- A path that is put together from settled segments. -/
def IsPath (special : Bool) (path : List Char) : Prop :=
  ∃ parts, parts ≠ [] ∧ (∀ p ∈ parts, Settled special p) ∧ path = slashed parts

/-- What remains of the segments of a text is settled. -/
theorem settled_resolved (special : Bool) (s : List Char) :
    ∀ p ∈ resolved (segments special s), Settled special p := by
  intro p found
  refine settled_resolve (List.forall_mem_nil _) (fun q piece c inside => ?_) p
    (List.mem_reverse.1 found)
  exact isSlash_of_mem_segments piece inside

/-- Something remains of the segments of a text. -/
theorem resolved_ne_nil (parts : List (List Char)) : resolved parts ≠ [] := by
  rw [resolved, ne_eq, List.reverse_eq_nil_iff]
  exact resolve_ne_nil [] parts

/-- What remains of a text is a path. -/
theorem isPath_resolved (special : Bool) (s : List Char) :
    IsPath special (slashed (resolved (segments special s))) :=
  ⟨_, resolved_ne_nil _, settled_resolved special s, rfl⟩

/-- The path of a URL with a well-known scheme is put together from settled segments. -/
theorem isPath_specialPath (s : List Char) : IsPath true (specialPath s) := isPath_resolved true _

/-- So is the path of a URL with an unknown scheme, if there is one. -/
theorem isPath_plainPath {s : List Char} (some : s ≠ []) : IsPath false (plainPath s) := by
  unfold plainPath
  split
  · exact absurd rfl some
  · exact isPath_resolved false _
  · exact isPath_resolved false _

/-- In a URL with a well-known scheme settled segments are read as themselves. -/
theorem specialPath_of_isPath {path : List Char} (h : IsPath true path) : specialPath path = path := by
  obtain ⟨parts, some, settled, rfl⟩ := h
  change slashed (resolved (segments true (Text.joinWith '/' parts))) = slashed parts
  rw [segments_joinWith some settled, resolved_of_settled some settled]

/-- In a URL with an unknown scheme settled segments are read as themselves. -/
theorem plainPath_of_isPath {path : List Char} (h : IsPath false path) : plainPath path = path := by
  obtain ⟨parts, some, settled, rfl⟩ := h
  change slashed (resolved (segments false (Text.joinWith '/' parts))) = slashed parts
  rw [segments_joinWith some settled, resolved_of_settled some settled]

/-- A path needs no escaping. -/
theorem not_escaped_of_mem_path {special : Bool} {path : List Char} {c : Char}
    (h : IsPath special path) (found : c ∈ path) : escapedInPath c = false := by
  obtain ⟨parts, -, settled, rfl⟩ := h
  rcases List.mem_cons.1 found with rfl | inside
  · decide
  · rcases Text.mem_joinWith inside with rfl | ⟨p, piece, own⟩
    · decide
    · exact (settled p piece).escaped c own

/-- A path of a file: no empty segment stands in front of another one. -/
def IsFilePath (path : List Char) : Prop :=
  ∃ first rest, (∀ p ∈ first :: rest, Settled true p) ∧ (first = [] → rest = []) ∧
    path = slashed (first :: rest)

/-- Whether the first segment of a path is the letter of a drive. -/
def startsAtDrive (path : List Char) : Bool := isDrive ((path.drop 1).takeWhile (· ≠ '/'))

/-- A path of a file is a path. -/
theorem IsFilePath.isPath {path : List Char} (h : IsFilePath path) : IsPath true path := by
  obtain ⟨first, rest, settled, -, rfl⟩ := h
  exact ⟨first :: rest, List.cons_ne_nil _ _, settled, rfl⟩

/-- A path without its first slash. -/
def withoutSlash (s : List Char) : List Char :=
  match s with
  | c :: rest => if isSlash true c then rest else c :: rest
  | [] => []

/-- How the path of a file is read from the segments behind its first slash. -/
theorem filePath_eq (s : List Char) :
    filePath s =
      if startsWithDrive [] (segments true (withoutSlash s)) then none
      else
        let kept := (resolved (segments true (withoutSlash s))).dropWhile List.isEmpty
        some (slashed (if kept.isEmpty then [[]] else kept)) := rfl

/-- The path of a file has no empty segments in front. -/
theorem isFilePath_of_filePath {s path : List Char} (h : filePath s = some path) : IsFilePath path := by
  have settled := settled_resolved true (withoutSlash s)
  rw [filePath_eq] at h
  generalize segments true (withoutSlash s) = parts at h settled
  dsimp only at h
  split at h
  · cases h
  cases h
  split
  · exact ⟨[], [], List.forall_mem_singleton.2 (settled_nil true), fun _ => rfl, rfl⟩
  · rename_i some
    obtain ⟨first, rest, kept⟩ := List.exists_cons_of_ne_nil fun e => some (List.isEmpty_iff.2 e)
    refine ⟨first, rest, fun p found => settled p ?_, fun empty => ?_, by rw [kept]⟩
    · rw [← kept] at found
      exact (List.dropWhile_sublist _).subset found
    · have full := List.head?_dropWhile_not List.isEmpty (resolved parts)
      rw [kept, empty] at full
      cases full

/-- No segment behind another one is the letter of a drive in front. -/
theorem startsWithDrive_of_ne_nil {done parts : List (List Char)} (some : done ≠ [])
    (settled : ∀ p ∈ parts, Settled true p) : startsWithDrive done parts = false := by
  induction parts generalizing done with
  | nil => rfl
  | cons p rest ih =>
    obtain ⟨own, others⟩ := List.forall_mem_cons.1 settled
    have before : done.isEmpty = false := by simpa using some
    rw [startsWithDrive, own.notUp, own.notHere, before, ih (List.cons_ne_nil p done) others]
    rfl

/-- A path of a file is read as itself, unless it starts with the letter of a drive. -/
theorem filePath_of_isFilePath {path : List Char} (h : IsFilePath path) :
    filePath path = if startsAtDrive path then none else some path := by
  obtain ⟨first, rest, settled, full, rfl⟩ := h
  have some := List.cons_ne_nil first rest
  have own := (List.forall_mem_cons.1 settled).1
  have others := (List.forall_mem_cons.1 settled).2
  have drive : startsWithDrive [] (first :: rest) = isDrive first := by
    rw [startsWithDrive, own.notUp, own.notHere,
      startsWithDrive_of_ne_nil (List.cons_ne_nil first []) others]
    simp
  have head : startsAtDrive (slashed (first :: rest)) = isDrive first := by
    have noSlash : ∀ c ∈ first, decide (c ≠ '/') = true := by
      intro c found
      rw [decide_eq_true_eq]
      rintro rfl
      have other := own.one '/' found
      simp [isSlash] at other
    obtain ⟨tail, stop, joined⟩ : ∃ tail, (∀ c ∈ tail.head?, decide (c ≠ '/') = false) ∧
        Text.joinWith '/' (first :: rest) = first ++ tail := by
      cases rest with
      | nil => exact ⟨[], by simp, by simp⟩
      | cons q rest => exact ⟨_, by simp, Text.joinWith_cons '/' first (List.cons_ne_nil q rest)⟩
    change isDrive ((Text.joinWith '/' (first :: rest)).takeWhile _) = _
    rw [joined, Text.takeWhile_append_of_head? noSlash stop]
  have read : segments true (Text.joinWith '/' (first :: rest)) = first :: rest :=
    segments_joinWith some settled
  have behind : withoutSlash (slashed (first :: rest)) = Text.joinWith '/' (first :: rest) := rfl
  rw [filePath_eq, behind, read, resolved_of_settled some settled, drive, head]
  cases first with
  | nil =>
    rw [full rfl]
    rfl
  | cons c first => rfl

end Detour.Url
