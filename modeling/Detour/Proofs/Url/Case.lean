import Detour.Proofs.Text.Case
import Detour.Proofs.Url.Read
/-!
# Letter case in URLs

The host of a URL comes to the same in large and in small letters, each kind of host for a reason of its own:
the digits of an address have either case, a domain name is mapped to small letters, and what is
written with percent signs is mapped behind them. Main statement: a text is read as the text in which the
part up to the path is in small letters, whether this part has a scheme in it or stands behind one.
-/

namespace Detour

open Text (lowered lowered_cons lowered_append)

/-! ### Addresses -/

namespace Address

/-- A byte has digits only. -/
theorem Ipv4.parseByte_lowered (s : List Char) : parseByte (lowered s) = parseByte s := by
  have zero : decide ((lowered s).head? = some '0') = decide (s.head? = some '0') :=
    decide_eq_decide.2 (Text.head?_lowered_eq_iff (by decide))
  rw [parseByte, parseByte, Text.length_lowered, zero, Text.ofDigits?_lowered]

/-- An address of four bytes has digits and points only. -/
theorem Ipv4.parseDotted_lowered (s : List Char) : parseDotted (lowered s) = parseDotted s := by
  have bytes : parseByte ∘ lowered = parseByte := funext parseByte_lowered
  rw [parseDotted, parseDotted, Text.splitOn_lowered (by decide), List.mapM_map, bytes]

namespace Ipv6

/-- The digits of a group are large or small letters. -/
theorem parseGroup_lowered (s : List Char) : parseGroup (lowered s) = parseGroup s := by
  rw [parseGroup, parseGroup, Text.length_lowered, Text.ofDigits?_lowered]

/-- The digits of groups are large or small letters. -/
theorem parseGroups_map_lowered (pieces : List (List Char)) :
    parseGroups (pieces.map lowered) = parseGroups pieces := by
  induction pieces with
  | nil => rfl
  | cons s rest ih =>
    cases rest with
    | nil =>
      rw [List.map_singleton, parseGroups, parseGroups, parseGroup_lowered, Ipv4.parseDotted_lowered]
    | cons t rest =>
      rw [List.map_cons] at ih
      simp only [List.map_cons, parseGroups, parseGroup_lowered, ih]

/-- The digits on one side of the gap are large or small letters. -/
theorem parseSide_lowered (s : List Char) : parseSide (lowered s) = parseSide s := by
  rw [parseSide, parseSide, Text.isEmpty_lowered, Text.splitOn_lowered (by decide),
    parseGroups_map_lowered]

/-- The gap stands where it does in small letters. -/
theorem splitGapFrom_lowered (before s : List Char) :
    splitGapFrom (lowered before) (lowered s) =
      (splitGapFrom before s).map (Prod.map lowered lowered) := by
  induction s generalizing before with
  | nil => rfl
  | cons c rest ih =>
    by_cases gap : c = ':' ∧ rest.head? = some ':'
    · obtain ⟨rfl, next⟩ := gap
      obtain ⟨after, rfl⟩ := List.head?_eq_some_iff.1 next
      exact congrArg (fun front => some (front, lowered after)) (Text.reverse_lowered before)
    · have kept : ¬(c.toLower = ':' ∧ (lowered rest).head? = some ':') := by
        rw [Text.toLower_eq_iff (by decide), Text.head?_lowered_eq_iff (by decide)]
        exact gap
      rw [lowered_cons, splitGapFrom_cons kept, splitGapFrom_cons gap]
      exact ih (c :: before)

/-- The digits of an address are large or small letters. -/
theorem parse_lowered (s : List Char) : parse (lowered s) = parse s := by
  have gap : splitGap (lowered s) = (splitGap s).map (Prod.map lowered lowered) :=
    splitGapFrom_lowered [] s
  rw [parse, parse, gap]
  cases splitGap s with
  | none =>
    dsimp only [Option.map_none]
    rw [Text.splitOn_lowered (by decide), parseGroups_map_lowered]
  | some sides =>
    have point : '.' ∈ lowered sides.1 ↔ '.' ∈ sides.1 := Text.mem_lowered_iff (by decide)
    simp only [Option.map_some, Prod.map, parseSide_lowered, point]

end Ipv6

end Address

/-! ### Hosts -/

namespace Domain

/-- A domain name is read in small letters. -/
theorem mapText_lowered (s : List Char) : mapText (lowered s) = mapText s := by
  have mapped (c : Char) : mapping c.toLower = mapping c := by
    by_cases ascii : c.toNat < 0x80
    · have below : c.toLower.toNat < 0x80 :=
        Text.forall_of_ascii (P := fun d => d.toLower.toNat < 0x80) (by decide) ascii
      rw [mapping_of_ascii below, mapping_of_ascii ascii, Text.toLower_toLower]
    · rw [Text.toLower_of_le (Nat.not_lt.1 ascii)]
  induction s with
  | nil => rfl
  | cons c s ih => rw [lowered_cons, mapText_cons, mapText_cons, mapped, ih]

/-- A domain name is read in small letters. -/
theorem toAscii_lowered (s : List Char) : toAscii (lowered s) = toAscii s := by
  rw [toAscii, toAscii, readLabels, readLabels, normalize, normalize, mapText_lowered]

end Domain

namespace Url

open Text.Utf8 (lowerByte)

/-- Bytes that are written with percent signs may have large or small digits. -/
theorem percentDecodeFrom_lowered {done other : List UInt8}
    (same : done.map lowerByte = other.map lowerByte) (s : List Char) :
    (percentDecodeFrom done (lowered s)).map lowerByte = (percentDecodeFrom other s).map lowerByte := by
  fun_induction percentDecodeFrom other s generalizing done with
  | case1 other => simp [percentDecodeFrom, same]
  | case2 other a b rest x y first second ih =>
    have sign : '%'.toLower = '%' := rfl
    rw [← Text.digit?_toLower] at first second
    simp only [lowered_cons, sign, percentDecodeFrom, first, second]
    exact ih (by simp [same])
  | case3 other a b rest unread ih =>
    have sign : '%'.toLower = '%' := rfl
    simp only [lowered_cons, sign, percentDecodeFrom, Text.digit?_toLower]
    exact ih (by simp [same])
  | case4 other c rest plain ih =>
    have kept (a b : Char) (after : List Char) (sign : c.toLower = '%')
        (written : lowered rest = a :: b :: after) : False := by
      obtain ⟨d, others, rfl, -, later⟩ := List.map_eq_cons_iff.1 written
      obtain ⟨e, behind, rfl, -, -⟩ := List.map_eq_cons_iff.1 later
      exact plain d e behind ((Text.toLower_eq_iff (by decide)).1 sign) rfl
    rw [lowered_cons, percentDecodeFrom]
    · refine ih ?_
      rw [List.map_append, List.map_append, List.map_reverse, List.map_reverse,
        Text.Utf8.encodeChar_toLower, List.map_map, same]
      congr 2
      exact List.map_congr_left fun b _ => Text.Utf8.lowerByte_lowerByte b
    · exact kept

/-- A text with its percent signs read differs in letter case only. -/
theorem decodedText_lowered (s : List Char) :
    (decodedText (lowered s)).map lowered = (decodedText s).map lowered := by
  have bytes : (percentDecode (lowered s)).map lowerByte = (percentDecode s).map lowerByte :=
    percentDecodeFrom_lowered rfl s
  have percent : '%' ∈ lowered s ↔ '%' ∈ s := Text.mem_lowered_iff (by decide)
  unfold decodedText
  rw [if_congr percent rfl rfl]
  split
  · rw [← Text.Utf8.toOption_decode_map, bytes, Text.Utf8.toOption_decode_map]
  · rw [Option.map_some, Text.lowered_lowered]
    rfl

/-- The host that a text is depends on the text in small letters. -/
theorem readDomain_eq (s : List Char) :
    readDomain s = ((decodedText s).map lowered).bind fun t => (Domain.toAscii t).bind hostOfName := by
  unfold readDomain
  cases decodedText s with
  | none => rfl
  | some t =>
    rw [Option.map_some, Option.bind_some, Domain.toAscii_lowered]
    dsimp only
    cases Domain.toAscii t <;> rfl

/-- An address between brackets has large or small digits. -/
theorem bracketed_lowered (s : List Char) : bracketed (lowered s) = bracketed s := by
  have inside : ((lowered s).drop 1).dropLast = lowered (s.drop 1).dropLast := by
    rw [lowered, lowered, List.map_dropLast, List.map_drop]
  have last : (lowered s).getLast? = some ']' ↔ s.getLast? = some ']' :=
    Text.getLast?_lowered_eq_iff (by decide)
  rw [bracketed, bracketed, inside, Address.Ipv6.parse_lowered, if_congr last rfl rfl]

/-- A host is the same in large and in small letters. -/
theorem readHost_lowered (s : List Char) : readHost (lowered s) = readHost s := by
  have first : (lowered s).head? = some '[' ↔ s.head? = some '[' :=
    Text.head?_lowered_eq_iff (by decide)
  rw [readHost, readHost, bracketed_lowered, readDomain_eq, decodedText_lowered, ← readDomain_eq,
    if_congr first rfl rfl]

/-- The host ends where it does in small letters. -/
theorem splitHostFrom_lowered (inBrackets : Bool) (before s : List Char) :
    splitHostFrom inBrackets (lowered before) (lowered s) =
      Prod.map lowered lowered (splitHostFrom inBrackets before s) := by
  induction s generalizing inBrackets before with
  | nil =>
    exact congrArg (·, []) (Text.reverse_lowered before)
  | cons c rest ih =>
    have opens : c.toLower = '[' ↔ c = '[' := Text.toLower_eq_iff (by decide)
    have closes : c.toLower = ']' ↔ c = ']' := Text.toLower_eq_iff (by decide)
    have colon : c.toLower = ':' ↔ c = ':' := Text.toLower_eq_iff (by decide)
    rw [lowered_cons, splitHostFrom, splitHostFrom]
    simp only [opens, closes, colon]
    split
    · rw [Text.reverse_lowered]
      rfl
    · exact ih _ (c :: before)

/-- The host ends where it does in small letters. -/
theorem splitHost_lowered (s : List Char) :
    splitHost (lowered s) = Prod.map lowered lowered (splitHost s) :=
  splitHostFrom_lowered false [] s

/-- What stands behind the host is the end of the text, from a colon on. -/
theorem splitHostFrom_snd (inBrackets : Bool) (before s : List Char) :
    (splitHostFrom inBrackets before s).2 <:+ s ∧
      ∀ c ∈ (splitHostFrom inBrackets before s).2.head?, c = ':' := by
  induction s generalizing inBrackets before with
  | nil => exact ⟨List.suffix_rfl, nofun⟩
  | cons c rest ih =>
    rw [splitHostFrom]
    split
    · rename_i colon
      exact ⟨List.suffix_rfl, fun d found => (Option.some.inj found).symm.trans colon.1⟩
    · obtain ⟨inside, first⟩ := ih _ (c :: before)
      exact ⟨inside.trans (List.suffix_cons c rest), first⟩

/-- A port has digits only. -/
theorem readPort_lowered {s : List Char} (colon : ∀ c ∈ s.head?, c = ':') (back : '\\' ∉ s) :
    readPort (lowered s) = readPort s := by
  cases s with
  | nil => rfl
  | cons c rest =>
    obtain rfl := colon c rfl
    have digits := Text.takeWhile_lowered Text.isDigit_toLower rest
    have after := Text.dropWhile_lowered Text.isDigit_toLower rest
    have sign : ':'.toLower = ':' := rfl
    rw [lowered_cons, sign, readPort, readPort, digits, after, Text.isEmpty_lowered,
      Text.isEmpty_lowered, Text.digitsFrom?_lowered]
    cases tail : rest.dropWhile Char.isDigit with
    | nil => rfl
    | cons d more =>
      have other : d ≠ '\\' := by
        rintro rfl
        have inside : '\\' ∈ rest.dropWhile Char.isDigit := by simp [tail]
        exact back (List.mem_cons_of_mem _ ((List.dropWhile_suffix _).subset inside))
      have kept : d.toLower ≠ '\\' := mt (Text.toLower_eq_iff (by decide)).1 other
      simp [other, kept]

/-! ### URLs -/

/-- The characters of a host and a port: they do not end this part of a URL, and none of them is a blank
or a control that a URL does not start with. -/
def isServerChar (c : Char) : Bool := !isEdge c && !decide (c ∈ "#/?@\\".toList)

/-- Letter case does not matter for where a host and a port end. -/
theorem isServerChar_toLower (c : Char) : isServerChar c.toLower = isServerChar c :=
  Text.apply_toLower (by decide) c

/-- No character of a host and a port ends this part of a URL. -/
theorem not_mem_of_isServerChar {c : Char} (h : isServerChar c = true) : c ∉ "#/?@\\".toList := by
  rw [isServerChar, Bool.and_eq_true, Bool.not_eq_true', Bool.not_eq_true', decide_eq_false_iff_not] at h
  exact h.2

/-- No character of a host and a port is dropped at the ends of a URL. -/
theorem isEdge_of_isServerChar {c : Char} (h : isServerChar c = true) : isEdge c = false := by
  rw [isServerChar, Bool.and_eq_true, Bool.not_eq_true'] at h
  exact h.1

/-- What may follow a host and a port. -/
def IsTail (s : List Char) : Prop := ∀ c ∈ s.head?, c ∈ "#/?".toList

variable {server rest : List Char}

/-- What holds of the signs that end a host holds of the first character behind a host. -/
theorem IsTail.of_all {P : Char → Prop} [DecidablePred P] (h : IsTail rest)
    (all : "#/?".toList.all (fun c => decide (P c)) = true) : ∀ c ∈ rest.head?, P c :=
  fun c found => Text.forall_mem_of_all all c (h c found)

/-- A host and a port in small letters are a host and a port. -/
theorem isServerChar_of_mem_lowered (h : ∀ c ∈ server, isServerChar c = true) :
    ∀ c ∈ lowered server, isServerChar c = true :=
  (Text.forall_mem_lowered_iff fun c => by rw [isServerChar_toLower]).2 h

/-- The part of a URL up to the port is the same in large and in small letters. -/
theorem readAuthority_lowered (scheme : List Char) (h : ∀ c ∈ server, isServerChar c = true)
    (tail : IsTail rest) :
    readAuthority scheme true (lowered server ++ rest) = readAuthority scheme true (server ++ rest) := by
  have free {s : List Char} (h : ∀ c ∈ s, isServerChar c = true) :
      ∀ c ∈ s, (!endsAuthority true c) = true := fun c found => by
    rw [not_endsAuthority (not_mem_of_isServerChar (h c found))]
    rfl
  have ends : ∀ c ∈ rest.head?, (!endsAuthority true c) = false := tail.of_all (by decide)
  have user {s : List Char} (h : ∀ c ∈ s, isServerChar c = true) : '@' ∉ s := fun found =>
    absurd (h '@' found) (by decide)
  have unnamed (s : List Char) : ¬((none : Option (List Char)) = some [] ∧ s = [] ∧ rest ≠ []) :=
    fun e => nomatch e.1
  have small := isServerChar_of_mem_lowered h
  obtain ⟨inside, colon⟩ : (splitHost server).2 <:+ server ∧ ∀ c ∈ (splitHost server).2.head?, c = ':' :=
    splitHostFrom_snd false [] server
  rcases cut : splitHost server with ⟨host, port⟩
  rw [cut] at inside colon
  have parts : splitHost (lowered server) = (lowered host, lowered port) := by
    rw [splitHost_lowered, cut]
    rfl
  have back : '\\' ∉ port := fun found => absurd (h '\\' (inside.subset found)) (by decide)
  -- Both texts are cut at the same places, and then the host and the port are read alike.
  rw [readAuthority, readAuthority, Text.takeWhile_append_of_head? (free small) ends,
    Text.dropWhile_append_of_head? (free small) ends, Text.takeWhile_append_of_head? (free h) ends,
    Text.dropWhile_append_of_head? (free h) ends, splitUser_of_not_mem (user small),
    splitUser_of_not_mem (user h)]
  dsimp only
  rw [parts, cut]
  dsimp only
  rw [if_neg (unnamed _), if_neg (unnamed _), Text.isEmpty_lowered, hostOf, hostOf, if_pos rfl,
    if_pos rfl, readHost_lowered, readPort_lowered colon back]
  simp only [Bool.true_or]

/-- A host does not start with a slash. -/
theorem isSlash_of_head?_server (h : ∀ c ∈ server, isServerChar c = true) (some : server ≠ [])
    (rest : List Char) : ∀ c ∈ (server ++ rest).head?, isSlash true c = false := by
  obtain ⟨c, others, rfl⟩ := List.exists_cons_of_ne_nil some
  intro d found
  obtain rfl : c = d := Option.some.inj found
  have free : endsAuthority true c = false :=
    not_endsAuthority (not_mem_of_isServerChar (h c List.mem_cons_self))
  rw [endsAuthority, Bool.or_eq_false_iff] at free
  exact free.2

/-- The part of a URL up to the port is the same in large and in small letters, also behind slashes. -/
theorem readAuthority_dropWhile_lowered (scheme : List Char)
    (h : ∀ c ∈ server, isServerChar c = true) (tail : IsTail rest) :
    readAuthority scheme true ((lowered server ++ rest).dropWhile (isSlash true)) =
      readAuthority scheme true ((server ++ rest).dropWhile (isSlash true)) := by
  cases server with
  | nil => rfl
  | cons c others =>
    have small := isServerChar_of_mem_lowered h
    rw [Text.dropWhile_of_head? (isSlash_of_head?_server h (List.cons_ne_nil c others) rest),
      Text.dropWhile_of_head? (isSlash_of_head?_server small (List.cons_ne_nil _ _) rest)]
    exact readAuthority_lowered scheme h tail

/-- What a text is by what follows its scheme. -/
def readBehind (scheme rest : List Char) : Outcome :=
  if isFile scheme then readFile scheme rest
  else if (usualPort scheme).isSome then
    readAuthority scheme true (rest.dropWhile (isSlash true))
  else match rest with
    | '/' :: '/' :: rest => readAuthority scheme false rest
    | _ => .hostless

/-- A text is read by its scheme and what follows it. -/
theorem read_eq (s : List Char) : read s = match splitScheme (clean s) with
    | none => .relative
    | some (scheme, rest) => readBehind scheme rest := rfl

/-- Behind the schemes with a usual port stands the part up to the port. -/
theorem readBehind_of_isSome {scheme : List Char} (known : (usualPort scheme).isSome = true)
    (s : List Char) : readBehind scheme s = readAuthority scheme true (s.dropWhile (isSlash true)) := by
  have noFile : isFile scheme = false := by
    refine decide_eq_false ?_
    rintro rfl
    cases known
  unfold readBehind
  rw [noFile, if_neg Bool.false_ne_true, if_pos known]

/-- Without slashes there is no host, unless the scheme is one of those with a usual port. -/
theorem readBehind_of_head? {scheme s : List Char} (unknown : (usualPort scheme).isSome = false)
    (first : ∀ c ∈ s.head?, isSlash true c = false) : readBehind scheme s = .hostless := by
  unfold readBehind
  rw [unknown, if_neg Bool.false_ne_true]
  cases s with
  | nil => cases isFile scheme <;> rfl
  | cons c s =>
    have own := first c rfl
    split
    · cases s with
      | nil => rfl
      | cons d s => rw [readFile, own, Bool.false_and, if_neg Bool.false_ne_true]
    · split
      · rename_i whole
        cases whole
        cases (show isSlash true '/' = true from rfl).symm.trans own
      · rfl

/-- What follows a scheme is the same in large and in small letters. -/
theorem readBehind_lowered (scheme : List Char) (h : ∀ c ∈ server, isServerChar c = true)
    (tail : IsTail rest) :
    readBehind scheme (lowered server ++ rest) = readBehind scheme (server ++ rest) := by
  cases known : (usualPort scheme).isSome with
  | true =>
    rw [readBehind_of_isSome known, readBehind_of_isSome known,
      readAuthority_dropWhile_lowered scheme h tail]
  | false =>
    by_cases none : server = []
    · rw [none]
      rfl
    · have small := isServerChar_of_mem_lowered h
      have some : lowered server ≠ [] := by rwa [Ne, lowered, List.map_eq_nil_iff]
      rw [readBehind_of_head? known (isSlash_of_head?_server h none rest),
        readBehind_of_head? known (isSlash_of_head?_server small some rest)]

/-- What holds no blanks and controls is kept in front of what ends a host. -/
theorem clean_append {front : List Char} (kept : ∀ c ∈ front, isEdge c = false)
    (tail : IsTail rest) : clean (front ++ rest) = front ++ clean rest := by
  have all : ∀ c ∈ front, (!isIgnored c) = true := fun c found => by
    rw [isIgnored_of_isEdge (kept c found)]
    rfl
  have stripped := Text.strip_append kept (tail.of_all (P := fun c => isEdge c = false) (by decide))
  calc clean (front ++ rest) = (Text.strip isEdge (front ++ rest)).filter (!isIgnored ·) := rfl
    _ = front ++ (Text.strip isEdge rest).filter (!isIgnored ·) := by
      rw [stripped, List.filter_append, List.filter_eq_self.2 all]

/-- What is kept of a text starts as the text does. -/
theorem IsTail.clean (tail : IsTail rest) : IsTail (clean rest) := by
  have edge : ∀ c ∈ rest.head?, isEdge c = false := tail.of_all (by decide)
  have same : (Text.strip isEdge rest).head? = rest.head? := Text.head?_strip edge
  have whole : Url.clean rest = (Text.strip isEdge rest).filter (!isIgnored ·) := rfl
  rw [IsTail, whole]
  cases stripped : Text.strip isEdge rest with
  | nil => exact nofun
  | cons c others =>
    have first : c ∈ rest.head? := by
      rw [← same, stripped]
      rfl
    have kept : (!isIgnored c) = true := by
      rw [isIgnored_of_isEdge (edge c first)]
      rfl
    rw [List.filter_cons, if_pos kept]
    rintro d ⟨⟩
    exact tail c first

/-- The scheme is found in front of what ends a host. -/
theorem splitScheme_server (server : List Char) (tail : IsTail rest) :
    splitScheme (server ++ rest) =
      (splitScheme server).map fun parts => (parts.1, parts.2 ++ rest) := by
  have letter : ∀ c ∈ rest.head?, c.isAlpha = false := tail.of_all (by decide)
  have colon : ∀ c ∈ rest.head?, c ≠ ':' := tail.of_all (by decide)
  have sign : ∀ c ∈ rest.head?, isSchemeChar c = false := tail.of_all (by decide)
  have first : (server ++ rest).head?.any Char.isAlpha = server.head?.any Char.isAlpha := by
    cases server with
    | nil =>
      cases rest with
      | nil => rfl
      | cons c after => exact letter c rfl
    | cons c others => rfl
  obtain ⟨own, back, rfl, chars, stop⟩ : ∃ own back, server = own ++ back ∧
      (∀ c ∈ own, isSchemeChar c = true) ∧ ∀ c ∈ back.head?, isSchemeChar c = false := by
    refine ⟨server.takeWhile isSchemeChar, server.dropWhile isSchemeChar,
      List.takeWhile_append_dropWhile.symm, fun c => List.mem_takeWhile_imp, fun c found => ?_⟩
    have head := List.head?_dropWhile_not isSchemeChar server
    rw [Option.mem_def.1 found] at head
    simpa using head
  have stops : ∀ c ∈ (back ++ rest).head?, isSchemeChar c = false := by
    cases back with
    | nil => exact sign
    | cons c others => exact stop
  rw [splitScheme, splitScheme, first, List.append_assoc, Text.dropWhile_append_of_head? chars stops,
    Text.takeWhile_append_of_head? chars stops, Text.dropWhile_append_of_head? chars stop,
    Text.takeWhile_append_of_head? chars stop]
  split
  · cases back with
    | nil =>
      cases rest with
      | nil => rfl
      | cons c after => simp [colon c rfl]
    | cons c others =>
      by_cases mark : c = ':'
      · rw [mark]
        rfl
      · simp [mark]
  · rfl

/-- A scheme may be in large or in small letters. -/
theorem isSchemeChar_toLower (c : Char) : isSchemeChar c.toLower = isSchemeChar c :=
  Text.apply_toLower (by decide) c

/-- The scheme is in small letters. -/
theorem splitScheme_lowered (s : List Char) :
    splitScheme (lowered s) = (splitScheme s).map fun parts => (parts.1, lowered parts.2) := by
  have first : (lowered s).head?.any Char.isAlpha = s.head?.any Char.isAlpha := by
    cases s with
    | nil => rfl
    | cons c s => exact Text.isAlpha_toLower c
  rw [splitScheme, splitScheme, first, Text.dropWhile_lowered isSchemeChar_toLower,
    Text.takeWhile_lowered isSchemeChar_toLower]
  split
  · have name : (lowered (s.takeWhile isSchemeChar)).map Char.toLower =
        (s.takeWhile isSchemeChar).map Char.toLower := Text.lowered_lowered _
    rw [name]
    cases s.dropWhile isSchemeChar with
    | nil => rfl
    | cons c rest =>
      by_cases colon : c = ':'
      · rw [colon]
        rfl
      · have kept : c.toLower ≠ ':' := mt (Text.toLower_eq_iff (by decide)).1 colon
        simp [colon, kept]
  · rfl

/-- A text is read as the text in which a host and a port, or the scheme of one, are in small letters. -/
theorem read_lowered (h : ∀ c ∈ server, isServerChar c = true)
    (tail : IsTail rest) : read (lowered server ++ rest) = read (server ++ rest) := by
  have kept {s : List Char} (h : ∀ c ∈ s, isServerChar c = true) : ∀ c ∈ s, isEdge c = false :=
    fun c found => isEdge_of_isServerChar (h c found)
  rw [read_eq, read_eq, clean_append (kept (isServerChar_of_mem_lowered h)) tail,
    clean_append (kept h) tail, splitScheme_server _ tail.clean, splitScheme_server _ tail.clean,
    splitScheme_lowered, Option.map_map]
  cases cut : splitScheme server with
  | none => rfl
  | some parts =>
    obtain ⟨scheme, after⟩ := parts
    obtain ⟨own, rfl, -, -, -⟩ := eq_append_of_splitScheme cut
    exact readBehind_lowered scheme
      (fun c found => h c (List.mem_append_right _ (List.mem_cons_of_mem _ found))) tail.clean

/-- Behind a scheme with a usual port, a host and a port are read as those in small letters. -/
theorem read_scheme_lowered {scheme : List Char} (form : IsScheme scheme)
    (known : (usualPort scheme).isSome = true) (h : ∀ c ∈ server, isServerChar c = true)
    (tail : IsTail rest) :
    read (scheme ++ "://".toList ++ lowered server ++ rest) =
      read (scheme ++ "://".toList ++ server ++ rest) := by
  have cut {s : List Char} (h : ∀ c ∈ s, isServerChar c = true) :
      read (scheme ++ "://".toList ++ s ++ rest) =
        readAuthority scheme true ((s ++ clean rest).dropWhile (isSlash true)) := by
    have marks : ∀ c ∈ "://".toList, isEdge c = false := Text.forall_mem_of_all (by decide)
    have kept : ∀ c ∈ scheme ++ "://".toList ++ s, isEdge c = false := by
      intro c found
      rw [List.mem_append, List.mem_append] at found
      rcases found with (inside | mark) | inside
      · exact isEdge_of_isVisible (isVisible_of_isSchemeChar (form.chars c inside))
      · exact marks c mark
      · exact isEdge_of_isServerChar (h c inside)
    have whole : scheme ++ "://".toList ++ s ++ clean rest =
        scheme ++ ':' :: ('/' :: '/' :: (s ++ clean rest)) := by
      simp
    rw [read_eq, clean_append kept tail, whole, splitScheme_append _ form]
    exact readBehind_of_isSome known _
  rw [cut (isServerChar_of_mem_lowered h), cut h]
  exact readAuthority_dropWhile_lowered scheme h tail.clean

end Url

end Detour
