import Detour.Proofs.Url.Normal
/-!
# Reading URLs back

The text of a URL in normal form is taken apart into the parts that it was put together from. Main
statement: such a URL is read from its own text, with two exceptions. One is a domain name with a
longer Punycode than is read, and the other the URL of a file on a host whose path starts with the letter
of a drive.
-/

namespace Detour.Url

open Text (isVisible)

/-- A character of a user is visible, and nothing in it ends the part up to the port. -/
theorem of_mem_user {user : List Char} {c : Char} (h : IsUser user) (found : c ∈ user) :
    isVisible c = true ∧ c ∉ "#/?@\\".toList := by
  have ends : ∀ d ∈ "#/?@\\".toList, escapedInUser d = true := Text.forall_mem_of_all (by decide)
  rcases h.chars c found with rfl | kept
  · decide
  · refine ⟨isVisible_of_not_escapedInFragment
      (not_escapedInFragment_of_path (not_escapedInPath_of_user kept)), fun e => ?_⟩
    rw [ends c e] at kept
    cases kept

/-- The port behind its colon. -/
def portText (port : Option Nat) : List Char :=
  match port with
  | some port => ':' :: Text.decimal port
  | none => []

/-- The query and the fragment behind their signs. -/
def tailText (query fragment : Option (List Char)) : List Char :=
  (match query with
    | some query => '?' :: query
    | none => []) ++ (match fragment with
    | some fragment => '#' :: fragment
    | none => [])

/-- A port stands behind a colon. -/
theorem of_mem_portText {port : Option Nat} {c : Char} (h : c ∈ portText port) :
    c = ':' ∨ c.isDigit = true := by
  cases port with
  | none => cases h
  | some port =>
    rcases List.mem_cons.1 h with colon | digit
    · exact .inl colon
    · exact .inr (Text.isDigit_of_mem_decimal digit)

/-- A port stands behind a colon. -/
theorem head?_portText (port : Option Nat) : ∀ c ∈ (portText port).head?, c = ':' := by
  cases port with
  | none => exact fun c found => nomatch found
  | some port =>
    intro c found
    cases found
    rfl

/-- The query and the fragment end a path. -/
theorem head?_tailText (query fragment : Option (List Char)) :
    ∀ c ∈ (tailText query fragment).head?, endsPath c = true := by
  intro c found
  cases query with
  | some query =>
    cases found
    rfl
  | none =>
    cases fragment with
    | some fragment =>
      cases found
      rfl
    | none => cases found

/-- A port in range is read from its text. -/
theorem readPort_portText {port : Option Nat} (small : ∀ n ∈ port, n ≤ 65535) :
    readPort (portText port) = some (port, []) := by
  cases port with
  | none => rfl
  | some n =>
    have digits : ∀ c ∈ Text.decimal n, c.isDigit = true :=
      fun c => Text.isDigit_of_mem_decimal
    have full : (Text.decimal n).isEmpty = false := List.isEmpty_eq_false_iff.2 Nat.toDigits_ne_nil
    have value : Text.digitsFrom? 10 0 (Text.decimal n) = some n :=
      Text.digitsFrom?_toDigits (by decide) (by decide) n
    rw [portText, readPort, Text.takeWhile_of_forall digits, Text.dropWhile_of_forall digits, full,
      value]
    simp [small n rfl]

/-- What is escaped in a query and in a fragment is read from its text. -/
theorem readTail_tailText {special : Bool} {query fragment : Option (List Char)}
    (queryKept : ∀ q ∈ query, ∀ c ∈ q, escapedInQuery special c = false)
    (fragmentKept : ∀ f ∈ fragment, ∀ c ∈ f, escapedInFragment c = false) :
    readTail special (tailText query fragment) = (query, fragment) := by
  have behind {f : List Char} (kept : ∀ c ∈ f, escapedInFragment c = false) :
      percentEncode escapedInFragment f = f := percentEncode_of_forall kept
  cases query with
  | none =>
    cases fragment with
    | none => rfl
    | some f =>
      change (none, some (percentEncode escapedInFragment f)) = _
      rw [behind (fragmentKept f rfl)]
  | some q =>
    have own := queryKept q rfl
    have sign : ∀ c ∈ q, decide (c ≠ '#') = true := by
      intro c found
      rw [decide_eq_true_eq]
      rintro rfl
      have kept := own '#' found
      cases special <;> exact absurd kept (by decide)
    have stop : ∀ c ∈ (tailText none fragment).head?, decide (c ≠ '#') = false := by
      cases fragment <;> simp [tailText]
    have whole : tailText (some q) fragment = '?' :: (q ++ tailText none fragment) := rfl
    rw [whole, readTail, Text.takeWhile_append_of_head? sign stop,
      Text.dropWhile_append_of_head? sign stop, percentEncode_of_forall own]
    cases fragment with
    | none => rfl
    | some f =>
      change (some q, some (percentEncode escapedInFragment f)) = _
      rw [behind (fragmentKept f rfl)]

/-- A scheme is found in front of its colon. -/
theorem splitScheme_append {scheme : List Char} (rest : List Char) (h : IsScheme scheme) :
    splitScheme (scheme ++ ':' :: rest) = some (scheme, rest) := by
  have stop : ∀ c ∈ (':' :: rest).head?, isSchemeChar c = false := by
    intro c found
    cases found
    decide
  have first : (scheme ++ ':' :: rest).head?.any Char.isAlpha = true := by
    have letter := h.first
    cases scheme with
    | nil => cases letter
    | cons c scheme => exact letter
  have small : scheme.map Char.toLower = scheme :=
    (List.map_congr_left h.small).trans (List.map_id _)
  rw [splitScheme, if_pos first, Text.dropWhile_append_of_head? h.chars stop,
    Text.takeWhile_append_of_head? h.chars stop, small]
  rfl

/-- A character that a text does not hold is not met from its end either. -/
theorem ne_of_mem_reverse {c : Char} {s : List Char} (h : c ∉ s) :
    ∀ d ∈ s.reverse, decide (d ≠ c) = true := by
  intro d found
  rw [decide_eq_true_eq]
  rintro rfl
  exact h (List.mem_reverse.1 found)

/-- A user is found in front of the last at sign. -/
theorem splitUser_append {server : List Char} (user : List Char) (h : '@' ∉ server) :
    splitUser (user ++ '@' :: server) = (some user, server) := by
  have free := ne_of_mem_reverse h
  have stop : ∀ c ∈ ('@' :: user.reverse).head?, decide (c ≠ '@') = false := by simp
  have back : (user ++ '@' :: server).reverse = server.reverse ++ '@' :: user.reverse := by simp
  rw [splitUser, back, Text.dropWhile_append_of_head? free stop,
    Text.takeWhile_append_of_head? free stop, List.reverse_reverse]
  dsimp only
  rw [List.reverse_reverse]

/-- Without an at sign there is no user. -/
theorem splitUser_of_not_mem {server : List Char} (h : '@' ∉ server) :
    splitUser server = (none, server) := by
  rw [splitUser, Text.dropWhile_of_forall (ne_of_mem_reverse h)]

/-- A text is clean if it has no controls and blanks at its ends, and no tabs and line breaks. -/
theorem clean_of_ends {s : List Char} (first : ∀ c ∈ s.head?, isEdge c = false)
    (last : ∀ c ∈ s.getLast?, isEdge c = false) (kept : ∀ c ∈ s, isIgnored c = false) :
    clean s = s := by
  have back : ∀ c ∈ s.reverse.head?, isEdge c = false := by
    rw [List.head?_reverse]
    exact last
  have all : ∀ c ∈ s, (!isIgnored c) = true := fun c found => by rw [kept c found, Bool.not_false]
  rw [clean, Text.dropWhile_of_head? first, Text.dropWhile_of_head? back, List.reverse_reverse,
    List.filter_eq_self.2 all]

/-- Tabs and line breaks are dropped at the ends of a text, too. -/
theorem isIgnored_of_isEdge {c : Char} (h : isEdge c = false) : isIgnored c = false := by
  cases ignored : isIgnored c with
  | false => rfl
  | true =>
    simp only [isIgnored, Bool.or_eq_true, decide_eq_true_eq] at ignored
    rcases ignored with (rfl | rfl) | rfl <;> exact absurd h (by decide)

/-- Visible characters are dropped nowhere. -/
theorem isEdge_of_isVisible {c : Char} (h : isVisible c = true) : isEdge c = false := by
  simp only [isVisible, Bool.and_eq_true, decide_eq_true_eq] at h
  exact decide_eq_false (by omega)

/-- A text of visible characters is clean. -/
theorem clean_of_isVisible {s : List Char} (h : ∀ c ∈ s, isVisible c = true) : clean s = s := by
  have edge {c : Char} (found : c ∈ s) : isEdge c = false := isEdge_of_isVisible (h c found)
  exact clean_of_ends (fun c found => edge (List.mem_of_mem_head? found))
    (fun c found => edge (List.mem_of_getLast? found)) fun c found => isIgnored_of_isEdge (edge found)

/-- A path in normal form is escaped. -/
theorem not_escaped_of_isPathOf {scheme path : List Char} {c : Char} (h : IsPathOf scheme path)
    (found : c ∈ path) : escapedInPath c = false := by
  unfold IsPathOf at h
  split at h
  · exact not_escaped_of_mem_path h.isPath found
  · split at h
    · exact not_escaped_of_mem_path h found
    · rcases h with rfl | path
      · cases found
      · exact not_escaped_of_mem_path path found

/-- A path starts with a slash or is empty. -/
theorem head?_of_isPathOf {scheme path : List Char} (h : IsPathOf scheme path) :
    path.head? = some '/' ∨ path = [] := by
  have slash {special : Bool} (h : IsPath special path) : path.head? = some '/' := by
    obtain ⟨parts, -, -, rfl⟩ := h
    rfl
  unfold IsPathOf at h
  split at h
  · exact .inl (slash h.isPath)
  · split at h
    · exact .inl (slash h)
    · rcases h with empty | path
      · exact .inr empty
      · exact .inl (slash path)

variable {u : Url}

/-- What follows the port. -/
theorem rest_eq (u : Url) : u.rest = u.path ++ tailText u.query u.fragment := List.append_assoc _ _ _

/-- The host and the port. -/
theorem authority_eq (u : Url) : u.authority = u.host.text ++ portText u.port := rfl

/-- What follows the port starts with a slash or ends a path. -/
theorem IsNormal.head?_rest (h : u.IsNormal) : ∀ c ∈ u.rest.head?, c = '/' ∨ endsPath c = true := by
  rw [rest_eq]
  intro c found
  rcases head?_of_isPathOf h.path with slash | empty
  · rw [List.head?_append, slash] at found
    cases found
    exact .inl rfl
  · rw [empty, List.nil_append] at found
    exact .inr (head?_tailText _ _ c found)

/-- What follows the port ends it. -/
theorem IsNormal.endsAuthority_of_rest (h : u.IsNormal) (special : Bool) :
    ∀ c ∈ u.rest.head?, endsAuthority special c = true := by
  intro c found
  rcases h.head?_rest c found with rfl | tail
  · rfl
  · rw [endsAuthority, Bool.or_eq_true]
    exact .inl tail

/-- A path is found in front of the query and the fragment. -/
theorem IsNormal.splitRest (h : u.IsNormal) :
    u.rest.takeWhile (!endsPath ·) = u.path ∧
      u.rest.dropWhile (!endsPath ·) = tailText u.query u.fragment := by
  have free : ∀ c ∈ u.path, (!endsPath c) = true := by
    intro c found
    have kept := not_escaped_of_isPathOf h.path found
    rw [Bool.not_eq_true', endsPath, Bool.or_eq_false_iff, decide_eq_false_iff_not,
      decide_eq_false_iff_not]
    constructor
    · rintro rfl
      exact absurd kept (by decide)
    · rintro rfl
      exact absurd kept (by decide)
  have stop : ∀ c ∈ (tailText u.query u.fragment).head?, (!endsPath c) = false := by
    intro c found
    rw [head?_tailText _ _ c found]
    rfl
  rw [rest_eq]
  exact ⟨Text.takeWhile_append_of_head? free stop, Text.dropWhile_append_of_head? free stop⟩

/-- A character of the host and the port is visible, and nothing in them ends this part. -/
theorem IsNormal.of_mem_authority {c : Char} (h : u.IsNormal) (found : c ∈ u.authority) :
    isVisible c = true ∧ c ∉ "#/?@\\".toList := by
  rw [authority_eq] at found
  rcases List.mem_append.1 found with host | port
  · exact of_mem_text h.host host
  · rcases of_mem_portText port with rfl | digit
    · decide
    · have number : c.isAlphanum = true := by rw [Char.isAlphanum, digit, Bool.or_true]
      refine ⟨Text.isVisible_of_isAlphanum number, fun e => ?_⟩
      have signs : ∀ d ∈ "#/?@\\".toList, d.isDigit = false := Text.forall_mem_of_all (by decide)
      rw [signs c e] at digit
      cases digit

/-- What does not end the part up to the port. -/
theorem not_endsAuthority {special : Bool} {c : Char} (h : c ∉ "#/?@\\".toList) :
    endsAuthority special c = false := by
  simp only [String.reduceToList, List.mem_cons, List.not_mem_nil, or_false, not_or] at h
  obtain ⟨number, slash, question, -, back⟩ := h
  simp [endsAuthority, isSlash, number, slash, question, back]

/-- Nothing in front of the path ends the part up to the port. -/
theorem IsNormal.not_endsAuthority_of_mem (h : u.IsNormal) :
    ∀ c ∈ u.userText ++ u.authority, endsAuthority (isSpecial u.scheme) c = false := by
  intro c found
  rcases List.mem_append.1 found with user | server
  · unfold userText at user
    split at user
    · cases user
    · rcases List.mem_append.1 user with inside | sign
      · exact not_endsAuthority (of_mem_user h.user inside).2
      · rw [List.mem_singleton.1 sign]
        simp [endsAuthority, isSlash]
  · exact not_endsAuthority (h.of_mem_authority server).2

/-- The user is found in front of the host. -/
theorem IsNormal.splitUser_eq (h : u.IsNormal) :
    splitUser (u.userText ++ u.authority) =
      (if u.user.isEmpty then none else some u.user, u.authority) := by
  have sign : '@' ∉ u.authority := fun found => (h.of_mem_authority found).2 (by decide)
  unfold userText
  split
  · exact splitUser_of_not_mem sign
  · rw [List.append_assoc]
    exact splitUser_append u.user sign

/-- The port is no usual one that would be dropped. -/
theorem IsNormal.port_eq (h : u.IsNormal) :
    (if u.port = usualPort u.scheme then none else u.port) = u.port := by
  split
  · rename_i same
    cases port : u.port with
    | none => rfl
    | some n => exact absurd (port ▸ same).symm (h.port n port).2
  · rfl

/-- A path in normal form is read as itself, except that of a file. -/
theorem path_of_isPathOf {scheme path : List Char} (notFile : isFile scheme = false)
    (h : IsPathOf scheme path) :
    (if isSpecial scheme then specialPath path else plainPath path) = path := by
  rw [IsPathOf, notFile, if_neg Bool.false_ne_true] at h
  rw [isSpecial, notFile, Bool.false_or]
  split
  · rename_i special
    rw [if_pos special] at h
    exact specialPath_of_isPath h
  · rename_i plain
    rw [if_neg plain] at h
    rcases h with rfl | form
    · rfl
    · exact plainPath_of_isPath form

/-- The URL is read from what follows the two slashes behind its scheme, unless the host has a label
that is too long. -/
theorem IsNormal.readAuthority_eq (h : u.IsNormal) (notFile : isFile u.scheme = false) :
    readAuthority u.scheme (isSpecial u.scheme) (u.userText ++ u.authority ++ u.rest) =
      if isSpecial u.scheme && Domain.hasOverlong u.host.text then .malformed else .url u := by
  have free : ∀ c ∈ u.userText ++ u.authority, (!endsAuthority (isSpecial u.scheme) c) = true := by
    intro c found
    rw [h.not_endsAuthority_of_mem c found]
    rfl
  have stop : ∀ c ∈ u.rest.head?, (!endsAuthority (isSpecial u.scheme) c) = false := by
    intro c found
    rw [h.endsAuthority_of_rest _ c found]
    rfl
  have user : (((if u.user.isEmpty then none else some u.user).map normalUser).getD []) = u.user := by
    split
    · rename_i none
      exact (List.isEmpty_iff.1 none).symm
    · exact h.user.same
  have named : (if u.user.isEmpty then none else some u.user) ≠ some [] := by
    intro e
    split at e
    · cases e
    · rename_i full
      exact full (by rw [Option.some.inj e]; rfl)
  have full : u.host.text.isEmpty = false := List.isEmpty_eq_false_iff.2 (text_ne_nil h.host)
  -- Each stage of the reading finds the part that it looks for, and leaves the rest to the next.
  have server := splitHost_append h.host (head?_portText u.port)
  rw [← authority_eq] at server
  rw [readAuthority, Text.takeWhile_append_of_head? free stop,
    Text.dropWhile_append_of_head? free stop, h.splitUser_eq]
  dsimp only
  rw [server]
  dsimp only
  rw [if_neg fun e => named e.1, full, if_neg Bool.false_ne_true, hostOf_text h.host,
    readPort_portText fun n found => (h.port n found).1]
  split
  · rename_i host port extra read portRead
    split at read
    · cases read
    · rename_i short
      cases read
      cases portRead
      rw [if_neg short, List.nil_append, h.splitRest.1, h.splitRest.2,
        readTail_tailText h.query h.fragment, user, h.port_eq, path_of_isPathOf notFile h.path]
  · rename_i unread
    split
    · rfl
    · rename_i short
      exact (unread u.host u.port [] (if_neg short) rfl).elim

/-- Without a user and a port only the host stands in front of the path. -/
theorem IsNormal.userText_append_authority (h : u.IsNormal) (file : isFile u.scheme = true) :
    u.userText ++ u.authority = u.host.text := by
  obtain ⟨user, port, -⟩ := h.file file
  rw [userText, authority_eq, user, port]
  exact List.append_nil _

/-- The URL of a file is read from what follows its scheme, unless the host has a label that is too
long or the path starts with the letter of a drive. -/
theorem IsNormal.readFile_eq (h : u.IsNormal) (file : isFile u.scheme = true) :
    readFile u.scheme ('/' :: '/' :: (u.userText ++ u.authority ++ u.rest)) =
      if Domain.hasOverlong u.host.text then .malformed
      else if startsAtDrive u.path then .hostless else .url u := by
  obtain ⟨user, port, elsewhere⟩ := h.file file
  have special : isSpecial u.scheme = true := by rw [isSpecial, file, Bool.true_or]
  have free : ∀ c ∈ u.host.text, (!endsAuthority true c) = true := by
    intro c found
    rw [not_endsAuthority (of_mem_text h.host found).2]
    rfl
  have stop : ∀ c ∈ u.rest.head?, (!endsAuthority true c) = false := by
    intro c found
    rw [h.endsAuthority_of_rest true c found]
    rfl
  have full : u.host.text.isEmpty = false := List.isEmpty_eq_false_iff.2 (text_ne_nil h.host)
  have host := hostOf_text h.host
  have path := h.path
  have tail := readTail_tailText h.query h.fragment
  rw [special, Bool.true_and] at host
  rw [hostOf, if_pos rfl] at host
  rw [IsPathOf, file, if_pos rfl] at path
  rw [special] at tail
  rw [h.userText_append_authority file, readFile, Text.takeWhile_append_of_head? free stop,
    Text.dropWhile_append_of_head? free stop,
    if_pos (show (isSlash true '/' && isSlash true '/') = true from rfl)]
  dsimp only
  rw [full, isDrive_text h.host, host, h.splitRest.1, h.splitRest.2, tail, filePath_of_isFilePath path]
  by_cases long : Domain.hasOverlong u.host.text = true
  · rw [if_pos long, if_pos long]
    rfl
  · rw [if_neg long, if_neg long]
    by_cases drive : startsAtDrive u.path = true
    · rw [if_pos drive, if_pos drive]
      rfl
    · rw [if_neg drive, if_neg drive]
      dsimp only
      rw [if_neg elsewhere]
      obtain ⟨scheme, user', host', port', path', query, fragment⟩ := u
      cases user
      cases port
      rfl

/-- What follows the scheme does not start with more than two slashes. -/
theorem IsNormal.dropWhile_isSlash (h : u.IsNormal) (special : isSpecial u.scheme = true) :
    ('/' :: '/' :: (u.userText ++ u.authority ++ u.rest)).dropWhile (isSlash true) =
      u.userText ++ u.authority ++ u.rest := by
  have slashes : ∀ c ∈ ['/', '/'], isSlash true c = true := Text.forall_mem_of_all (by decide)
  refine Text.dropWhile_append_of_head? slashes fun c found => ?_
  have some : u.userText ++ u.authority ≠ [] := by
    rw [authority_eq]
    simp [text_ne_nil h.host]
  have inside : c ∈ u.userText ++ u.authority := by
    obtain ⟨d, more, front⟩ := List.exists_cons_of_ne_nil some
    rw [front] at found ⊢
    cases found
    exact List.mem_cons_self
  have free := h.not_endsAuthority_of_mem c inside
  rw [special, endsAuthority, Bool.or_eq_false_iff] at free
  exact free.2

/-- Whether the host of a URL is a domain name with a label that is too long to be read. -/
def hasLongLabel (u : Url) : Bool := isSpecial u.scheme && Domain.hasOverlong u.host.text

/-- Whether a URL is that of a file whose path starts with the letter of a drive. -/
def isOnDrive (u : Url) : Bool := isFile u.scheme && startsAtDrive u.path

/-- The text of a URL holds visible characters only. -/
theorem IsNormal.isVisible_of_mem {c : Char} (h : u.IsNormal) (found : c ∈ u.text) :
    isVisible c = true := by
  have path {d : Char} (inside : d ∈ u.path) : isVisible d = true :=
    isVisible_of_not_escapedInFragment
      (not_escapedInFragment_of_path (not_escaped_of_isPathOf h.path inside))
  simp only [text, rest_eq, List.mem_append] at found
  rcases found with (((scheme | sign) | user) | server) | inside | tail
  · exact isVisible_of_isSchemeChar (h.scheme.chars c scheme)
  · have signs : ∀ d ∈ "://".toList, isVisible d = true := Text.forall_mem_of_all (by decide)
    exact signs c sign
  · unfold userText at user
    split at user
    · cases user
    · rcases List.mem_append.1 user with inside | sign
      · exact (of_mem_user h.user inside).1
      · rw [List.mem_singleton.1 sign]
        decide
  · exact (h.of_mem_authority server).1
  · exact path inside
  · rcases List.mem_append.1 tail with query | fragment
    · cases written : u.query with
      | none =>
        rw [written] at query
        cases query
      | some q =>
        rw [written] at query
        rcases List.mem_cons.1 query with rfl | inside
        · decide
        · exact isVisible_of_not_escapedInQuery (h.query q written c inside)
    · cases written : u.fragment with
      | none =>
        rw [written] at fragment
        cases fragment
      | some f =>
        rw [written] at fragment
        rcases List.mem_cons.1 fragment with rfl | inside
        · decide
        · exact isVisible_of_not_escapedInFragment (h.fragment f written c inside)

/-- A URL in normal form is read from its own text, unless the host has a label that is too long or it is
the URL of a file whose path starts with the letter of a drive. -/
theorem IsNormal.read_text (h : u.IsNormal) :
    read u.text =
      if u.hasLongLabel then .malformed else if u.isOnDrive then .hostless else .url u := by
  have whole : u.text = u.scheme ++ ':' :: ('/' :: '/' :: (u.userText ++ u.authority ++ u.rest)) := by
    simp [text]
  rw [read, clean_of_isVisible fun c => h.isVisible_of_mem, whole, splitScheme_append _ h.scheme]
  dsimp only
  rw [hasLongLabel, isOnDrive]
  by_cases file : isFile u.scheme = true
  · have special : isSpecial u.scheme = true := by rw [isSpecial, file, Bool.true_or]
    rw [if_pos file, h.readFile_eq file, special, file, Bool.true_and, Bool.true_and]
  · have notFile := Bool.eq_false_iff.2 file
    have special : isSpecial u.scheme = (usualPort u.scheme).isSome := by
      rw [isSpecial, notFile, Bool.false_or]
    have read := h.readAuthority_eq notFile
    rw [if_neg file, notFile, Bool.false_and, if_neg Bool.false_ne_true]
    split
    · rename_i known
      rw [h.dropWhile_isSlash (special.trans known), ← read, special, known]
    · rename_i unknown
      rw [← read, special, Bool.eq_false_iff.2 unknown]
      rfl

end Detour.Url
