import Detour.Proofs.Url.Host
import Detour.Proofs.Url.Path
/-!
# The normal form of URLs

Every part of a URL that was read is in a form that reading the part again would not change. Main
statement: reading a text gives a URL in this normal form.
-/

namespace Detour.Url

open Text (isVisible)

/-- A scheme: a letter, followed by small letters, digits and some signs. -/
structure IsScheme (scheme : List Char) : Prop where
  /-- It starts with a letter. -/
  first : scheme.head?.any Char.isAlpha = true
  /-- It is made of the characters of a scheme. -/
  chars : ∀ c ∈ scheme, isSchemeChar c = true
  /-- It has no capital letters. -/
  small : ∀ c ∈ scheme, c.toLower = c

/-- Whether a scheme is a well-known one. -/
def isSpecial (scheme : List Char) : Bool := isFile scheme || (usualPort scheme).isSome

/-- A user in normal form. -/
structure IsUser (user : List Char) : Prop where
  /-- Reading it changes nothing. -/
  same : normalUser user = user
  /-- It is escaped, but for the colon in front of the password. -/
  chars : ∀ c ∈ user, c = ':' ∨ escapedInUser c = false

/-- A path in the normal form for a scheme. -/
def IsPathOf (scheme path : List Char) : Prop :=
  if isFile scheme then IsFilePath path
  else if (usualPort scheme).isSome then IsPath true path
  else path = [] ∨ IsPath false path

/-- A URL in normal form. -/
structure IsNormal (u : Url) : Prop where
  /-- The scheme is one. -/
  scheme : IsScheme u.scheme
  /-- The user is in normal form. -/
  user : IsUser u.user
  /-- The host is in normal form. -/
  host : u.host.IsNormal (isSpecial u.scheme)
  /-- A port is in range and not the usual one. -/
  port : ∀ port ∈ u.port, port ≤ 65535 ∧ usualPort u.scheme ≠ some port
  /-- The path is in normal form. -/
  path : IsPathOf u.scheme u.path
  /-- The query is escaped. -/
  query : ∀ query ∈ u.query, ∀ c ∈ query, escapedInQuery (isSpecial u.scheme) c = false
  /-- The fragment is escaped. -/
  fragment : ∀ fragment ∈ u.fragment, ∀ c ∈ fragment, escapedInFragment c = false
  /-- A file has neither a user nor a port, and its host is not the machine itself. -/
  file : isFile u.scheme = true → u.user = [] ∧ u.port = none ∧ u.host ≠ .name "localhost".toList

/-- A character of a scheme is visible. -/
theorem isVisible_of_isSchemeChar {c : Char} (h : isSchemeChar c = true) : isVisible c = true := by
  simp only [isSchemeChar, Bool.or_eq_true, decide_eq_true_eq] at h
  rcases h with ((digit | rfl) | rfl) | rfl
  · exact Text.isVisible_of_isAlphanum digit
  · decide
  · decide
  · decide

/-- The small letter of a character of a scheme. -/
theorem toLower_of_isSchemeChar {c : Char} (h : isSchemeChar c = true) :
    isSchemeChar c.toLower = true ∧ c.toLower.toLower = c.toLower ∧
      (c.isAlpha = true → c.toLower.isAlpha = true) := by
  refine Text.forall_of_ascii (P := fun d => isSchemeChar d = true → isSchemeChar d.toLower = true ∧
    d.toLower.toLower = d.toLower ∧ (d.isAlpha = true → d.toLower.isAlpha = true)) ?_
    (Text.lt_of_isVisible (isVisible_of_isSchemeChar h)) h
  decide

/-- What stands in front of the first colon is taken for a scheme, in small letters. -/
theorem eq_append_of_splitScheme {s scheme rest : List Char}
    (h : splitScheme s = some (scheme, rest)) :
    ∃ own, s = own ++ ':' :: rest ∧ scheme = own.map Char.toLower ∧
      own.head?.any Char.isAlpha = true ∧ ∀ c ∈ own, isSchemeChar c = true := by
  unfold splitScheme at h
  split at h
  · rename_i first
    split at h
    · rename_i behind
      cases h
      refine ⟨s.takeWhile isSchemeChar, ?_, rfl, ?_, List.all_eq_true.1 List.all_takeWhile⟩
      · rw [← behind, List.takeWhile_append_dropWhile]
      · cases s with
        | nil => cases first
        | cons c s =>
          have letter : c.isAlpha = true := first
          have char : isSchemeChar c = true := by
            rw [isSchemeChar, Char.isAlphanum, letter]
            rfl
          rw [List.takeWhile_cons_of_pos char]
          exact letter
    · cases h
  · cases h

/-- What stands in front of the first colon is brought into the form of a scheme. -/
theorem isScheme_of_splitScheme {s scheme rest : List Char}
    (h : splitScheme s = some (scheme, rest)) : IsScheme scheme := by
  obtain ⟨own, -, rfl, first, chars⟩ := eq_append_of_splitScheme h
  refine ⟨?_, fun c found => ?_, fun c found => ?_⟩
  · cases own with
    | nil => cases first
    | cons c own => exact (toLower_of_isSchemeChar (chars c List.mem_cons_self)).2.2 first
  · obtain ⟨d, inside, rfl⟩ := List.mem_map.1 found
    exact (toLower_of_isSchemeChar (chars d inside)).1
  · obtain ⟨d, inside, rfl⟩ := List.mem_map.1 found
    exact (toLower_of_isSchemeChar (chars d inside)).2.1

/-- There is no colon in the name of a user once it is escaped. -/
theorem ne_colon_of_mem_percentEncode {s : List Char} :
    ∀ c ∈ percentEncode escapedInUser s, decide (c ≠ ':') = true := by
  intro c found
  rw [decide_eq_true_eq]
  rintro rfl
  have kept := not_escaped_of_mem_percentEncode escapedInUser_escapeChars found
  exact absurd kept (by decide)

/-- Reading a user brings it into normal form. -/
theorem isUser_normalUser (s : List Char) : IsUser (normalUser s) := by
  unfold normalUser
  dsimp only
  generalize s.takeWhile (fun c => decide (c ≠ ':')) = name
  generalize (s.dropWhile fun c => decide (c ≠ ':')).drop 1 = password
  have again (t : List Char) := percentEncode_percentEncode escapedInUser_escapeChars t
  have kept {t : List Char} {c : Char} (found : c ∈ percentEncode escapedInUser t) :
      c = ':' ∨ escapedInUser c = false :=
    .inr (not_escaped_of_mem_percentEncode escapedInUser_escapeChars found)
  have free := ne_colon_of_mem_percentEncode (s := name)
  cases password with
  | nil =>
    refine ⟨?_, fun c found => kept (by simpa using found)⟩
    simp only [List.isEmpty_nil, if_true, List.append_nil]
    rw [normalUser, Text.takeWhile_of_forall free, Text.dropWhile_of_forall free, again]
    simp
  | cons d password =>
    have full : (percentEncode escapedInUser (d :: password)).isEmpty = false :=
      List.isEmpty_eq_false_iff.2 (percentEncode_ne_nil (List.cons_ne_nil d password))
    have stop : ∀ c ∈ (':' :: percentEncode escapedInUser (d :: password)).head?,
        decide (c ≠ ':') = false := by simp
    simp only [List.isEmpty_cons, Bool.false_eq_true, if_false]
    refine ⟨?_, fun c found => ?_⟩
    · rw [normalUser, Text.takeWhile_append_of_head? free stop,
        Text.dropWhile_append_of_head? free stop, List.drop_one, List.tail_cons, full, again, again]
      rfl
    · rcases List.mem_append.1 found with front | behind
      · exact kept front
      · rcases List.mem_cons.1 behind with colon | inside
        · exact .inl colon
        · exact kept inside

/-- No user at all is in normal form. -/
theorem isUser_nil : IsUser [] := ⟨rfl, List.forall_mem_nil _⟩

/-- A port that is read is in range. -/
theorem le_of_readPort {s extra : List Char} {port : Nat} (h : readPort s = some (some port, extra)) :
    port ≤ 65535 := by
  unfold readPort at h
  split at h
  · dsimp only at h
    split at h
    · split at h
      · cases h
      · split at h
        · split at h
          · rename_i small
            cases h
            exact small
          · cases h
        · cases h
    · cases h
  · cases h

/-- The query and the fragment are escaped when they are read. -/
theorem escaped_of_readTail (special : Bool) (s : List Char) :
    (∀ query ∈ (readTail special s).1, ∀ c ∈ query, escapedInQuery special c = false) ∧
      ∀ fragment ∈ (readTail special s).2, ∀ c ∈ fragment, escapedInFragment c = false := by
  have fragment (t : List Char) : ∀ c ∈ percentEncode escapedInFragment t, escapedInFragment c = false :=
    fun c => not_escaped_of_mem_percentEncode escapedInFragment_escapeChars
  unfold readTail
  dsimp only
  split
  · refine ⟨fun query found c inside => ?_, fun f found => ?_⟩
    · cases found
      exact not_escaped_of_mem_percentEncode (escapedInQuery_escapeChars special) inside
    · split at found
      · cases found
        exact fragment _
      · cases found
  · refine ⟨fun query found => (nomatch found), fun f found => ?_⟩
    split at found
    · cases found
      exact fragment _
    · cases found

variable {scheme s : List Char} {u : Url}

/-- A path with a scheme other than that of files is brought into normal form. -/
theorem isPathOf_of_not_isFile (notFile : isFile scheme = false) (path : List Char) :
    IsPathOf scheme (if isSpecial scheme then specialPath path else plainPath path) := by
  rw [IsPathOf, isSpecial, notFile, if_neg Bool.false_ne_true, Bool.false_or]
  split
  · exact isPath_specialPath path
  · cases path with
    | nil => exact .inl rfl
    | cons c rest => exact .inr (isPath_plainPath (List.cons_ne_nil c rest))

/-- A URL that is read behind two slashes is in normal form. -/
theorem isNormal_of_readAuthority (start : IsScheme scheme) (notFile : isFile scheme = false)
    (h : readAuthority scheme (isSpecial scheme) s = .url u) : u.IsNormal := by
  unfold readAuthority at h
  dsimp only at h
  split at h
  · cases h
  split at h
  · split at h
    · cases h
    · cases h
  rename_i full
  split at h
  · rename_i host port extra read portRead
    cases h
    exact {
      scheme := start
      user := by
        cases (splitUser (s.takeWhile (!endsAuthority (isSpecial scheme) ·))).1 with
        | none => exact isUser_nil
        | some user => exact isUser_normalUser user
      host := isNormal_of_hostOf (fun empty => full (by rw [empty]; rfl)) read
      port := by
        intro p found
        split at found
        · cases found
        · rename_i unusual
          cases found
          exact ⟨le_of_readPort portRead, fun e => unusual e.symm⟩
      path := isPathOf_of_not_isFile notFile _
      query := (escaped_of_readTail _ _).1
      fragment := (escaped_of_readTail _ _).2
      file := fun file => absurd file (Bool.eq_false_iff.1 notFile) }
  · cases h

/-- A URL of a file is in normal form. -/
theorem isNormal_of_readFile (start : IsScheme scheme) (file : isFile scheme = true)
    (h : readFile scheme s = .url u) : u.IsNormal := by
  have special : isSpecial scheme = true := by rw [isSpecial, file, Bool.true_or]
  unfold readFile at h
  split at h
  · split at h
    · dsimp only at h
      split at h
      · cases h
      split at h
      · cases h
      rename_i host read
      have hostNormal : host.IsNormal (isSpecial scheme) := by
        rw [special]
        exact isNormal_of_readHost read
      split at h
      · cases h
      rename_i path pathRead
      split at h
      · cases h
      rename_i elsewhere
      cases h
      exact {
        scheme := start
        user := isUser_nil
        host := hostNormal
        port := fun p found => nomatch found
        path := by
          rw [IsPathOf, file, if_pos rfl]
          exact isFilePath_of_filePath pathRead
        query := by
          rw [special]
          exact (escaped_of_readTail _ _).1
        fragment := (escaped_of_readTail _ _).2
        file := fun _ => ⟨rfl, rfl, elsewhere⟩ }
    · cases h
  · cases h

/-- A URL that is read is in normal form. -/
theorem isNormal_of_read (h : read s = .url u) : u.IsNormal := by
  unfold read at h
  split at h
  · cases h
  · rename_i scheme rest split_
    have start := isScheme_of_splitScheme split_
    split at h
    · rename_i file
      exact isNormal_of_readFile start file h
    · rename_i notFile
      have other := Bool.eq_false_iff.2 notFile
      split at h
      · rename_i special
        refine isNormal_of_readAuthority start other (s := rest.dropWhile (isSlash true)) ?_
        rw [isSpecial, special, Bool.or_true]
        exact h
      · rename_i plain
        split at h
        · rename_i behind
          refine isNormal_of_readAuthority start other (s := behind) ?_
          rw [isSpecial, other, Bool.eq_false_iff.2 plain]
          exact h
        · cases h

end Detour.Url
