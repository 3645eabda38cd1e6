import Detour.Proofs.Toml.Read
/-!
# What stands behind a value

A reader stops where what it reads ends, and what stands behind a line break, a comma or a closing brace is
nothing to it. Main statement: whatever is read as a key, a value or an entry is read as the same if
something that begins with one of these is written behind.
-/

namespace Detour.Toml

/-- Nothing, or a text that begins with the end of a line, a comma or a closing brace. -/
def Stops (u : List Char) : Prop := ∀ c ∈ u.head?, c ∈ ['\n', '\r', ',', '\x7d']

/-- A reader takes the same from a text if another one stands behind. -/
def Steady {α : Type} (u : List Char) (reader : Reader α) : Prop :=
  ∀ {s rest : List Char} {a : α}, reader s = some (a, rest) → reader (s ++ u) = some (a, rest ++ u)

variable {u : List Char}

/-- Nothing else begins what stops a reader. -/
theorem Stops.ne (stops : Stops u) {c : Char} (other : c ∉ ['\n', '\r', ',', '\x7d']) :
    u.head? ≠ some c := fun found => other (stops c found)

/-- A sign is in front without what follows, if that does not begin with it. -/
theorem cons_of_append {s rest : List Char} {c : Char} (other : u.head? ≠ some c)
    (h : s ++ u = c :: rest) : ∃ more, s = c :: more := by
  cases s with
  | nil =>
    rw [List.nil_append] at h
    exact absurd (congrArg List.head? h) other
  | cons d s =>
    cases h
    exact ⟨s, rfl⟩

/-- A row of characters ends in front of one that does not belong to it. -/
theorem takeWhile_append_of_stop {p : Char → Bool} (stop : ∀ c ∈ u.head?, p c = false) (s : List Char) :
    (s ++ u).takeWhile p = s.takeWhile p ∧ (s ++ u).dropWhile p = s.dropWhile p ++ u := by
  induction s with
  | nil =>
    cases u with
    | nil => exact ⟨rfl, rfl⟩
    | cons c u =>
      have own := stop c rfl
      rw [List.nil_append, List.takeWhile_cons_of_neg (by simp [own]),
        List.dropWhile_cons_of_neg (by simp [own])]
      exact ⟨rfl, rfl⟩
  | cons c s ih =>
    cases own : p c with
    | true =>
      rw [List.cons_append, List.takeWhile_cons_of_pos own, List.dropWhile_cons_of_pos own,
        List.takeWhile_cons_of_pos own, List.dropWhile_cons_of_pos own, ih.1, ih.2]
      exact ⟨rfl, rfl⟩
    | false =>
      have ends : ¬p c = true := by simp [own]
      rw [List.cons_append, List.takeWhile_cons_of_neg ends, List.dropWhile_cons_of_neg ends,
        List.takeWhile_cons_of_neg ends, List.dropWhile_cons_of_neg ends]
      exact ⟨rfl, rfl⟩

/-- A row of characters ends in front of what stops a reader. -/
theorem takeWhile_append_of_stops {p : Char → Bool} (stops : Stops u)
    (out : ['\n', '\r', ',', '\x7d'].all (!p ·) = true) (s : List Char) :
    (s ++ u).takeWhile p = s.takeWhile p ∧ (s ++ u).dropWhile p = s.dropWhile p ++ u := by
  refine takeWhile_append_of_stop (fun c found => ?_) s
  rw [← Bool.not_eq_true']
  exact List.all_eq_true.1 out c (stops c found)

/-- Gaps end there. -/
theorem skipGaps_append (stops : Stops u) (s : List Char) : skipGaps (s ++ u) = skipGaps s ++ u :=
  (takeWhile_append_of_stops stops (by decide) s).2

/-- A character that is no carriage return is skipped or not for its own sake. -/
theorem skipLinesFrom_cons {c : Char} (other : c ≠ '\r') (comment : Bool) (s : List Char) :
    skipLinesFrom comment (c :: s) =
      if c = '\n' then skipLinesFrom false s
      else if comment then if isLineChar c then skipLinesFrom true s else c :: s
      else if isGap c then skipLinesFrom false s
      else if c = '#' then skipLinesFrom true s
      else c :: s := by
  rw [skipLinesFrom]
  exact fun _ same => absurd same other

/-- What is found behind gaps, comments and line breaks is found there whatever follows, unless it may be
one half of a line break. If nothing is found, then what follows is skipped, too. -/
theorem skipLinesFrom_append (comment : Bool) (s : List Char) :
    ∃ inside, (skipLinesFrom comment s).head? ≠ some '\r' → ∀ u,
      skipLinesFrom comment (s ++ u) =
        if skipLinesFrom comment s = [] then skipLinesFrom inside u else skipLinesFrom comment s ++ u := by
  fun_induction skipLinesFrom comment s with
  | case1 comment s ih =>
    obtain ⟨inside, same⟩ := ih
    exact ⟨inside, fun other u => by rw [List.cons_append, List.cons_append, skipLinesFrom, same other]⟩
  | case2 comment s single ih =>
    obtain ⟨inside, same⟩ := ih
    refine ⟨inside, fun other u => ?_⟩
    rw [List.cons_append, skipLinesFrom_cons (by decide), if_pos rfl, same other]
  | case3 c s single line char ih =>
    obtain ⟨inside, same⟩ := ih
    refine ⟨inside, fun other u => ?_⟩
    rw [List.cons_append, skipLinesFrom_cons (Grammar.ne_of_isLineChar char).2, if_neg line, if_pos rfl,
      if_pos char, same other]
  | case4 c s single line char =>
    refine ⟨false, fun other u => ?_⟩
    rw [List.cons_append, skipLinesFrom_cons fun e => other (congrArg some e), if_neg line, if_pos rfl,
      if_neg char, if_neg (List.cons_ne_nil c s)]
  | case5 comment c s single line plain gap ih =>
    obtain ⟨inside, same⟩ := ih
    refine ⟨inside, fun other u => ?_⟩
    have own : c ≠ '\r' := (Grammar.ne_of_isLineChar (Grammar.isLineChar_of_isGap gap)).2
    rw [List.cons_append, skipLinesFrom_cons own, if_neg line, if_neg plain, if_pos gap, same other]
  | case6 comment s plain single line gap ih =>
    obtain ⟨inside, same⟩ := ih
    refine ⟨inside, fun other u => ?_⟩
    rw [List.cons_append, skipLinesFrom_cons (by decide), if_neg line, if_neg plain, if_neg gap, if_pos rfl,
      same other]
  | case7 comment c s single line plain gap sharp =>
    refine ⟨false, fun other u => ?_⟩
    rw [List.cons_append, skipLinesFrom_cons fun e => other (congrArg some e), if_neg line, if_neg plain,
      if_neg gap, if_neg sharp, if_neg (List.cons_ne_nil c s)]
  | case8 comment => exact ⟨comment, fun _ u => (if_pos rfl).symm⟩

/-- What is found is found whatever follows. -/
theorem skipLines_append {s rest : List Char} {c : Char} (other : c ≠ '\r')
    (h : skipLines s = c :: rest) (u : List Char) : skipLines (s ++ u) = c :: rest ++ u := by
  obtain ⟨inside, same⟩ := skipLinesFrom_append false s
  unfold skipLines at h ⊢
  rw [h] at same
  exact same (by simpa using other) u

/-- If nothing is found, then what is behind the next line break. -/
theorem skipLines_append_break {s u next : List Char} (h : skipLines s = []) (line : Grammar.Break u next) :
    skipLines (s ++ u) = skipLines next := by
  obtain ⟨inside, same⟩ := skipLinesFrom_append false s
  unfold skipLines at h ⊢
  rw [h] at same
  exact (same nofun u).trans line.skip

/-! ## Texts -/

namespace Quote

/-- A body that was separated with something in front. -/
theorem push_eq_some {front : List Char} {r : Option (List Char × List Char)} {b rest : List Char}
    (h : push front r = some (b, rest)) : ∃ b', r = some (b', rest) ∧ b = front ++ b' := by
  obtain ⟨⟨b', rest'⟩, found, same⟩ := Option.map_eq_some_iff.1 h
  cases same
  exact ⟨b', found, rfl⟩

/-- A body between double quotes ends at the same quote. -/
theorem steady_body (u : List Char) : Steady u body := by
  intro s rest b h
  fun_induction body s generalizing b with
  | case1 s =>
    cases h
    rfl
  | case2 c s ih =>
    obtain ⟨b', found, rfl⟩ := push_eq_some h
    rw [List.cons_append, List.cons_append, body, ih found]
    rfl
  | case3 c s quote pair ih =>
    obtain ⟨b', found, rfl⟩ := push_eq_some h
    have some : s ≠ [] := by
      rintro rfl
      cases found
    rw [List.cons_append, body, ih found]
    · rfl
    · exact quote
    · intro d more backslash same
      obtain ⟨e, s, rfl⟩ := List.exists_cons_of_ne_nil some
      exact pair e s backslash rfl
  | case4 => cases h

/-- A body between single quotes ends at the same quote. -/
theorem steady_plainBody (u : List Char) : Steady u plainBody := by
  intro s rest b h
  fun_induction plainBody s generalizing b with
  | case1 s =>
    cases h
    rfl
  | case2 c s quote ih =>
    obtain ⟨b', found, rfl⟩ := push_eq_some h
    rw [List.cons_append, plainBody, ih found]
    · rfl
    · exact quote
  | case3 => cases h

/-- There are three quotes in what is separated up to three quotes. -/
theorem length_of_bodyOfLines {s b rest : List Char} (h : bodyOfLines s = some (b, rest)) :
    3 ≤ s.length := by
  fun_induction bodyOfLines s generalizing b with
  | case1 s => simp
  | case2 c s ih =>
    obtain ⟨b', found, -⟩ := push_eq_some h
    have := ih found
    simp only [List.length_cons]
    omega
  | case3 c s quotes pair ih =>
    obtain ⟨b', found, -⟩ := push_eq_some h
    have := ih found
    simp only [List.length_cons]
    omega
  | case4 => cases h

/-- So there are without escapes. -/
theorem length_of_plainBodyOfLines {s b rest : List Char} (h : plainBodyOfLines s = some (b, rest)) :
    3 ≤ s.length := by
  fun_induction plainBodyOfLines s generalizing b with
  | case1 s => simp
  | case2 c s quotes ih =>
    obtain ⟨b', found, -⟩ := push_eq_some h
    have := ih found
    simp only [List.length_cons]
    omega
  | case3 => cases h

/-- Where three characters are, there are two. -/
theorem exists_two {s : List Char} (h : 3 ≤ s.length) : ∃ a b t, s = a :: b :: t := by
  rcases s with _ | ⟨a, _ | ⟨b, t⟩⟩
  · cases h
  · simp at h
  · exact ⟨a, b, t, rfl⟩

/-- Quotes behind the three that close a body are not more than they were. -/
theorem closing_append {quote : Char} {u : List Char} (other : u.head? ≠ some quote) (s : List Char) :
    closing quote (s ++ u) = ((closing quote s).1, (closing quote s).2 ++ u) := by
  rcases s with _ | ⟨a, _ | ⟨b, s⟩⟩
  · rcases u with _ | ⟨a, _ | ⟨b, u⟩⟩
    · rfl
    · simp_all [closing]
    · simp_all [closing]
  · rcases u with _ | ⟨b, u⟩
    · by_cases own : a = quote <;> simp [closing, own]
    · have differs : b ≠ quote := fun e => other (congrArg some e)
      by_cases own : a = quote <;> simp [closing, own, differs]
  · by_cases own : a = quote
    · by_cases next : b = quote <;> simp [closing, own, next]
    · simp [closing, own]

/-- A body of several lines ends at the same quotes if no quote stands behind. -/
theorem steady_bodyOfLines (other : u.head? ≠ some '"') : Steady u bodyOfLines := by
  intro s rest b h
  fun_induction bodyOfLines s generalizing b with
  | case1 s =>
    have whole : closing '"' s = (b, rest) := Option.some.inj h
    rw [List.cons_append, List.cons_append, List.cons_append, bodyOfLines, closing_append other, whole]
  | case2 c s ih =>
    obtain ⟨b', found, rfl⟩ := push_eq_some h
    rw [List.cons_append, List.cons_append, bodyOfLines, ih found]
    rfl
  | case3 c s quotes pair ih =>
    obtain ⟨b', found, rfl⟩ := push_eq_some h
    obtain ⟨d, e, s, rfl⟩ := exists_two (length_of_bodyOfLines found)
    rw [List.cons_append, bodyOfLines, ih found]
    · rfl
    · intro more own same
      cases same
      exact quotes s own rfl
    · intro d' more backslash same
      cases same
      exact pair _ _ backslash rfl
  | case4 => cases h

/-- So does one without escapes. -/
theorem steady_plainBodyOfLines (other : u.head? ≠ some '\'') : Steady u plainBodyOfLines := by
  intro s rest b h
  fun_induction plainBodyOfLines s generalizing b with
  | case1 s =>
    have whole : closing '\'' s = (b, rest) := Option.some.inj h
    rw [List.cons_append, List.cons_append, List.cons_append, plainBodyOfLines, closing_append other, whole]
  | case2 c s quotes ih =>
    obtain ⟨b', found, rfl⟩ := push_eq_some h
    obtain ⟨d, e, s, rfl⟩ := exists_two (length_of_plainBodyOfLines found)
    rw [List.cons_append, plainBodyOfLines, ih found]
    · rfl
    · intro more own same
      cases same
      exact quotes s own rfl
  | case3 => cases h

/-- What a body means does not depend on what follows it. -/
theorem finish_append {meaning : List Char → Option (List Char)} {r : Option (List Char × List Char)}
    {r' : Option (List Char × List Char)} {t rest : List Char}
    (same : ∀ {b rest}, r = some (b, rest) → r' = some (b, rest ++ u))
    (h : finish meaning r = some (t, rest)) : finish meaning r' = some (t, rest ++ u) := by
  obtain ⟨⟨b, rest'⟩, found, read⟩ := Option.bind_eq_some_iff.1 h
  obtain ⟨t', means, e⟩ := Option.map_eq_some_iff.1 read
  cases e
  rw [same found, finish, Option.bind_some]
  dsimp only
  rw [means]
  rfl

/-- A text of one line is read whatever follows. -/
theorem steady_readLine (u : List Char) : Steady u readLine := by
  intro s rest t h
  unfold readLine at h
  split at h
  · exact finish_append (steady_body u) h
  · exact finish_append (steady_plainBody u) h
  · cases h

/-- Three quotes in front are there without what follows, if that is no quote. -/
theorem three_of_append {quote : Char} {s rest : List Char} (other : u.head? ≠ some quote)
    (h : s ++ u = quote :: quote :: quote :: rest) : ∃ more, s = quote :: quote :: quote :: more := by
  match s with
  | [] | [_] | [_, _] => simp_all
  | a :: b :: c :: s =>
    cases h
    exact ⟨s, rfl⟩

/-- A text is read if no quote follows. -/
theorem steady_read (stops : Stops u) : Steady u read := by
  have double : u.head? ≠ some '"' := stops.ne (by decide)
  have single : u.head? ≠ some '\'' := stops.ne (by decide)
  intro s rest t h
  unfold read at h
  split at h
  · exact finish_append (steady_bodyOfLines double) h
  · exact finish_append (steady_plainBodyOfLines single) h
  · rename_i three three'
    have line := steady_readLine u h
    unfold read
    split
    · rename_i same
      obtain ⟨rest, rfl⟩ := three_of_append double same
      exact absurd rfl (three rest)
    · rename_i same
      obtain ⟨rest, rfl⟩ := three_of_append single same
      exact absurd rfl (three' rest)
    · exact line

end Quote

/-! ## Keys and values -/

/-- A row of letters, digits and signs is read if none follows. -/
theorem steady_scalar (stops : Stops u) : Steady u Scalar.read := by
  have row := takeWhile_append_of_stops (p := Scalar.isRowChar) stops (by decide)
  intro s rest v h
  unfold Scalar.read at h ⊢
  dsimp only at h ⊢
  rw [(row s).1, (row s).2]
  split at h
  · rename_i more date gap
    rw [date, gap, List.cons_append]
    simp only [(row more).1, (row more).2]
    split at h
    · rename_i time
      cases h
      rw [if_pos time]
    · rename_i time
      cases h
      rw [if_neg time, gap]
      rfl
  · rename_i single
    obtain ⟨v', read, same⟩ := Option.map_eq_some_iff.1 h
    cases same
    rw [read]
    split
    · rename_i more date gap
      obtain ⟨rest, behind⟩ := cons_of_append (stops.ne (by decide)) gap
      exact absurd behind (single rest date)
    · rfl

/-- A value that holds no others is read. -/
theorem steady_readSimple (stops : Stops u) : Steady u readSimple := by
  intro s rest v h
  unfold readSimple at h
  split at h
  · obtain ⟨⟨t, rest'⟩, read, same⟩ := Option.map_eq_some_iff.1 h
    cases same
    have more := Quote.steady_read stops read
    rw [List.cons_append] at more ⊢
    rw [readSimple, more]
    rfl
  · obtain ⟨⟨t, rest'⟩, read, same⟩ := Option.map_eq_some_iff.1 h
    cases same
    have more := Quote.steady_read stops read
    rw [List.cons_append] at more ⊢
    rw [readSimple, more]
    rfl
  · rename_i double single
    have more := steady_scalar stops h
    unfold readSimple
    split
    · rename_i same
      obtain ⟨rest, rfl⟩ := cons_of_append (stops.ne (by decide)) same
      exact absurd rfl (double rest)
    · rename_i same
      obtain ⟨rest, rfl⟩ := cons_of_append (stops.ne (by decide)) same
      exact absurd rfl (single rest)
    · exact more

/-- A part of a key is read. -/
theorem steady_readKey (stops : Stops u) : Steady u readKey := by
  have run := takeWhile_append_of_stops (p := isKeyChar) stops (by decide)
  intro s rest key h
  unfold readKey at h
  split at h
  · have more := Quote.steady_readLine u h
    rw [List.cons_append] at more ⊢
    rwa [readKey]
  · have more := Quote.steady_readLine u h
    rw [List.cons_append] at more ⊢
    rwa [readKey]
  · rename_i double single
    dsimp only at h
    split at h
    · cases h
    rename_i full
    cases h
    unfold readKey
    split
    · rename_i same
      obtain ⟨more, rfl⟩ := cons_of_append (stops.ne (by decide)) same
      exact absurd rfl (double more)
    · rename_i same
      obtain ⟨more, rfl⟩ := cons_of_append (stops.ne (by decide)) same
      exact absurd rfl (single more)
    · dsimp only
      rw [(run s).1, (run s).2, if_neg full]

/-- A dotted key is read. -/
theorem steady_readPathOf (stops : Stops u) (parts : Nat) : Steady u (readPathOf parts) := by
  induction parts with
  | zero =>
    intro s rest path h
    cases h
  | succ parts ih =>
    intro s rest path h
    unfold readPathOf at h ⊢
    rw [skipGaps_append stops]
    split at h
    · cases h
    rename_i key after read
    rw [steady_readKey stops read]
    dsimp only at h ⊢
    rw [skipGaps_append stops]
    split at h
    · rename_i behind next
      obtain ⟨⟨path', rest'⟩, later, same⟩ := Option.map_eq_some_iff.1 h
      cases same
      rw [next, List.cons_append]
      simp only [ih later]
      rfl
    · rename_i last
      cases h
      split
      · rename_i more same
        obtain ⟨rest, point⟩ := cons_of_append (stops.ne (by decide)) same
        exact absurd point (last rest)
      · rfl

section Nested

variable {value : Reader Value}

/-- A key and its value are read. -/
theorem steady_readAssignment (stops : Stops u) (inner : Steady u value) :
    Steady u (readAssignment value) := by
  intro s rest a h
  unfold readAssignment at h ⊢
  split at h
  · rename_i path behind key
    obtain ⟨⟨v, rest'⟩, read, same⟩ := Option.map_eq_some_iff.1 h
    cases same
    have whole : readPath (s ++ u) = some (path, '=' :: behind ++ u) :=
      steady_readPathOf stops depthLimit key
    rw [whole, List.cons_append]
    simp only [skipGaps_append stops, inner read]
    rfl
  · cases h

/-- What is read starts with a character that is no half of a line break. -/
def Starts {α : Type} (reader : Reader α) : Prop :=
  ∀ {s rest : List Char} {a : α}, reader s = some (a, rest) → ∃ c more, s = c :: more ∧ c ≠ '\r'

/-- The items of an array are read. -/
theorem readItems_append (starts : Starts value) (inner : Steady u value) {limit : Nat}
    {s rest : List Char} {items : List Value} (h : readItems value limit s = some (items, rest))
    {more : Nat} (enough : limit ≤ more) :
    readItems value more (s ++ u) = some (items, rest ++ u) := by
  induction limit generalizing s items more with
  | zero => cases h
  | succ limit ih =>
    obtain ⟨more, rfl⟩ : ∃ n, more = n + 1 := ⟨more - 1, by omega⟩
    unfold readItems at h ⊢
    split at h
    · rename_i behind close
      cases h
      rw [skipLines_append (by decide) close]
      rfl
    rename_i open_
    split at h
    · cases h
    rename_i item after read
    obtain ⟨c, t, start, own⟩ := starts read
    have bracket : c ≠ ']' := fun e => open_ t (start.trans (e ▸ rfl))
    rw [skipLines_append own start]
    rw [start] at read
    split
    · rename_i same
      cases same
      exact absurd rfl bracket
    rw [inner read]
    dsimp only
    split at h
    · rename_i close
      cases h
      rw [skipLines_append (by decide) close]
      rfl
    · rename_i behind comma
      obtain ⟨⟨items', rest'⟩, later, same⟩ := Option.map_eq_some_iff.1 h
      cases same
      rw [skipLines_append (by decide) comma, List.cons_append]
      simp only [ih later (by omega : limit ≤ more)]
      rfl
    · cases h

/-- The entries of a table between braces are read. -/
theorem readEntries_append (stops : Stops u) (inner : Steady u value) {limit : Nat}
    {s rest : List Char} {entries : List Assignment}
    (h : readEntries value limit s = some (entries, rest)) {more : Nat} (enough : limit ≤ more) :
    readEntries value more (s ++ u) = some (entries, rest ++ u) := by
  induction limit generalizing s entries more with
  | zero => cases h
  | succ limit ih =>
    obtain ⟨more, rfl⟩ : ∃ n, more = n + 1 := ⟨more - 1, by omega⟩
    unfold readEntries at h ⊢
    split at h
    · cases h
    rename_i entry after read
    rw [steady_readAssignment stops inner read]
    dsimp only
    rw [skipGaps_append stops]
    split at h
    · rename_i behind close
      cases h
      rw [close]
      rfl
    · rename_i behind comma
      obtain ⟨⟨entries', rest'⟩, later, same⟩ := Option.map_eq_some_iff.1 h
      cases same
      rw [comma, List.cons_append]
      simp only [ih later (by omega : limit ≤ more)]
      rfl
    · cases h

/-- A table between braces is read behind the first of them. -/
theorem steady_readBraces (stops : Stops u) (inner : Steady u value) : Steady u (readBraces value) := by
  intro s rest entries h
  unfold readBraces at h ⊢
  rw [skipGaps_append stops]
  split at h
  · rename_i behind close
    cases h
    rw [close]
    rfl
  · rename_i open_
    have some : skipGaps s ≠ [] := by
      intro none
      rw [none] at h
      cases h
    obtain ⟨c, t, start⟩ := List.exists_cons_of_ne_nil some
    rw [start] at h open_ ⊢
    have brace : c ≠ '\x7d' := by
      rintro rfl
      exact open_ t rfl
    have read := readEntries_append stops inner h
      (List.length_append ▸ Nat.le_add_right _ _ : (c :: t).length ≤ (c :: t ++ u).length)
    split
    · rename_i same
      cases same
      exact absurd rfl brace
    · exact read

/-- A value without others in it starts with no half of a line break. -/
theorem starts_readSimple : Starts readSimple := by
  intro s rest v h
  match s with
  | [] => exact absurd h (by rw [show readSimple [] = none by decide]; nofun)
  | c :: more =>
    refine ⟨c, more, rfl, ?_⟩
    rintro rfl
    -- Without any characters there is no row.
    have row : ('\r' :: more).takeWhile Scalar.isRowChar = [] :=
      List.takeWhile_cons_of_neg (by decide)
    have nothing : Scalar.read ('\r' :: more) = none := by
      unfold Scalar.read
      dsimp only
      rw [row]
      have date : Scalar.isDate [] = false := by decide
      have empty : Scalar.ofRow [] = none := by decide
      rw [date, empty]
      rfl
    rw [readSimple, nothing] at h
    · cases h
    · exact fun _ e => absurd (List.cons.inj e).1 (by decide)
    · exact fun _ e => absurd (List.cons.inj e).1 (by decide)

/-- So does every value. -/
theorem starts_readValueOf (depth : Nat) : Starts (readValueOf depth) := by
  intro s rest v h
  cases depth with
  | zero => exact starts_readSimple h
  | succ depth =>
    unfold readValueOf at h
    split at h
    · exact ⟨_, _, rfl, by decide⟩
    · exact ⟨_, _, rfl, by decide⟩
    · exact starts_readSimple h

/-- A value is read, whatever stands in it. -/
theorem steady_readValueOf (stops : Stops u) (depth : Nat) : Steady u (readValueOf depth) := by
  induction depth with
  | zero => exact steady_readSimple stops
  | succ depth ih =>
    intro s rest v h
    unfold readValueOf at h
    split at h
    · rename_i inside
      obtain ⟨⟨items, rest'⟩, read, same⟩ := Option.map_eq_some_iff.1 h
      cases same
      have enough : inside.length + 1 ≤ (inside ++ u).length + 1 := by
        rw [List.length_append]
        omega
      have whole := readItems_append (u := u) (starts_readValueOf depth) ih read enough
      rw [List.cons_append, readValueOf, whole]
      rfl
    · rename_i inside
      split at h
      · rename_i entries rest' read
        obtain ⟨v', table, same⟩ := Option.map_eq_some_iff.1 h
        cases same
        rw [List.cons_append, readValueOf]
        simp only [steady_readBraces stops ih read, table]
        rfl
      · cases h
    · rename_i array table
      obtain ⟨c, s, rfl, -⟩ := starts_readSimple h
      have more := steady_readSimple stops h
      rw [List.cons_append] at more ⊢
      rw [readValueOf]
      · exact more
      · rintro _ e
        cases e
        exact array _ rfl
      · rintro _ e
        cases e
        exact table _ rfl

end Nested

/-! ## Lines -/

/-- A header is read. -/
theorem steady_readHeader (stops : Stops u) : Steady u readHeader := by
  intro s rest header h
  unfold readHeader at h
  split at h
  · rename_i inside
    split at h
    · rename_i path behind key
      cases h
      have whole : readPath (inside ++ u) = some (path, ']' :: ']' :: rest ++ u) :=
        steady_readPathOf stops depthLimit key
      rw [List.cons_append, List.cons_append, readHeader]
      simp only [whole, List.cons_append]
    · cases h
  · rename_i inside double
    split at h
    · rename_i path behind key
      cases h
      have whole : readPath (inside ++ u) = some (path, ']' :: rest ++ u) :=
        steady_readPathOf stops depthLimit key
      rw [List.cons_append, readHeader]
      · simp only [whole, List.cons_append]
      · intro more same
        obtain ⟨more', rfl⟩ := cons_of_append (stops.ne (by decide)) same
        exact double more' rfl
    · cases h
  · cases h

/-- A line break stops a reader, and no line goes on with it. -/
theorem stops_of_break {next : List Char} (line : Grammar.Break u next) :
    Stops u ∧ ∀ c ∈ u.head?, isLineChar c = false := by
  cases line with
  | feed => exact ⟨fun c found => Option.some.inj found ▸ by decide,
      fun c found => Option.some.inj found ▸ by decide⟩
  | pair => exact ⟨fun c found => Option.some.inj found ▸ by decide,
      fun c found => Option.some.inj found ▸ by decide⟩

/-- A comment ends in front of a line break. -/
theorem skipComment_append {next : List Char} (line : Grammar.Break u next) (s : List Char) :
    skipComment (s ++ u) = skipComment s ++ u := by
  obtain ⟨stops, out⟩ := stops_of_break line
  unfold skipComment
  split
  · rename_i same
    obtain ⟨more, rfl⟩ := cons_of_append (stops.ne (by decide)) same
    cases same
    exact (takeWhile_append_of_stop out more).2
  · rename_i other
    split
    · rename_i more
      exact absurd rfl (other (more ++ u))
    · rfl

/-- The end of a line is where it was, or it was the end of the text, and the line ends at the line break that
follows. -/
theorem endLine_append {s next later : List Char} (h : endLine s = some next)
    (line : Grammar.Break u later) :
    endLine (s ++ u) = some (next ++ u) ∨ next = [] ∧ endLine (s ++ u) = some later := by
  have whole : skipComment (skipGaps (s ++ u)) = skipComment (skipGaps s) ++ u := by
    rw [skipGaps_append (stops_of_break line).1, skipComment_append line]
  unfold endLine at h ⊢
  rw [whole]
  split at h
  · rename_i ended
    cases h
    rw [ended, List.nil_append]
    cases line with
    | feed => exact .inr ⟨rfl, rfl⟩
    | pair => exact .inr ⟨rfl, rfl⟩
  · rename_i feed
    cases h
    rw [feed]
    exact .inl rfl
  · rename_i pair
    cases h
    rw [pair]
    exact .inl rfl
  · cases h

end Detour.Toml
