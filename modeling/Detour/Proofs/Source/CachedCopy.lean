import Detour.Proofs.File.Place
import Detour.Source
import Mathlib.Data.List.Basic
/-!
# Where cached copies are

The path of a cached copy is made from the name of the list, and any text may be such a name. A name without
slashes, or with names of entries between them, is plain. Main statement: the copies of plain names are in
the cache directory, each in a file of its own, and so are those of names that never lead above it, which
only spell plain ones in another way. For any other name there is a cache directory that its copy is not in, and
for a name that starts at the root the cache directory does not even matter.
-/

namespace Detour.Source

open File (Tree Path IsEntryName enter)

/-- A name that has only names of entries in front of its slashes. -/
def IsPlainName (name : List Char) : Prop :=
  ∀ part ∈ (Text.splitOn '/' name).dropLast, part ≠ [] ∧ IsEntryName part

/-- The last part of a name, which the ending follows. -/
def lastPart (name : List Char) : List Char :=
  (Text.splitOn '/' name).getLast (Text.splitOn_ne_nil '/' name)

/-- The parts of a name that are followed before the last one. -/
def folders (name : List Char) : List (List Char) :=
  (Text.splitOn '/' name).dropLast.filter (!·.isEmpty)

/-- The plain name that leads to the same copy, if the name never leads above the cache directory. -/
def plainName (name : List Char) : List Char :=
  Text.joinWith '/' ((folders name).foldl enter [] ++ [lastPart name])

/-- The path from a cache directory to the copy of a list. -/
def copyPath (name : List Char) : Path := name ++ cacheEnding

variable {t : Tree} {cache : Path} {name : List Char}

/-- What ends like a cached copy is a name of an entry. -/
theorem isEntryName_append_ending (s : List Char) : IsEntryName (s ++ cacheEnding) := by
  refine File.isEntryName_of_length ?_
  have ending : cacheEnding.length = 6 := rfl
  rw [List.length_append, ending]
  omega

/-- The ending lengthens the last part of a name. -/
theorem splitOn_copyPath (name : List Char) : Text.splitOn '/' (copyPath name) =
    (Text.splitOn '/' name).dropLast ++ [lastPart name ++ cacheEnding] :=
  Text.splitOn_append_of_not_mem (by decide) name

/-- The names that lead to a copy are parts of the name of the list. -/
theorem names_copyPath (name : List Char) :
    (copyPath name).names = folders name ++ [lastPart name ++ cacheEnding] := by
  have kept : [lastPart name ++ cacheEnding].filter (!·.isEmpty) = [lastPart name ++ cacheEnding] := by
    refine List.filter_eq_self.2 fun part found => ?_
    rw [List.mem_singleton.1 found]
    cases lastPart name <;> rfl
  rw [Path.names, splitOn_copyPath, List.filter_append, kept]
  rfl

/-- The path of a copy starts at the root exactly if the name of the list does. -/
theorem isAbsolute_copyPath (name : List Char) : (copyPath name).isAbsolute = Path.isAbsolute name := by
  cases name <;> rfl

/-- A name without slashes is plain. -/
theorem isPlainName_of_not_mem (h : '/' ∉ name) : IsPlainName name := by
  intro part found
  rw [Text.splitOn_of_not_mem h] at found
  cases found

/-- The names that lead to the copy of a plain name are its parts. -/
theorem IsPlainName.names_copyPath (h : IsPlainName name) :
    (copyPath name).names = Text.splitOn '/' (copyPath name) := by
  have full : folders name = (Text.splitOn '/' name).dropLast := by
    refine List.filter_eq_self.2 fun part found => ?_
    simpa using (h part found).1
  rw [Source.names_copyPath, splitOn_copyPath, full]

/-- They are names of entries. -/
theorem IsPlainName.isEntryName (h : IsPlainName name) :
    ∀ part ∈ (copyPath name).names, IsEntryName part := by
  intro part found
  rw [h.names_copyPath, splitOn_copyPath] at found
  rcases List.mem_append.1 found with front | last
  · exact (h part front).2
  · rw [List.mem_singleton.1 last]
    exact isEntryName_append_ending _

/-- A plain name does not start at the root. -/
theorem IsPlainName.isAbsolute (h : IsPlainName name) : Path.isAbsolute name = false := by
  cases name with
  | nil => rfl
  | cons c rest =>
    rw [Path.isAbsolute, List.head?_cons, decide_eq_false_iff_not, Option.some.injEq]
    rintro rfl
    have parts : Text.splitOn '/' ('/' :: rest) = [] :: Text.splitOn '/' rest :=
      Text.splitOn_append rest List.not_mem_nil
    refine (h [] ?_).1 rfl
    rw [parts, List.dropLast_cons_of_ne_nil (Text.splitOn_ne_nil '/' rest)]
    exact List.mem_cons_self

/-- The path to the copy of a plain name never leads above where it starts. -/
theorem IsPlainName.staysBelow (h : IsPlainName name) : (copyPath name).StaysBelow where
  relative := by rw [isAbsolute_copyPath, h.isAbsolute]
  below := File.staysBelow_of_isEntryName h.isEntryName 0

/-- The copy of a plain name is in the cache directory, where its name says. -/
theorem IsPlainName.place_cachePath (h : IsPlainName name) (t : Tree) (cache : Path) :
    t.place (cachePath cache name) = t.place cache ++ Text.splitOn '/' (copyPath name) := by
  rw [← h.names_copyPath]
  have way := h.staysBelow.place_join t cache
  rwa [File.foldl_enter_of_isEntryName h.isEntryName, List.nil_append] at way

/-- A source whose request failed is read from the copy under the name of its list. -/
theorem accept_remote (url : List Char) (t : Tree) (cache : Path) :
    (Source.remote url cache).accept (t.read (Source.remote url cache).path) =
      (loadCached t cache listName).mapError .remote := by
  change accept _ (t.read (cachePath cache listName)) = _
  rw [loadCached]
  cases t.read (cachePath cache listName) <;> rfl

/-- This copy is in the cache directory itself. -/
theorem place_path_remote (url : List Char) (t : Tree) (cache : Path) :
    t.place (Source.remote url cache).path = t.place cache ++ ["gfwlist.cache".toList] :=
  (isPlainName_of_not_mem (by decide)).place_cachePath t cache

/-- Plain names with the same copy are equal. -/
theorem IsPlainName.eq_of_place_eq {other : List Char} (h : IsPlainName name) (h' : IsPlainName other)
    (same : t.place (cachePath cache other) = t.place (cachePath cache name)) : other = name := by
  rw [h.place_cachePath, h'.place_cachePath] at same
  have parts := List.append_cancel_left same
  have paths := congrArg (Text.joinWith '/') parts
  rw [Text.joinWith_splitOn, Text.joinWith_splitOn] at paths
  exact List.append_cancel_right paths

/-- The way to a copy ends with its own name. -/
theorem way_copyPath (name : List Char) : (copyPath name).names.foldl enter [] =
    (folders name).foldl enter [] ++ [lastPart name ++ cacheEnding] := by
  rw [names_copyPath, List.foldl_append, List.foldl_cons, List.foldl_nil,
    File.enter_of_isEntryName (isEntryName_append_ending _)]

/-- The parts of a name that were followed are found again in its plain form. -/
theorem splitOn_plainName (name : List Char) :
    Text.splitOn '/' (plainName name) = (folders name).foldl enter [] ++ [lastPart name] := by
  refine Text.splitOn_joinWith (by simp) fun part found => ?_
  rcases List.mem_append.1 found with front | last
  · rcases File.mem_foldl_enter front with start | ⟨part, -⟩
    · cases start
    · exact Text.not_mem_of_mem_splitOn (List.dropLast_subset _ (List.mem_filter.1 part).1)
  · rw [List.mem_singleton.1 last]
    exact Text.not_mem_of_mem_splitOn (List.getLast_mem _)

/-- The plain form of a name is plain. -/
theorem isPlainName_plainName (name : List Char) : IsPlainName (plainName name) := by
  intro part found
  rw [splitOn_plainName, List.dropLast_concat] at found
  rcases File.mem_foldl_enter found with start | ⟨own, entry⟩
  · cases start
  · refine ⟨?_, entry⟩
    simpa using (List.mem_filter.1 own).2

/-- A name that never leads above the cache directory has the copy of its plain form. -/
theorem place_plainName (h : (copyPath name).StaysBelow) (t : Tree) (cache : Path) :
    t.place (cachePath cache (plainName name)) = t.place (cachePath cache name) := by
  have last : lastPart (plainName name) = lastPart name := by
    simp only [lastPart, splitOn_plainName, List.getLast_concat]
  have way := h.place_join t cache
  rw [way_copyPath] at way
  rw [(isPlainName_plainName name).place_cachePath, splitOn_copyPath, splitOn_plainName,
    List.dropLast_concat, last]
  exact way.symm

/-- A name that is too long for a part of a text. -/
def freshName (s : List Char) : List Char := List.replicate (s.length + 3) 'x'

/-- No part of a text is as long. -/
theorem freshName_not_mem_names (p : Path) : freshName p ∉ p.names := by
  intro part
  have short := Text.length_le_of_mem_splitOn (List.mem_filter.1 part).1
  rw [freshName, List.length_replicate] at short
  omega

/-- A directory with such a name at the root has this name as its place. -/
theorem place_freshName (t : Tree) (s : List Char) :
    t.place ('/' :: freshName s) = [freshName s] := by
  have solid : '/' ∉ freshName s := fun found => absurd (List.eq_of_mem_replicate found) (by decide)
  have names : Path.names ('/' :: freshName s) = [freshName s] := by
    refine (Path.names_append_cons [] (freshName s)).trans ?_
    rw [Path.names, Path.names, Text.splitOn_of_not_mem solid]
    rfl
  have entry : IsEntryName (freshName s) := by
    refine File.isEntryName_of_length ?_
    rw [freshName, List.length_replicate]
    omega
  have absolute : Path.isAbsolute ('/' :: freshName s) = true := rfl
  rw [Tree.place, if_pos absolute, names]
  exact File.enter_of_isEntryName entry []

/-- A path that starts at the root does not lead on from the cache directory. -/
theorem cachePath_of_isAbsolute (h : Path.isAbsolute name = true) (cache : Path) :
    cachePath cache name = copyPath name := by
  have absolute : (copyPath name).isAbsolute = true := by rw [isAbsolute_copyPath, h]
  rw [cachePath, Path.join, ← copyPath, absolute, Bool.true_or, if_pos rfl]

/-- The copy under a name is below every cache directory exactly if the name never leads above where it
starts. -/
theorem forall_inside_iff (name : List Char) :
    (∀ (t : Tree) cache, ∃ way ≠ [], t.place (cachePath cache name) = t.place cache ++ way) ↔
      (copyPath name).StaysBelow := by
  constructor
  · intro inside
    -- A cache directory that has none of the parts of the name for its own can only be left for good.
    obtain ⟨way, -, place⟩ := inside ⟨.directory File.newDirectoryMode [], [], false⟩
      ('/' :: freshName (copyPath name))
    have through : freshName (copyPath name) ∈
        Tree.place ⟨.directory File.newDirectoryMode [], [], false⟩
          (cachePath ('/' :: freshName (copyPath name)) name) := by
      rw [place, place_freshName]
      exact List.mem_cons_self
    have fresh := freshName_not_mem_names (copyPath name)
    have relative : (copyPath name).isAbsolute = false := by
      rw [Bool.eq_false_iff]
      intro absolute
      rw [cachePath_of_isAbsolute (by rwa [← isAbsolute_copyPath]), Tree.place, if_pos absolute] at through
      rcases File.mem_foldl_enter through with start | ⟨part, -⟩
      · cases start
      · exact fresh part
    refine ⟨relative, ?_⟩
    rw [← Bool.not_eq_false]
    intro leaves
    rw [cachePath, ← copyPath, Tree.place_join relative, place_freshName] at through
    exact File.not_mem_foldl_enter [] leaves List.not_mem_nil fresh through
  · intro h t cache
    refine ⟨(copyPath name).names.foldl enter [], ?_, h.place_join t cache⟩
    rw [way_copyPath]
    simp

/-- A load gives back the bytes of the file at the place of the copy. This place is below that of every cache
directory exactly if the name never leads above where it starts; then the load does not depend on anything
outside of the directory, and the name has the copy of a plain name. Plain names are such names. Their
copies are where the directory, a slash and the name lead, and no two of them have the same copy. For a
name that starts at the root the cache directory does not matter. -/
theorem loadCached_by_name (name : List Char) :
    (∀ t cache bytes, loadCached t cache name = .ok bytes →
        ∃ mode, t.root.at? (t.place (cachePath cache name)) = some (.file mode bytes)) ∧
      ((∀ (t : Tree) cache, ∃ way ≠ [], t.place (cachePath cache name) = t.place cache ++ way) ↔
        (copyPath name).StaysBelow) ∧
      ((copyPath name).StaysBelow →
        (∀ a b cache, a.AgreeAt b cache → loadCached a cache name = loadCached b cache name) ∧
          ∃ plain, IsPlainName plain ∧ ∀ (t : Tree) cache,
            t.place (cachePath cache plain) = t.place (cachePath cache name)) ∧
      (IsPlainName name → (copyPath name).StaysBelow ∧
        (∀ (t : Tree) cache,
          t.place (cachePath cache name) = t.place cache ++ Text.splitOn '/' (copyPath name)) ∧
        ∀ other, IsPlainName other → ∀ (t : Tree) cache,
          t.place (cachePath cache other) = t.place (cachePath cache name) → other = name) ∧
      (Path.isAbsolute name = true →
        ∀ t cache other, loadCached t cache name = loadCached t other name) := by
  refine ⟨fun t cache bytes loaded => ?_, forall_inside_iff name, fun below => ⟨?_, ?_⟩,
    fun plain => ⟨plain.staysBelow, plain.place_cachePath, ?_⟩, fun absolute t cache other => ?_⟩
  · exact Tree.at?_of_read (loadCached_eq_ok_iff.1 loaded)
  · intro a b cache same
    rw [loadCached, loadCached]
    exact congrArg _ (same.read_join below)
  · exact ⟨plainName name, isPlainName_plainName name, place_plainName below⟩
  · intro other plain' t cache same
    exact plain.eq_of_place_eq plain' same
  · rw [loadCached, loadCached, cachePath_of_isAbsolute absolute, cachePath_of_isAbsolute absolute]

/-- Files in a cache directory, and files of the same names beside it. -/
def besideCache : Tree :=
  ⟨.directory 0o755 [("cache".toList, .directory 0o755 [("list.cache".toList, .file 0o644 [1]),
      ("srv".toList, .directory 0o755 [("list.cache".toList, .file 0o644 [2])])]),
    ("list.cache".toList, .file 0o644 [3]),
    ("srv".toList, .directory 0o755 [("list.cache".toList, .file 0o644 [4])])], [], true⟩

/-- The copy under a name that starts at the root is beside the cache directory, although there is a file
where the directory, a slash and the name lead. Under a name that leads above it is beside the directory,
too, and two names may have one copy. -/
theorem loadCached_beside_cache :
    besideCache.place "/cache".toList = ["cache".toList] ∧
      besideCache.read "/cache//srv/list.cache".toList = .ok [2] ∧
      besideCache.place (cachePath "/cache".toList "/srv/list".toList) =
        ["srv".toList, "list.cache".toList] ∧
      loadCached besideCache "/cache".toList "/srv/list".toList = .ok [4] ∧
      besideCache.place (cachePath "/cache".toList "../list".toList) = ["list.cache".toList] ∧
      loadCached besideCache "/cache".toList "../list".toList = .ok [3] ∧
      besideCache.place (cachePath "/cache".toList "./list".toList) =
        besideCache.place (cachePath "/cache".toList "list".toList) ∧
      loadCached besideCache "/cache".toList "./list".toList = .ok [1] := by
  decide +kernel

end Detour.Source
