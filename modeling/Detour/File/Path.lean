import Detour.Text.Split
import Detour.Text.Utf8
/-!
# Paths of files

A path is a text whose names are separated by slashes. It starts at the root if it starts with a slash,
and elsewhere at the directory in which the program runs.
-/

namespace Detour.File

/-- A path, as it was written. -/
abbrev Path := List Char

namespace Path

/-- Whether a path starts at the root. -/
def isAbsolute (p : Path) : Bool := p.head? = some '/'

/-- Whether a path ends with a slash and so can only be that of a directory. -/
def endsInSlash (p : Path) : Bool := p.getLast? = some '/'

/-- The names in a path, from the first to the last. -/
def names (p : Path) : List (List Char) := (Text.splitOn '/' p).filter (!·.isEmpty)

/-- The size of a path in bytes. -/
def size (p : Path) : Nat := (Text.Utf8.encode p).length

/-- The path that leads on from a directory. A path that starts at the root stays as it is. -/
def join (directory p : Path) : Path :=
  if p.isAbsolute || directory.isEmpty then p
  else if directory.endsInSlash then directory ++ p
  else directory ++ '/' :: p

/-- A file in a directory, by a relative path. -/
theorem join_of_relative {directory p : Path} (hp : p.isAbsolute = false)
    (hd : directory ≠ []) (hs : directory.endsInSlash = false) :
    join directory p = directory ++ '/' :: p := by
  simp [join, hp, hd, hs]

end Path

end Detour.File
