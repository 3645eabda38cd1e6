import Detour.Text.Split
import Detour.Url.Percent
/-!
# Paths

A path is cut into segments at its slashes. A segment of one dot disappears and one of two dots takes
the segment before it along, except the letter of a drive; a dot may be written `%2e`. What
remains is escaped and put together again.
-/

namespace Detour.Url

/-- A segment with its escaped dots read. -/
def readDots : List Char → List Char
  | '%' :: '2' :: 'e' :: rest | '%' :: '2' :: 'E' :: rest => '.' :: readDots rest
  | '.' :: rest => '.' :: readDots rest
  | rest => rest

/-- Whether a segment stands for where it is. -/
def isHere (segment : List Char) : Bool := readDots segment = ['.']

/-- Whether a segment stands for one level up. -/
def isUp (segment : List Char) : Bool := readDots segment = ['.', '.']

/-- Whether a segment is the letter of a drive. -/
def isDrive (segment : List Char) : Bool :=
  match segment with
  | [letter, mark] => letter.isAlpha && (mark = ':' || mark = '|')
  | _ => false

/-- Go one level up, but not above a drive. The segments are given last one first. -/
def goUp : List (List Char) → List (List Char)
  | [] => []
  | segment :: before => if isDrive segment then segment :: before else before

/-- The segments that remain of some that end with a slash and a last one; those before them are in
`done`. The result is given last segment first. -/
def resolve (done : List (List Char)) : List (List Char) → List (List Char)
  | [] => [] :: done
  | [last] =>
    if isUp last then [] :: goUp done
    else if isHere last then [] :: done
    else percentEncode escapedInPath last :: done
  | segment :: rest =>
    if isUp segment then resolve (goUp done) rest
    else if isHere segment then resolve done rest
    else resolve (percentEncode escapedInPath segment :: done) rest

/-- The segments that remain of a path. -/
def resolved (segments : List (List Char)) : List (List Char) := (resolve [] segments).reverse

/-- Segments with a slash in front of each. -/
def slashed (segments : List (List Char)) : List Char := '/' :: Text.joinWith '/' segments

/-- Whether a character ends a segment; in the URLs of well-known schemes a backslash does, too. -/
def isSlash (special : Bool) (c : Char) : Bool := c = '/' || (special && c = '\\')

/-- The segments of a path without its first slash. -/
def segments (special : Bool) (s : List Char) : List (List Char) :=
  Text.splitOn '/' (s.map fun c => if isSlash special c then '/' else c)

/-- The path of a URL with a well-known scheme, which is never empty. -/
def specialPath (s : List Char) : List Char :=
  let rest := match s with
    | c :: rest => if isSlash true c then rest else c :: rest
    | [] => []
  slashed (resolved (segments true rest))

/-- The path of a URL with an unknown scheme. -/
def plainPath (s : List Char) : List Char :=
  match s with
  | [] => []
  | '/' :: rest => slashed (resolved (segments false rest))
  | rest => slashed (resolved (segments false rest))

/-- Whether some segment comes to stand first and is the letter of a drive. The segments before are
given last one first. -/
def startsWithDrive (done : List (List Char)) : List (List Char) → Bool
  | [] => false
  | segment :: rest =>
    if isUp segment then startsWithDrive (goUp done) rest
    else if isHere segment then startsWithDrive done rest
    else (done.isEmpty && isDrive segment) || startsWithDrive (segment :: done) rest

/-- The path of a URL of a file on a host: empty segments in front are dropped. No path if it starts
with the letter of a drive, for then the host is void. -/
def filePath (s : List Char) : Option (List Char) :=
  let rest := match s with
    | c :: rest => if isSlash true c then rest else c :: rest
    | [] => []
  let parts := segments true rest
  if startsWithDrive [] parts then none
  else
    let kept := (resolved parts).dropWhile List.isEmpty
    some (slashed (if kept.isEmpty then [[]] else kept))

end Detour.Url
