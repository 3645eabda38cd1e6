import Detour.Url.Basic
import Detour.Url.Path
/-!
# Reading URLs

`read` takes a text apart into a scheme, a user, a host, a port, a path, a query and a fragment and
brings each into its normal form. Not every text is a URL with a host: it may have no scheme, be a
URL without a host, or be malformed.
-/

namespace Detour.Url

/-- What a text is, read as a URL. -/
inductive Outcome where
  /-- A URL with a host. -/
  | url (u : Url)
  /-- A URL without a host. -/
  | hostless
  /-- A text without a scheme. -/
  | relative
  /-- A text with a scheme that is no URL. -/
  | malformed
  deriving DecidableEq, Repr

/-- Controls and blanks, which are dropped at the ends of a text. -/
def isEdge (c : Char) : Bool := c.toNat ≤ 0x20

/-- Tabs and line breaks, which are dropped everywhere. -/
def isIgnored (c : Char) : Bool := c = '\t' || c = '\n' || c = '\r'

/-- A text without the characters that a URL reader ignores. -/
def clean (s : List Char) : List Char :=
  (((s.dropWhile isEdge).reverse.dropWhile isEdge).reverse).filter (!isIgnored ·)

/-- The characters of a scheme behind its first letter. -/
def isSchemeChar (c : Char) : Bool := c.isAlphanum || c = '+' || c = '-' || c = '.'

/-- The scheme of a text and what follows its colon. -/
def splitScheme (s : List Char) : Option (List Char × List Char) :=
  if s.head?.any Char.isAlpha then
    match s.dropWhile isSchemeChar with
    | ':' :: rest => some ((s.takeWhile isSchemeChar).map Char.toLower, rest)
    | _ => none
  else none

/-- The usual port of a well-known scheme. -/
def usualPort (scheme : List Char) : Option Nat :=
  if scheme = "http".toList ∨ scheme = "ws".toList then some 80
  else if scheme = "https".toList ∨ scheme = "wss".toList then some 443
  else if scheme = "ftp".toList then some 21
  else none

/-- Whether a scheme is that of files. -/
def isFile (scheme : List Char) : Bool := scheme = "file".toList

/-- Whether a character ends the part of a URL that holds the user, the host and the port. -/
def endsAuthority (special : Bool) (c : Char) : Bool := c = '?' || c = '#' || isSlash special c

/-- What stands in front of the last at sign, if there is one, and what stands behind it. -/
def splitUser (s : List Char) : Option (List Char) × List Char :=
  let back := s.reverse
  match back.dropWhile (· ≠ '@') with
  | _ :: front => (some front.reverse, (back.takeWhile (· ≠ '@')).reverse)
  | [] => (none, s)

/-- The normal form of a user. -/
def normalUser (s : List Char) : List Char :=
  let password := (s.dropWhile (· ≠ ':')).drop 1
  percentEncode escapedInUser (s.takeWhile (· ≠ ':')) ++
    if password.isEmpty then [] else ':' :: percentEncode escapedInUser password

/-- The host in front of the first colon outside brackets, and the rest; `before` is what was read
of the host, last character first. -/
def splitHostFrom (inBrackets : Bool) (before : List Char) :
    List Char → List Char × List Char
  | [] => (before.reverse, [])
  | c :: rest =>
    if c = ':' ∧ inBrackets = false then (before.reverse, c :: rest)
    else
      let inBrackets := if c = '[' then true else if c = ']' then false else inBrackets
      splitHostFrom inBrackets (c :: before) rest

/-- The host in front of the first colon outside brackets, and the rest. -/
def splitHost (s : List Char) : List Char × List Char := splitHostFrom false [] s

/-- The port behind a colon, if any digit stands there, and what follows it. No result for a port
above 65535 or for other characters in it. -/
def readPort (s : List Char) : Option (Option Nat × List Char) :=
  match s with
  | ':' :: rest =>
    let digits := rest.takeWhile Char.isDigit
    let after := rest.dropWhile Char.isDigit
    if after.isEmpty || after.head? = some '\\' then
      if digits.isEmpty then some (none, after)
      else
        match Text.digitsFrom? 10 0 digits with
        | some port => if port ≤ 65535 then some (some port, after) else none
        | none => none
    else none
  | rest => some (none, rest)

/-- The query and the fragment of what follows the path. -/
def readTail (special : Bool) (s : List Char) : Option (List Char) × Option (List Char) :=
  let fragment (s : List Char) : Option (List Char) :=
    match s with
    | '#' :: rest => some (percentEncode escapedInFragment rest)
    | _ => none
  match s with
  | '?' :: rest =>
    (some (percentEncode (escapedInQuery special) (rest.takeWhile (· ≠ '#'))),
      fragment (rest.dropWhile (· ≠ '#')))
  | rest => (none, fragment rest)

/-- Whether a character ends a path. -/
def endsPath (c : Char) : Bool := c = '?' || c = '#'

/-- The host of a URL that is not that of a file. -/
def hostOf (special : Bool) (s : List Char) : Option Host :=
  if special then readHost s else readVerbatim s

/-- Read what follows the two slashes behind a scheme other than that of files. -/
def readAuthority (scheme : List Char) (special : Bool) (s : List Char) : Outcome :=
  let authority := s.takeWhile (!endsAuthority special ·)
  let after := s.dropWhile (!endsAuthority special ·)
  let (user, server) := splitUser authority
  let userText := (user.map normalUser).getD []
  let (hostText, portText) := splitHost server
  if user = some [] ∧ server = [] ∧ after ≠ [] then .malformed
  else if hostText.isEmpty then
    if special || portText ≠ [] || userText ≠ [] then .malformed else .hostless
  else
    match hostOf special hostText, readPort portText with
    | some host, some (port, extra) =>
      let tail := extra ++ after
      let path := tail.takeWhile (!endsPath ·)
      let (query, fragment) := readTail special (tail.dropWhile (!endsPath ·))
      .url {
        scheme := scheme
        user := userText
        host := host
        port := if port = usualPort scheme then none else port
        path := if special then specialPath path else plainPath path
        query := query
        fragment := fragment }
    | _, _ => .malformed

/-- Read what follows the scheme of a file. -/
def readFile (scheme s : List Char) : Outcome :=
  match s with
  | a :: b :: rest =>
    if isSlash true a && isSlash true b then
      let hostText := rest.takeWhile (!endsAuthority true ·)
      let tail := rest.dropWhile (!endsAuthority true ·)
      if hostText.isEmpty || isDrive hostText then .hostless
      else
        match readHost hostText with
        | none => .malformed
        | some host =>
          let (query, fragment) := readTail true (tail.dropWhile (!endsPath ·))
          match filePath (tail.takeWhile (!endsPath ·)) with
          | none => .hostless
          | some path =>
            if host = .name "localhost".toList then .hostless
            else .url {
              scheme := scheme
              user := []
              host := host
              port := none
              path := path
              query := query
              fragment := fragment }
    else .hostless
  | _ => .hostless

/-- Read a text as a URL. -/
def read (s : List Char) : Outcome :=
  match splitScheme (clean s) with
  | none => .relative
  | some (scheme, rest) =>
    if isFile scheme then readFile scheme rest
    else if (usualPort scheme).isSome then
      readAuthority scheme true (rest.dropWhile (isSlash true))
    else match rest with
      | '/' :: '/' :: rest => readAuthority scheme false rest
      | _ => .hostless

end Detour.Url
