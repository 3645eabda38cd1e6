import Detour.Text.Blank
import Detour.Url.Read
/-!
# Targets

What a query asks about: a host or a URL, brought into the normal form that rules are compared
with. A text without a scheme is read as one with `https`.
-/

namespace Detour

/-- What a query asks about. -/
structure Target where
  /-- Its normal form. -/
  url : Url
  deriving DecidableEq, Repr

namespace Target

/-- The start of a URL with the scheme that is assumed where none is given. -/
def defaultStart : List Char := "https://".toList

/-- What stands in front of the first `://`; `before` is what was read of it, last character first. -/
def schemeFrom (before : List Char) : List Char → Option (List Char)
  | [] => none
  | ':' :: '/' :: '/' :: _ => some before.reverse
  | c :: rest => schemeFrom (c :: before) rest

/-- Whether a text starts with a scheme, a colon and two slashes. -/
def hasScheme (s : List Char) : Bool :=
  match schemeFrom [] s with
  | some (c :: rest) => c.isAlpha && rest.all Url.isSchemeChar
  | _ => false

/-- Read a trimmed text. One that is no URL with a host, and does not start like one, is read once more
with the default scheme. -/
def parseTrimmed (s : List Char) : Option Target :=
  match Url.read s with
  | .url u => some ⟨u⟩
  | .malformed => none
  | .hostless | .relative =>
    if hasScheme s then none
    else match Url.read (defaultStart ++ s) with
      | .url u => some ⟨u⟩
      | _ => none

/-- The target of a query. -/
def parse (s : List Char) : Option Target :=
  let t := Text.trim s
  if t.isEmpty then none else parseTrimmed t

/-- The scheme. -/
def scheme (t : Target) : List Char := t.url.scheme

/-- The host. -/
def host (t : Target) : List Char := t.url.host.text

/-- The host, followed by the port if it is not the usual one of the scheme. -/
def authority (t : Target) : List Char := t.url.authority

/-- The whole URL. -/
def text (t : Target) : List Char := t.url.text

end Target

end Detour
