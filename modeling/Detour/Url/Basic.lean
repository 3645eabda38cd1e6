import Detour.Url.Host
/-!
# URLs with a host

A URL is kept in the parts of its normal form, in which every part is already escaped; `text` puts
them together.
-/

namespace Detour

/-- A URL with a host, in its normal form. -/
structure Url where
  /-- The scheme, in small letters. -/
  scheme : List Char
  /-- The name and the password of a user, with a colon between them; empty if there are none. -/
  user : List Char
  /-- The host. -/
  host : Url.Host
  /-- The port, unless it is the usual one of the scheme. -/
  port : Option Nat
  /-- The path, with its first slash. -/
  path : List Char
  /-- The query behind the question mark. -/
  query : Option (List Char)
  /-- The fragment behind the number sign. -/
  fragment : Option (List Char)
  deriving DecidableEq, Repr

namespace Url

/-- The host, followed by the port if it is not the usual one. -/
def authority (u : Url) : List Char :=
  u.host.text ++ (match u.port with
    | some port => ':' :: Text.decimal port
    | none => [])

/-- The user in front of an at sign. -/
def userText (u : Url) : List Char := if u.user.isEmpty then [] else u.user ++ ['@']

/-- The path, the query and the fragment. -/
def rest (u : Url) : List Char :=
  u.path ++ (match u.query with
    | some query => '?' :: query
    | none => []) ++ (match u.fragment with
    | some fragment => '#' :: fragment
    | none => [])

/-- The whole URL. -/
def text (u : Url) : List Char := u.scheme ++ "://".toList ++ u.userText ++ u.authority ++ u.rest

end Url

end Detour
