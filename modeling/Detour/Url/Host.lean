import Detour.Address.Ipv6
import Detour.Domain.Name
import Detour.Url.Percent
/-!
# Hosts

The host of a URL is a domain name in its ASCII form, an address of four bytes or one of eight
groups. A host whose last part is a number is an address or no host at all. In a URL with an
unknown scheme a host is not read as a domain name: it keeps its letters and is only escaped.
-/

namespace Detour.Url

/-- The host of a URL. -/
inductive Host where
  /-- A name. -/
  | name (text : List Char)
  /-- An address of four bytes. -/
  | ipv4 (address : Nat)
  /-- An address of eight groups. -/
  | ipv6 (groups : List Nat)
  deriving DecidableEq, Repr

/-- The host as it is written in a URL. -/
def Host.text : Host → List Char
  | .name text => text
  | .ipv4 address => Address.Ipv4.text address
  | .ipv6 groups => '[' :: Address.Ipv6.text groups ++ [']']

/-- The address between brackets. -/
def bracketed (s : List Char) : Option Host :=
  if s.getLast? = some ']' then (Address.Ipv6.parse (s.drop 1).dropLast).map .ipv6 else none

/-- A text with its percent signs read. -/
def decodedText (s : List Char) : Option (List Char) :=
  if '%' ∈ s then (Text.Utf8.decode (percentDecode s)).toOption else some s

/-- The host that a domain name in ASCII form is. -/
def hostOfName (name : List Char) : Option Host :=
  if name.isEmpty then none
  else if Address.Ipv4.endsInNumber name then (Address.Ipv4.parseLoose name).map .ipv4
  else some (.name name)

/-- The host of a URL with a well-known scheme. -/
def readDomain (s : List Char) : Option Host :=
  match decodedText s with
  | none => none
  | some t =>
    match Domain.toAscii t with
    | none => none
    | some name => hostOfName name

/-- The host of a URL with a well-known scheme. -/
def readHost (s : List Char) : Option Host :=
  if s.head? = some '[' then bracketed s else readDomain s

/-- The characters that the host of a URL with an unknown scheme may not hold. -/
def isForbiddenInName (c : Char) : Bool := c ∈ "\x00\t\n\r #/:<>?@[\\]^|".toList

/-- The host of a URL with an unknown scheme, which may be empty. -/
def readVerbatim (s : List Char) : Option Host :=
  if s.head? = some '[' then bracketed s
  else if s.any isForbiddenInName then none
  else some (.name (percentEncode escapedEverywhere s))

end Detour.Url
