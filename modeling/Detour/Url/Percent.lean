import Detour.Text.Numeral
import Detour.Text.Utf8
/-!
# Percent-encoding

A character that may not stand in a part of a URL is written as its UTF-8 bytes, each a percent
sign with two digits in base sixteen. Which characters are written so depends on the part.
-/

namespace Detour.Url

/-- A byte behind a percent sign. -/
def percentByte (b : UInt8) : List Char := '%' :: Text.byteDigits b.toNat

/-- Write the characters of a text for which `escaped` holds as their bytes. -/
def percentEncode (escaped : Char → Bool) (s : List Char) : List Char :=
  s.flatMap fun c => if escaped c then (Text.Utf8.encodeChar c).flatMap percentByte else [c]

/-- The bytes of a text, with two digits behind a percent sign read as the byte they write. The
bytes before the text are in `done`, last one first. -/
def percentDecodeFrom (done : List UInt8) : List Char → List UInt8
  | [] => done.reverse
  | '%' :: a :: b :: rest =>
    match Text.digit? 16 a, Text.digit? 16 b with
    | some x, some y => percentDecodeFrom (UInt8.ofNat (x * 16 + y) :: done) rest
    | _, _ => percentDecodeFrom (37 :: done) (a :: b :: rest)
  | c :: rest => percentDecodeFrom ((Text.Utf8.encodeChar c).reverse ++ done) rest

/-- The bytes of a text, with two digits behind a percent sign read as the byte they write. -/
def percentDecode (s : List Char) : List UInt8 := percentDecodeFrom [] s

/-- Controls and characters outside ASCII are escaped everywhere. -/
def escapedEverywhere (c : Char) : Bool := c.toNat < 0x20 || 0x7e < c.toNat

/-- What is escaped in a fragment. -/
def escapedInFragment (c : Char) : Bool := escapedEverywhere c || c ∈ " \"<>`".toList

/-- What is escaped in a query; an apostrophe only in the query of a well-known scheme. -/
def escapedInQuery (special : Bool) (c : Char) : Bool :=
  escapedEverywhere c || c ∈ " \"#<>".toList || (special && c = '\'')

/-- What is escaped in a path. -/
def escapedInPath (c : Char) : Bool := escapedInFragment c || c ∈ "#?\x7b\x7d".toList

/-- What is escaped in the name and the password of a user. -/
def escapedInUser (c : Char) : Bool := escapedInPath c || c ∈ "/:;=@[\\]^|".toList

end Detour.Url
