import Detour.Base64
import Detour.Text.Utf8
/-!
# Payloads

A rule list travels as bytes: UTF-8 as it is, or wrapped in Base64 with white space anywhere
between the symbols.
-/

namespace Detour

/-- How the bytes of a list are to be read. -/
inductive Encoding where
  /-- UTF-8 in Base64. -/
  | base64
  /-- UTF-8. -/
  | plain
  deriving DecidableEq, Repr

namespace Payload

/-- Why bytes are no list. -/
inductive Fault where
  /-- The bytes are no Base64. -/
  | base64 (fault : Base64.Fault)
  /-- The given bytes are no UTF-8. -/
  | utf8 (bytes : List UInt8) (fault : Text.Utf8.Fault)
  deriving DecidableEq, Repr

/-- The wording of the fault inside. -/
def Fault.cause : Fault → String
  | .base64 fault => fault.message
  | .utf8 _ fault => fault.message

/-- The wording of a fault. -/
def Fault.message : Fault → String
  | .base64 fault => "invalid base64 payload: " ++ fault.message
  | .utf8 _ fault => "payload is not valid UTF-8: " ++ fault.message

/-- White space in ASCII: the blank, the tab, the line feed, the form feed and the carriage
return. -/
def isSpace (b : UInt8) : Bool := b = 32 || b = 9 || b = 10 || b = 12 || b = 13

/-- The bytes that an encoding wraps. -/
def unwrap (encoding : Encoding) (payload : List UInt8) : Except Fault (List UInt8) :=
  match encoding with
  | .plain => .ok payload
  | .base64 =>
    match Base64.decode (payload.filter (!isSpace ·)) with
    | .ok bytes => .ok bytes
    | .error fault => .error (.base64 fault)

/-- The text of a payload. -/
def decode (encoding : Encoding) (payload : List UInt8) : Except Fault (List Char) :=
  match unwrap encoding payload with
  | .error fault => .error fault
  | .ok bytes =>
    match Text.Utf8.decode bytes with
    | .ok text => .ok text
    | .error fault => .error (.utf8 bytes fault)

end Payload

end Detour
