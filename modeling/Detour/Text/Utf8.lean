/-!
# UTF-8

Bytes and the characters they stand for. `encode` writes a text. `decode` reads one byte after
the other and keeps, inside a character, what the character needs to be complete; at the first
byte that cannot continue the text it says where the broken character starts and how many bytes
of it were good.
-/

namespace Detour.Text.Utf8

/-- Why a byte sequence is not a text. -/
inductive Fault where
  /-- `count` bytes from `index` on start no character. -/
  | invalid (count index : Nat)
  /-- The sequence ends inside the character that starts at `index`. -/
  | incomplete (index : Nat)
  deriving DecidableEq, Repr

/-- The wording of a fault. -/
def Fault.message : Fault → String
  | .invalid count index => s!"invalid utf-8 sequence of {count} bytes from index {index}"
  | .incomplete index => s!"incomplete utf-8 byte sequence from index {index}"

/-- The bytes of a character: one to four, by the size of its code point. -/
def encodeChar (c : Char) : List UInt8 :=
  let n := c.toNat
  if n < 0x80 then [.ofNat n]
  else if n < 0x800 then [.ofNat (0xc0 + n / 0x40), .ofNat (0x80 + n % 0x40)]
  else if n < 0x10000 then
    [.ofNat (0xe0 + n / 0x1000), .ofNat (0x80 + n / 0x40 % 0x40), .ofNat (0x80 + n % 0x40)]
  else
    [.ofNat (0xf0 + n / 0x40000), .ofNat (0x80 + n / 0x1000 % 0x40), .ofNat (0x80 + n / 0x40 % 0x40),
      .ofNat (0x80 + n % 0x40)]

/-- The bytes of a text. -/
def encode (s : List Char) : List UInt8 := s.flatMap encodeChar

@[simp] theorem encode_nil : encode [] = [] := rfl

@[simp] theorem encode_cons (c : Char) (s : List Char) :
    encode (c :: s) = encodeChar c ++ encode s := rfl

@[simp] theorem encode_append (s t : List Char) : encode (s ++ t) = encode s ++ encode t :=
  List.flatMap_append

/-- A character that is not complete yet. -/
structure Open where
  /-- How many bytes of it have been read. -/
  count : Nat
  /-- How many bytes follow the next one. -/
  more : Nat
  /-- The least value that the next byte may have. -/
  low : Nat
  /-- The greatest value that the next byte may have. -/
  high : Nat
  /-- The bits read so far. -/
  value : Nat

/-- What a byte outside ASCII opens; none if no character starts with it. -/
def lead (n : Nat) : Option Open :=
  if 0xc2 ≤ n ∧ n ≤ 0xdf then some ⟨1, 0, 0x80, 0xbf, n - 0xc0⟩
  else if n = 0xe0 then some ⟨1, 1, 0xa0, 0xbf, 0⟩
  else if n = 0xed then some ⟨1, 1, 0x80, 0x9f, 0xd⟩
  else if 0xe1 ≤ n ∧ n ≤ 0xef then some ⟨1, 1, 0x80, 0xbf, n - 0xe0⟩
  else if n = 0xf0 then some ⟨1, 2, 0x90, 0xbf, 0⟩
  else if n = 0xf4 then some ⟨1, 2, 0x80, 0x8f, 4⟩
  else if 0xf1 ≤ n ∧ n ≤ 0xf3 then some ⟨1, 2, 0x80, 0xbf, n - 0xf0⟩
  else none

/-- The bits of an open character with those of its next byte. -/
def Open.push (o : Open) (n : Nat) : Nat := o.value * 0x40 + (n - 0x80)

/-- Read on at byte `index`, with the characters already read in `done`, last one first. -/
def decodeFrom (index : Nat) (done : List Char) :
    Option Open → List UInt8 → Except Fault (List Char)
  | none, [] => .ok done.reverse
  | some o, [] => .error (.incomplete (index - o.count))
  | none, b :: rest =>
    if b.toNat < 0x80 then decodeFrom (index + 1) (Char.ofNat b.toNat :: done) none rest
    else match lead b.toNat with
      | some o => decodeFrom (index + 1) done (some o) rest
      | none => .error (.invalid 1 index)
  | some o, b :: rest =>
    if o.low ≤ b.toNat ∧ b.toNat ≤ o.high then
      match o.more with
      | 0 => decodeFrom (index + 1) (Char.ofNat (o.push b.toNat) :: done) none rest
      | more + 1 =>
        decodeFrom (index + 1) done (some ⟨o.count + 1, more, 0x80, 0xbf, o.push b.toNat⟩) rest
    else .error (.invalid o.count (index - o.count))

/-- The text of a byte sequence, or the first fault in it. -/
def decode (bytes : List UInt8) : Except Fault (List Char) := decodeFrom 0 [] none bytes

@[simp] theorem decode_nil : decode [] = .ok [] := rfl

end Detour.Text.Utf8
