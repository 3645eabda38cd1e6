/-!
# Base64

The standard alphabet with padding. `encode` writes groups of three bytes as four symbols.
`decode` accepts exactly the canonical writing: padding is required, stands only at the end, and
the bits that it leaves over in the last symbol are zero. A refused text is refused with the
first offending symbol, with one exception: when the last symbol stands alone in its group and is
no symbol at all, it is reported before anything else.
-/

namespace Detour.Base64

/-- Why a text is no base64. -/
inductive Fault where
  /-- The byte at `offset` is no symbol, or is padding at a place where none may stand. -/
  | symbol (byte : UInt8) (offset : Nat)
  /-- The last symbol carries bits that belong to no byte. -/
  | lastSymbol (byte : UInt8) (offset : Nat)
  /-- The text stops after one symbol of a group. -/
  | length (count : Nat)
  /-- The last group is not filled up. -/
  | padding
  deriving DecidableEq, Repr

/-- The wording of a fault. -/
def Fault.message : Fault → String
  | .symbol byte offset => s!"Invalid symbol {byte.toNat}, offset {offset}."
  | .lastSymbol byte offset => s!"Invalid last symbol {byte.toNat}, offset {offset}."
  | .length count => s!"Invalid input length: {count}"
  | .padding => "Invalid padding"

/-- The padding symbol, an equals sign. -/
def pad : UInt8 := 61

/-- The symbol for six bits: capital letters, small letters, digits, plus and slash. -/
def symbol (n : Nat) : UInt8 :=
  if n < 26 then UInt8.ofNat (65 + n)
  else if n < 52 then UInt8.ofNat (97 + (n - 26))
  else if n < 62 then UInt8.ofNat (48 + (n - 52))
  else if n = 62 then 43
  else 47

/-- The six bits of a symbol. -/
def value (b : UInt8) : Option Nat :=
  let n := b.toNat
  if 65 ≤ n ∧ n ≤ 90 then some (n - 65)
  else if 97 ≤ n ∧ n ≤ 122 then some (n - 97 + 26)
  else if 48 ≤ n ∧ n ≤ 57 then some (n - 48 + 52)
  else if n = 43 then some 62
  else if n = 47 then some 63
  else none

/-- A symbol reads back as its bits. -/
theorem value_symbol {n : Nat} (h : n < 64) : value (symbol n) = some n := by
  have all : ∀ m ∈ List.range 64, value (symbol m) = some m := by decide
  exact all n (List.mem_range.2 h)

/-- The padding symbol stands for no bits. -/
theorem value_pad : value pad = none := rfl

/-- Write groups of three bytes as four symbols, and pad the last group. -/
def encode : List UInt8 → List UInt8
  | [] => []
  | [a] => [symbol (a.toNat / 4), symbol (a.toNat % 4 * 16), pad, pad]
  | [a, b] =>
    [symbol (a.toNat / 4), symbol (a.toNat % 4 * 16 + b.toNat / 16),
      symbol (b.toNat % 16 * 4), pad]
  | a :: b :: c :: rest =>
    symbol (a.toNat / 4) :: symbol (a.toNat % 4 * 16 + b.toNat / 16) ::
      symbol (b.toNat % 16 * 4 + c.toNat / 64) :: symbol (c.toNat % 64) :: encode rest

/-- The bits of the symbol at `offset`. -/
def valueAt (offset : Nat) (b : UInt8) : Except Fault Nat :=
  match value b with
  | some n => .ok n
  | none => .error (.symbol b offset)

/-- The last group, whose first symbol stands at `offset`. -/
def decodeLast (offset : Nat) : List UInt8 → Except Fault (List UInt8)
  | [] => .ok []
  | [a] => do
    let _ ← valueAt offset a
    .error (.length (offset + 1))
  | [a, b] => do
    let _ ← valueAt offset a
    let _ ← valueAt (offset + 1) b
    .error .padding
  | [a, b, c] => do
    let _ ← valueAt offset a
    let _ ← valueAt (offset + 1) b
    if c = pad then .error .padding
    let _ ← valueAt (offset + 2) c
    .error .padding
  | a :: b :: c :: d :: _ => do
    let x ← valueAt offset a
    let y ← valueAt (offset + 1) b
    if c = pad then
      if d ≠ pad then .error (.symbol c (offset + 2))
      else if y % 16 ≠ 0 then .error (.lastSymbol b (offset + 1))
      else .ok [.ofNat (x * 4 + y / 16)]
    else
      let z ← valueAt (offset + 2) c
      if d = pad then
        if z % 4 ≠ 0 then .error (.lastSymbol c (offset + 2))
        else .ok [.ofNat (x * 4 + y / 16), .ofNat (y % 16 * 16 + z / 4)]
      else
        let w ← valueAt (offset + 3) d
        .ok [.ofNat (x * 4 + y / 16), .ofNat (y % 16 * 16 + z / 4), .ofNat (z % 4 * 64 + w)]

/-- Read the group at `offset`; all groups but the last are full. The bytes already read are in
`done`, last one first. -/
def decodeFrom (offset : Nat) (done : List UInt8) : List UInt8 → Except Fault (List UInt8)
  | a :: b :: c :: d :: e :: rest => do
    let x ← valueAt offset a
    let y ← valueAt (offset + 1) b
    let z ← valueAt (offset + 2) c
    let w ← valueAt (offset + 3) d
    decodeFrom (offset + 4)
      (.ofNat (z % 4 * 64 + w) :: .ofNat (y % 16 * 16 + z / 4) :: .ofNat (x * 4 + y / 16) :: done)
      (e :: rest)
  | last => return done.reverse ++ (← decodeLast offset last)

/-- A last symbol that stands alone in its group and is neither a symbol nor padding. -/
def strayEnd (s : List UInt8) : Option Fault :=
  match s.getLast? with
  | some b =>
    if s.length % 4 = 1 ∧ b ≠ pad ∧ value b = none then some (.symbol b (s.length - 1)) else none
  | none => none

/-- The bytes that a text writes, or the fault for which it is refused. -/
def decode (s : List UInt8) : Except Fault (List UInt8) :=
  match strayEnd s with
  | some fault => .error fault
  | none => decodeFrom 0 [] s

@[simp] theorem decode_nil : decode [] = .ok [] := rfl

end Detour.Base64
