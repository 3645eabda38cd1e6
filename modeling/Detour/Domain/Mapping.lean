import Detour.Domain.Mapping.Table
/-!
# What the characters of a domain name stand for

`mapping` says of a character what takes its place in a domain name: itself, nothing, or other
characters. A character that no domain name may hold has no mapping. ASCII characters keep their
place, capital letters as small ones.
-/

namespace Detour.Domain

/-- What happens to the characters of a run. -/
inductive Change where
  /-- Every `step`-th character stands for the one as far behind `target`. -/
  | shift (step target : Nat)
  /-- Each character stands for a text. -/
  | text (s : List Char)

/-- A run of the mapping table, as it is written there. -/
def readChange (s : List Char) : Option (Unicode.Run Change) :=
  match Text.splitOn '=' s with
  | [run, target] =>
    let codes := (Text.splitOn ',' target).map Unicode.Table.number
    match Text.splitOn '/' run, codes with
    | [run, _], [code] => some (Unicode.Table.run (.shift 2 code) run)
    | [run], [code] => some (Unicode.Table.run (.shift 1 code) run)
    | [run], codes => some (Unicode.Table.run (.text (codes.map Char.ofNat)) run)
    | _, _ => none
  | _ => none

/-- The characters that stand for others. -/
def mappingTable : Unicode.Table Change :=
  ((Unicode.Table.entries mappingText).filterMap readChange).toArray

/-- The characters that take the place of a character outside ASCII. -/
def mappingBeyondAscii (c : Char) : Option (List Char) :=
  let n := c.toNat
  if disallowedTable.contains n then none
  else if ignoredTable.contains n then some []
  else match mappingTable.find? n with
    | some ⟨first, _, .shift step target⟩ =>
      if (n - first) % step = 0 then some [Char.ofNat (target + (n - first))] else some [c]
    | some ⟨_, _, .text s⟩ => some s
    | none => some [c]

/-- The characters that take the place of a character in a domain name. -/
def mapping (c : Char) : Option (List Char) :=
  if c.toNat < 0x80 then some [c.toLower] else mappingBeyondAscii c

/-- Map each character of a text; no result if one of them is not allowed. The mapped characters
before the text are in `done`, last one first. -/
def mapFrom (done : List Char) : List Char → Option (List Char)
  | [] => some done.reverse
  | c :: rest =>
    match mapping c with
    | some s => mapFrom (s.reverse ++ done) rest
    | none => none

/-- Map each character of a text; no result if one of them is not allowed. -/
def mapText (s : List Char) : Option (List Char) := mapFrom [] s

/-- ASCII characters are mapped to small letters. -/
theorem mapping_of_ascii {c : Char} (h : c.toNat < 0x80) : mapping c = some [c.toLower] := by
  simp [mapping, h]

/-- What is mapped before a text stays in front of it. -/
theorem mapFrom_eq (done s : List Char) :
    mapFrom done s = (mapFrom [] s).map (done.reverse ++ ·) := by
  induction s generalizing done with
  | nil => simp [mapFrom]
  | cons c rest ih =>
    unfold mapFrom
    split
    · rename_i t _
      rw [ih (t.reverse ++ done), ih (t.reverse ++ [])]
      simp [Option.map_map, Function.comp_def]
    · rfl

@[simp] theorem mapText_nil : mapText [] = some [] := rfl

/-- A text is mapped character by character. -/
theorem mapText_cons (c : Char) (rest : List Char) :
    mapText (c :: rest) = (mapping c).bind fun s => (mapText rest).map (s ++ ·) := by
  rw [mapText, mapFrom]
  split
  · rename_i s h
    rw [mapFrom_eq, h]
    simp [mapText]
  · rename_i h
    simp [h]

end Detour.Domain
