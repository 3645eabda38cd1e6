import Detour.Text.Quoted
import Detour.Toml.Value
/-!
# Records from values

A record has named fields. It is filled from a table, entry by entry and in the order of the entries, or
from an array, whose items are the fields in their order. The first entry or item that does not fit
decides what is wrong. Main statement: an entry whose key is no field is always wrong.
-/

namespace Detour.Toml

/-- Why a value does not fit where it stands. -/
inductive Mismatch where
  /-- It is of another kind than expected. -/
  | kind (found : Value) (expected : String)
  /-- It is a number that is not expected here. -/
  | number (found : Int) (expected : String)
  /-- A table has an entry that is none of the fields. -/
  | unknownField (name : Key) (fields : List Key)
  /-- A table lacks a field. -/
  | missingField (name : Key)
  /-- An array has too few items for the fields. -/
  | tooShort (count : Nat) (record : String) (fields : Nat)
  /-- A text is none of the choices. -/
  | unknownChoice (name : Key) (choices : List Key)
  /-- It is neither a text nor a table, and so no choice. -/
  | noChoice
  /-- It is a table without entries, and so no choice. -/
  | noEntry
  /-- It is a table with several entries, and so no choice. -/
  | severalEntries
  /-- It stands under the name of a choice, where an empty table stands at most. -/
  | choiceContent (found : Value)
  /-- It is a text that does not read as what it stands for. -/
  | unreadable (complaint : String)
  deriving Repr

/-- A name as it is shown in a message. -/
def shownName (name : Key) : String := "`" ++ String.ofList name ++ "`"

/-- The names that would have fitted. -/
def shownNames : List Key → String
  | [] => ""
  | [a] => shownName a
  | [a, b] => shownName a ++ " or " ++ shownName b
  | names => "one of " ++ ", ".intercalate (names.map shownName)

/-- A value as it is described in a message. -/
def Value.description : Value → String
  | .text s => "string " ++ String.ofList (Text.quoted s)
  | .integer n => "integer `" ++ toString n ++ "`"
  | .float x => "floating point `" ++ String.ofList x.text ++ "`"
  | .boolean b => "boolean `" ++ (if b then "true" else "false") ++ "`"
  | .moment | .table _ _ => "map"
  | .array _ | .tables _ => "sequence"

/-- What is wrong with a value under the name of a choice. -/
def contentMessage : Value → String
  | .table _ _ => "expected empty table"
  | .array _ | .tables _ => "expected empty array"
  | .text _ => "expected table, found string"
  | .integer _ => "expected table, found integer"
  | .float _ => "expected table, found float"
  | .boolean _ => "expected table, found boolean"
  | .moment => "expected table, found datetime"

/-- The wording of a mismatch. -/
def Mismatch.message : Mismatch → String
  | .kind found expected => "invalid type: " ++ found.description ++ ", expected " ++ expected
  | .number found expected => "invalid value: integer `" ++ toString found ++ "`, expected " ++ expected
  | .unknownField name fields => "unknown field " ++ shownName name ++ ", expected " ++ shownNames fields
  | .missingField name => "missing field " ++ shownName name
  | .tooShort count record fields =>
    "invalid length " ++ toString count ++ ", expected " ++ record ++ " with " ++ toString fields ++
      " elements"
  | .unknownChoice name choices =>
    "unknown variant " ++ shownName name ++ ", expected " ++ shownNames choices
  | .noChoice => "wanted string or table"
  | .noEntry => "wanted exactly 1 element, found 0 elements"
  | .severalEntries => "wanted exactly 1 element, more than 1 element"
  | .choiceContent found => contentMessage found
  | .unreadable complaint => complaint

/-- The name under which a date comes up where a record is expected. -/
def momentKey : Key := "$__toml_private_datetime".toList

namespace Value

/-- A value as a text. -/
def toText (expected : String) : Value → Except Mismatch (List Char)
  | .text s => .ok s
  | v => .error (.kind v expected)

/-- A value as a natural number. -/
def toNat (expected : String) : Value → Except Mismatch Nat
  | .integer n => if 0 ≤ n then .ok n.toNat else .error (.number n expected)
  | v => .error (.kind v expected)

/-- A value as true or false. -/
def toBool (expected : String) : Value → Except Mismatch Bool
  | .boolean b => .ok b
  | v => .error (.kind v expected)

/-- A value as a list of texts. -/
def toTexts (expected expectedItem : String) (v : Value) : Except Mismatch (List (List Char)) :=
  match v.items? with
  | some items => items.mapM (toText expectedItem)
  | none => .error (.kind v expected)

/-- Whether a value holds nothing. -/
def isHollow (v : Value) : Bool :=
  (v.items?.map List.isEmpty).getD false || (v.entries?.map List.isEmpty).getD false

/-- The choice that a name stands for. -/
def choiceOf {α : Type} (choices : List (Key × α)) (name : Key) : Except Mismatch α :=
  match choices.lookup name with
  | some choice => .ok choice
  | none => .error (.unknownChoice name (choices.map (·.1)))

/-- A value as one of several choices: the name of the choice, or a table in which nothing stands but an
empty table under that name. -/
def toChoice {α : Type} (choices : List (Key × α)) : Value → Except Mismatch α
  | .text name => choiceOf choices name
  | .table _ [] => .error .noEntry
  | .table _ [(name, content)] =>
    match choiceOf choices name with
    | .ok choice => if content.isHollow then .ok choice else .error (.choiceContent content)
    | .error e => .error e
  | .table _ _ => .error .severalEntries
  | _ => .error .noChoice

end Value

/-- A field of a record, which is filled in a draft of that record. -/
structure Field (α : Type) where
  /-- Its name. -/
  name : Key
  /-- Whether an array may end before it. -/
  optional : Bool
  /-- Fill it with a value. -/
  fill : Value → α → Except Mismatch α

/-- The fields of a record, with the name of the record. -/
structure Schema (α : Type) where
  /-- What the record is called in messages. -/
  name : String
  /-- Its fields. -/
  fields : List (Field α)

namespace Schema

variable {α : Type}

/-- The names of the fields. -/
def names (s : Schema α) : List Key := s.fields.map (·.name)

/-- Fill the field of an entry. -/
def fillEntry (s : Schema α) (draft : α) (entry : Key × Value) : Except Mismatch α :=
  match s.fields.find? (·.name = entry.1) with
  | some field => field.fill entry.2 draft
  | none => .error (.unknownField entry.1 s.names)

/-- Fill fields from entries. -/
def fillEntries (s : Schema α) (draft : α) (entries : Entries) : Except Mismatch α :=
  entries.foldlM s.fillEntry draft

/-- Fill fields from the items of an array, of which `index` have been used. Items beyond the last field
are not looked at. -/
def fillItems (s : Schema α) (index : Nat) (draft : α) :
    List (Field α) → List Value → Except Mismatch α
  | [], _ => .ok draft
  | field :: fields, [] =>
    if field.optional then fillItems s (index + 1) draft fields []
    else .error (.tooShort index s.name s.fields.length)
  | field :: fields, item :: items =>
    (field.fill item draft).bind fun draft => fillItems s (index + 1) draft fields items

/-- Fill fields from a value. -/
def fill (s : Schema α) (draft : α) : Value → Except Mismatch α
  | .table _ entries => s.fillEntries draft entries
  | .array items | .tables items => s.fillItems 0 draft s.fields items
  | .moment => .error (.unknownField momentKey s.names)
  | v => .error (.kind v s.name)

/-- Entries among which a key is no field do not fill a record. -/
theorem fillEntries_error_of_unknown {s : Schema α} {draft : α} {entries : Entries} {key : Key}
    {value : Value} (unknown : ∀ field ∈ s.fields, field.name ≠ key)
    (h : (key, value) ∈ entries) : ∃ e, s.fillEntries draft entries = .error e := by
  have none : s.fields.find? (·.name = key) = none := by
    simpa [List.find?_eq_none] using unknown
  induction entries generalizing draft with
  | nil => cases h
  | cons entry rest ih =>
    simp only [fillEntries, List.foldlM_cons]
    rcases List.mem_cons.1 h with same | later
    · subst same
      exact ⟨.unknownField key s.names, by simp only [fillEntry, none]; rfl⟩
    · cases filled : s.fillEntry draft entry with
      | error e => exact ⟨e, rfl⟩
      | ok next => exact ih later

end Schema

end Detour.Toml
