import Detour.Toml.Document
import Detour.Toml.Quote
import Detour.Toml.Scalar
/-!
# Reading a settings document

A reader takes what it reads from the front of a text and gives back the rest. Values may be nested in
at most 79 arrays and tables between braces, and a dotted key has at most 79 parts. Other loops get
the length of the text as their limit, which they cannot reach, because every step takes a character.
-/

namespace Detour.Toml

/-- Reads something from the front of a text and gives back the rest. -/
abbrev Reader (α : Type) := List Char → Option (α × List Char)

/-- How deep values may be nested, and how many parts a key may have. -/
def depthLimit : Nat := 79

/-- The text without gaps in front. -/
def skipGaps (s : List Char) : List Char := s.dropWhile isGap

/-- The text without a comment in front. -/
def skipComment : List Char → List Char
  | '#' :: rest => rest.dropWhile isLineChar
  | s => s

/-- The text without gaps, comments and line breaks in front. While a comment is read, the flag is
set. -/
def skipLinesFrom : Bool → List Char → List Char
  | _, '\r' :: '\n' :: rest => skipLinesFrom false rest
  | comment, c :: rest =>
    if c = '\n' then skipLinesFrom false rest
    else if comment then if isLineChar c then skipLinesFrom true rest else c :: rest
    else if isGap c then skipLinesFrom false rest
    else if c = '#' then skipLinesFrom true rest
    else c :: rest
  | _, [] => []

/-- The text without gaps, comments and line breaks in front. -/
def skipLines (s : List Char) : List Char := skipLinesFrom false s

/-- What follows the end of a line, before which only gaps and a comment may stand. -/
def endLine (s : List Char) : Option (List Char) :=
  match skipComment (skipGaps s) with
  | [] => some []
  | '\n' :: rest | '\r' :: '\n' :: rest => some rest
  | _ => none

/-- The characters of a key without quotes. -/
def isKeyChar (c : Char) : Bool := c.isAlphanum || c = '_' || c = '-'

/-- Read one part of a key. -/
def readKey : Reader Key
  | '"' :: rest => Quote.readLine ('"' :: rest)
  | '\'' :: rest => Quote.readLine ('\'' :: rest)
  | s =>
    let key := s.takeWhile isKeyChar
    if key.isEmpty then none else some (key, s.dropWhile isKeyChar)

/-- Read a dotted key that has at most so many parts. -/
def readPathOf : Nat → Reader (List Key)
  | 0, _ => none
  | parts + 1, s =>
    match readKey (skipGaps s) with
    | none => none
    | some (key, rest) =>
      match skipGaps rest with
      | '.' :: rest => (readPathOf parts rest).map fun (path, rest) => (key :: path, rest)
      | rest => some ([key], rest)

/-- Read a dotted key. -/
def readPath : Reader (List Key) := readPathOf depthLimit

/-- Read a key, the sign of equality, and a value. -/
def readAssignment (value : Reader Value) : Reader Assignment := fun s =>
  match readPath s with
  | some (path, '=' :: rest) => (value (skipGaps rest)).map fun (value, rest) => (⟨path, value⟩, rest)
  | _ => none

/-- Read the items of an array up to the bracket that closes it. A comma may stand behind the last
one. -/
def readItems (value : Reader Value) : Nat → Reader (List Value)
  | 0, _ => none
  | limit + 1, s =>
    match skipLines s with
    | ']' :: rest => some ([], rest)
    | s =>
      match value s with
      | none => none
      | some (item, rest) =>
        match skipLines rest with
        | ']' :: rest => some ([item], rest)
        | ',' :: rest =>
          (readItems value limit rest).map fun (items, rest) => (item :: items, rest)
        | _ => none

/-- Read the entries between braces up to the brace that closes them. -/
def readEntries (value : Reader Value) : Nat → Reader (List Assignment)
  | 0, _ => none
  | limit + 1, s =>
    match readAssignment value s with
    | none => none
    | some (entry, rest) =>
      match skipGaps rest with
      | '\x7d' :: rest => some ([entry], rest)
      | ',' :: rest =>
        (readEntries value limit rest).map fun (entries, rest) => (entry :: entries, rest)
      | _ => none

/-- Read what stands between braces, the closing one included. -/
def readBraces (value : Reader Value) : Reader (List Assignment) := fun s =>
  match skipGaps s with
  | '\x7d' :: rest => some ([], rest)
  | s => readEntries value s.length s

/-- Read a value that holds no others. -/
def readSimple : Reader Value
  | '"' :: rest => (Quote.read ('"' :: rest)).map fun (s, rest) => (.text s, rest)
  | '\'' :: rest => (Quote.read ('\'' :: rest)).map fun (s, rest) => (.text s, rest)
  | s => Scalar.read s

/-- Read a value in which values may be nested so deep. -/
def readValueOf : Nat → Reader Value
  | 0, s => readSimple s
  | depth + 1, s =>
    match s with
    | '[' :: rest =>
      (readItems (readValueOf depth) (rest.length + 1) rest).map fun (items, rest) =>
        (.array items, rest)
    | '\x7b' :: rest =>
      match readBraces (readValueOf depth) rest with
      | some (entries, rest) => (inlineTable entries).map (·, rest)
      | none => none
    | s => readSimple s

/-- Read a value. -/
def readValue : Reader Value := readValueOf depthLimit

/-- Read the key of a header behind its brackets, and the brackets that close it. -/
def readHeader : Reader (Bool × List Key)
  | '[' :: '[' :: rest =>
    match readPath rest with
    | some (path, ']' :: ']' :: rest) => some ((true, path), rest)
    | _ => none
  | '[' :: rest =>
    match readPath rest with
    | some (path, ']' :: rest) => some ((false, path), rest)
    | _ => none
  | _ => none

/-- Put an entry in front of a document. -/
def Document.pushAssignment (a : Assignment) (d : Document) : Document :=
  { d with assignments := a :: d.assignments }

/-- Put a header in front of a document. The entries that had no header come under it. -/
def Document.pushHeader (repeated : Bool) (path : List Key) (d : Document) : Document :=
  ⟨[], ⟨repeated, path, d.assignments⟩ :: d.sections⟩

/-- Read the lines of a document, at most so many. -/
def readDocumentOf : Nat → List Char → Option Document
  | limit, s =>
    match limit, skipLines s with
    | _, [] => some ⟨[], []⟩
    | 0, _ => none
    | limit + 1, '[' :: rest =>
      match readHeader ('[' :: rest) with
      | some ((repeated, path), rest) =>
        ((endLine rest).bind (readDocumentOf limit)).map (.pushHeader repeated path)
      | none => none
    | limit + 1, s =>
      match readAssignment readValue s with
      | some (a, rest) => ((endLine rest).bind (readDocumentOf limit)).map (.pushAssignment a)
      | none => none

/-- Read a document. The mark of the byte order in front of it is no part of it. -/
def readDocument (s : List Char) : Option Document :=
  let s := if s.head? = some '\ufeff' then s.tail else s
  readDocumentOf s.length s

/-- The table of a document; none if it is not written as documents are. -/
def read (s : List Char) : Option Entries := (readDocument s).bind Document.table

end Detour.Toml
