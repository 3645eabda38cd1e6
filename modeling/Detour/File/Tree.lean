import Detour.File.Path
/-!
# Trees of files

What a program finds when it reads a path: directories with entries, files with bytes, and the bits that
permit their owner to read a file, to list a directory and to pass through one.
-/

namespace Detour.File

/-- Why a path could not be read. -/
inductive Fault where
  /-- A name on the way does not exist. -/
  | notFound
  /-- A bit on the way is missing. -/
  | denied
  /-- A name on the way is not that of a directory. -/
  | notDirectory
  /-- The path leads to a directory. -/
  | isDirectory
  /-- The path or a name in it is too long. -/
  | nameTooLong
  /-- The path holds a null character. -/
  | nullInName
  /-- Something else, in the words of the system. -/
  | other (message : String)
  deriving DecidableEq, Repr

/-- The wording of a fault. -/
def Fault.message : Fault → String
  | notFound => "No such file or directory (os error 2)"
  | denied => "Permission denied (os error 13)"
  | notDirectory => "Not a directory (os error 20)"
  | isDirectory => "Is a directory (os error 21)"
  | nameTooLong => "File name too long (os error 36)"
  | nullInName => "file name contained an unexpected NUL byte"
  | other message => message

/-- A file or a directory. -/
inductive Node where
  /-- A file with its bits and bytes. -/
  | file (mode : Nat) (data : List UInt8)
  /-- A directory with its bits and entries. -/
  | directory (mode : Nat) (entries : List (List Char × Node))

/-- The bit that permits to read. -/
def readBit : Nat := 0o400

/-- The bit that permits to pass through a directory. -/
def passBit : Nat := 0o100

/-- The bits of a new file. -/
def newFileMode : Nat := 0o644

/-- The bits of a new directory. -/
def newDirectoryMode : Nat := 0o755

/-- The longest name of an entry, in bytes. -/
def longestName : Nat := 255

/-- The longest path, in bytes. -/
def longestPath : Nat := 4095

/-- Whether a bit is set. -/
def permits (mode bit : Nat) : Bool := mode &&& bit ≠ 0

/-- A tree of files as a program sees it. -/
structure Tree where
  /-- The root. -/
  root : Node
  /-- The names that lead from the root to the directory in which the program runs. -/
  here : List (List Char)
  /-- Whether the bits hold for the program. -/
  restricted : Bool

/-- Follow names from the node that comes first in a list, with the directories above it behind. -/
def follow (restricted : Bool) : List Node → List (List Char) → Except Fault (List Node)
  | [], _ => .error .notFound
  | nodes, [] => .ok nodes
  | .file _ _ :: _, _ :: _ => .error .notDirectory
  | .directory mode entries :: above, name :: rest =>
    let here := .directory mode entries :: above
    if restricted && !permits mode passBit then .error .denied
    else if name = ['.'] then follow restricted here rest
    else if name = ['.', '.'] then follow restricted (if above.isEmpty then here else above) rest
    else if longestName < (Text.Utf8.encode name).length then .error .nameTooLong
    else match entries.lookup name with
      | some node => follow restricted (node :: here) rest
      | none => .error .notFound

/-- What is found at the end of a path. -/
def Tree.find (t : Tree) (p : Path) : Except Fault Node := do
  if '\x00' ∈ p then .error .nullInName
  if p.isEmpty then .error .notFound
  if longestPath < p.size then .error .nameTooLong
  let start ← if p.isAbsolute then .ok [t.root] else follow false [t.root] t.here
  match ← follow t.restricted start p.names with
  | [] => .error .notFound
  | .file mode data :: _ =>
    if p.endsInSlash then .error .notDirectory else .ok (.file mode data)
  | node :: _ => .ok node

/-- The bytes of the file at the end of a path. -/
def Tree.read (t : Tree) (p : Path) : Except Fault (List UInt8) :=
  match t.find p with
  | .error fault => .error fault
  | .ok (.file mode data) => if t.restricted && !permits mode readBit then .error .denied else .ok data
  | .ok (.directory mode _) =>
    if t.restricted && !permits mode readBit then .error .denied else .error .isDirectory

/-- Put, replace or remove an entry. -/
def putEntry (name : List Char) (node : Option Node) :
    List (List Char × Node) → List (List Char × Node)
  | [] => (node.map fun n => (name, n)).toList
  | (other, old) :: rest =>
    if other = name then (node.map fun n => (name, n)).toList ++ rest
    else (other, old) :: putEntry name node rest

/-- Change what some names lead to. Directories on the way are made if there is something to put into
them. -/
def Node.change (edit : Option Node → Option Node) : List (List Char) → Option Node → Option Node
  | [], node => edit node
  | name :: rest, some (.directory mode entries) =>
    some (.directory mode (putEntry name (change edit rest (entries.lookup name)) entries))
  | _ :: _, some (.file mode data) => some (.file mode data)
  | name :: rest, none =>
    (change edit rest none).map fun node => .directory newDirectoryMode [(name, node)]

/-- Change what a path without steps upwards leads to. -/
def Tree.change (t : Tree) (p : Path) (edit : Option Node → Option Node) : Tree :=
  let names := (if p.isAbsolute then p.names else t.here ++ p.names).filter (· ≠ ['.'])
  { t with root := (Node.change edit names (some t.root)).getD t.root }

/-- Write a file. One that exists keeps its bits. -/
def Tree.write (t : Tree) (p : Path) (data : List UInt8) : Tree :=
  t.change p fun
    | some (.file mode _) => some (.file mode data)
    | some node => some node
    | none => some (.file newFileMode data)

/-- Make a directory. -/
def Tree.makeDirectory (t : Tree) (p : Path) : Tree :=
  t.change p fun node => some (node.getD (.directory newDirectoryMode []))

/-- Remove a file, or a directory with all in it. -/
def Tree.remove (t : Tree) (p : Path) : Tree := t.change p fun _ => none

/-- Set the bits of a file or a directory. -/
def Tree.setMode (t : Tree) (p : Path) (mode : Nat) : Tree :=
  t.change p fun
    | some (.file _ data) => some (.file mode data)
    | some (.directory _ entries) => some (.directory mode entries)
    | none => none

/-- A tree with nothing but the directory in which the program runs. -/
def Tree.start (here : List (List Char)) (restricted : Bool) : Tree :=
  Tree.makeDirectory ⟨.directory newDirectoryMode [], here, restricted⟩ []

end Detour.File
