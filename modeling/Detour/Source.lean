import Detour.File.Tree
import Detour.Payload
import Detour.Text.Quoted
/-!
# Where rule lists come from

A list is read from a file, or fetched from a URL with a file in a cache directory to fall back on.
Nothing is fetched here: what a request for a URL brought is given, and if it brought nothing, what
remains is the file. For each source one path is read, and what reading it led to is brought into the
words of the source.
-/

namespace Detour

/-- Where a rule list comes from. -/
inductive Source where
  /-- A file. -/
  | file (path : File.Path)
  /-- A URL, with the directory of the cached copies. -/
  | remote (url : List Char) (cache : File.Path)
  deriving DecidableEq, Repr

namespace Source

/-- Why a list file could not be read. -/
inductive FileFault where
  /-- There is no such file. -/
  | notFound (path : File.Path)
  /-- It may not be read. -/
  | denied (path : File.Path)
  /-- Something else went wrong. -/
  | io (path : File.Path) (fault : File.Fault)
  deriving DecidableEq, Repr

/-- Why a remote list could not be had. -/
inductive RemoteFault where
  /-- The request failed. -/
  | network (url : List Char)
  /-- The request failed and there is no cached copy. -/
  | cacheUnavailable (path : File.Path)
  /-- The request failed and the cached copy could not be read. -/
  | cacheIo (path : File.Path) (fault : File.Fault)
  deriving DecidableEq, Repr

/-- Why a list could not be loaded. -/
inductive Fault where
  /-- Its file could not be read. -/
  | file (fault : FileFault)
  /-- It could not be had from its URL, nor from the cache. -/
  | remote (fault : RemoteFault)
  /-- What was read is no list. -/
  | decode (fault : Payload.Fault)
  deriving DecidableEq, Repr

/-- What a request for a list brought. -/
structure Download where
  /-- The bytes of the list. -/
  payload : List UInt8
  /-- Why no copy of it could be kept, if none could. -/
  copyFault : Option RemoteFault
  deriving DecidableEq, Repr

/-- A path as it is shown in messages. -/
def shownPath (p : File.Path) : String := String.ofList (Text.quoted p)

/-- The wording of a fault. -/
def FileFault.message : FileFault → String
  | .notFound path => "file not found: " ++ shownPath path
  | .denied path => "permission denied: " ++ shownPath path
  | .io path _ => "I/O error reading " ++ shownPath path

/-- What is behind a fault, outermost first. -/
def FileFault.causes : FileFault → List String
  | .io _ fault => [fault.message]
  | _ => []

/-- The wording of a fault. -/
def RemoteFault.message : RemoteFault → String
  | .network url => "network error fetching " ++ String.ofList url
  | .cacheUnavailable path => "cache not available: " ++ shownPath path
  | .cacheIo path fault => "cache I/O error for " ++ shownPath path ++ ": " ++ fault.message

/-- What is behind a fault, outermost first. -/
def RemoteFault.causes : RemoteFault → List String
  | .cacheIo _ fault => [fault.message]
  | _ => []

/-- The wording of a fault. -/
def Fault.message : Fault → String
  | .file _ => "failed to load file list"
  | .remote _ => "failed to load remote list"
  | .decode _ => "failed to decode list"

/-- What is behind a fault, outermost first. -/
def Fault.causes : Fault → List String
  | .file fault => fault.message :: fault.causes
  | .remote fault => fault.message :: fault.causes
  | .decode fault => [fault.message, fault.cause]

/-- The fault of a list file whose path could not be read. -/
def FileFault.of (path : File.Path) : File.Fault → FileFault
  | .notFound => .notFound path
  | .denied => .denied path
  | fault => .io path fault

/-- The fault of a cached copy whose path could not be read. -/
def RemoteFault.of (path : File.Path) : File.Fault → RemoteFault
  | .notFound => .cacheUnavailable path
  | fault => .cacheIo path fault

/-- What the names of cached copies end with. -/
def cacheEnding : List Char := ".cache".toList

/-- The path of the cached copy of a list. -/
def cachePath (cache : File.Path) (name : List Char) : File.Path :=
  File.Path.join cache (name ++ cacheEnding)

/-- The name of the list. -/
def listName : List Char := "gfwlist".toList

/-- The path that is read for a source. -/
def path : Source → File.Path
  | .file path => path
  | .remote _ cache => cachePath cache listName

/-- The bytes of a list file, given what reading its path led to. -/
def acceptFile (path : File.Path) (read : Except File.Fault (List UInt8)) :
    Except FileFault (List UInt8) :=
  match read with
  | .ok bytes => .ok bytes
  | .error fault => .error (.of path fault)

/-- The bytes of a cached copy, given what reading its path led to. -/
def acceptCached (path : File.Path) (read : Except File.Fault (List UInt8)) :
    Except RemoteFault (List UInt8) :=
  match read with
  | .ok bytes => .ok bytes
  | .error fault => .error (.of path fault)

/-- The bytes of a remote list whose request failed, among files: those of its cached copy. The URL of the
request does not matter any more. -/
def loadCached (t : File.Tree) (cache : File.Path) (name : List Char) :
    Except RemoteFault (List UInt8) :=
  acceptCached (cachePath cache name) (t.read (cachePath cache name))

/-- The fault of a source whose path could not be read. -/
def faultOf : Source → File.Fault → Fault
  | .file path, fault => .file (.of path fault)
  | .remote _ cache, fault => .remote (.of (cachePath cache listName) fault)

/-- The bytes of a source, given what reading its path led to. -/
def accept (s : Source) (read : Except File.Fault (List UInt8)) : Except Fault (List UInt8) :=
  match read with
  | .ok bytes => .ok bytes
  | .error fault => .error (s.faultOf fault)

/-- A source is read exactly if its path is. -/
theorem accept_eq_ok_iff {s : Source} {read : Except File.Fault (List UInt8)} {bytes : List UInt8} :
    s.accept read = .ok bytes ↔ read = .ok bytes := by
  cases read <;> simp [accept]

/-- A copy is loaded exactly if its path is read. -/
theorem loadCached_eq_ok_iff {t : File.Tree} {cache : File.Path} {name : List Char}
    {bytes : List UInt8} :
    loadCached t cache name = .ok bytes ↔ t.read (cachePath cache name) = .ok bytes := by
  rw [loadCached]
  cases t.read (cachePath cache name) <;> simp [acceptCached]

end Source

end Detour
