import Detour.Source
/-!
# Events

What the program reports of its work. Each event has a level and a place it comes from, and is written
as a line with a message and some fields.
-/

namespace Detour

/-- How grave an event is, the gravest first. -/
inductive Event.Level where
  | error
  | warn
  | info
  | debug
  | trace
  deriving DecidableEq, Repr

/-- What happened. -/
inductive Event where
  /-- An expression cannot be read. -/
  | unreadable (source : List Char)
  /-- A list was read to its end. -/
  | parsed (rules skipped indexed ordered : Nat)
  /-- The active rules were replaced. -/
  | replaced (previous current : Nat)
  /-- A list file is about to be read. -/
  | loadingFile (path : File.Path)
  /-- A remote list is about to be fetched. -/
  | loadingRemote (url : List Char)
  /-- A request failed. -/
  | fetchFailed (url : List Char)
  /-- A cached copy was read. -/
  | cacheUsed (path : File.Path)
  /-- A list was fetched. -/
  | fetched (url : List Char) (bytes : Nat)
  /-- A copy of a fetched list was kept. -/
  | copySaved (path : File.Path)
  /-- A copy of a fetched list could not be kept. -/
  | copyFailed (path : File.Path) (fault : Source.RemoteFault)
  /-- The rules were refreshed. -/
  | refreshed (rules : Nat)
  /-- The rules could not be refreshed. -/
  | refreshFailed (fault : Source.Fault)
  /-- A query has no target. -/
  | noTarget (query : List Char)
  /-- Something about the session as a whole. -/
  | session (level : Event.Level) (message : String)

namespace Event

/-- The name of a level. -/
def Level.name : Level → String
  | error => "ERROR"
  | warn => "WARN"
  | info => "INFO"
  | debug => "DEBUG"
  | trace => "TRACE"

/-- The rank of a level, the gravest first. -/
def Level.rank : Level → Nat
  | error => 1
  | warn => 2
  | info => 3
  | debug => 4
  | trace => 5

/-- How grave an event is. -/
def level : Event → Level
  | unreadable _ => .error
  | fetchFailed _ | copyFailed .. | refreshFailed _ => .warn
  | cacheUsed _ | refreshed _ => .info
  | parsed .. | replaced .. | loadingFile _ | loadingRemote _ | fetched .. | copySaved _ => .debug
  | noTarget _ => .trace
  | session level _ => level

/-- The place that an event comes from. -/
def place : Event → String
  | unreadable _ => "gfwlist::rules"
  | parsed .. => "gfwlist::rules::parser"
  | replaced .. => "gfwlist::store"
  | loadingFile _ | loadingRemote _ | refreshed _ | refreshFailed _ => "gfwlist::blocklist::manager"
  | fetchFailed _ | cacheUsed _ | fetched .. | copySaved _ | copyFailed .. =>
    "gfwlist::blocklist::remote"
  | noTarget _ => "gfwlist::engine"
  | session .. => "gfwlist"

/-- The message of an event. -/
def message : Event → String
  | unreadable _ => "invalid regex pattern, rule will never match"
  | parsed .. => "parsed rule list"
  | replaced .. => "replaced rule set"
  | loadingFile _ => "loading file list"
  | loadingRemote _ => "loading remote list"
  | fetchFailed _ => "failed to fetch remote list, trying cache"
  | cacheUsed _ => "loaded list from cache"
  | fetched .. => "fetched remote list"
  | copySaved _ => "saved list to cache"
  | copyFailed .. => "failed to save list to cache"
  | refreshed _ => "refreshed rule list"
  | refreshFailed _ => "failed to refresh rule list"
  | noTarget _ => "unparsable target, not blocked"
  | session _ message => message

/-- The numbers that an event gives, with their names. -/
def numbers : Event → List (String × Nat)
  | parsed rules skipped indexed ordered =>
    [("rules", rules), ("skipped", skipped), ("indexed", indexed), ("ordered", ordered)]
  | replaced previous current => [("previous", previous), ("current", current)]
  | refreshed rules => [("rules", rules)]
  | _ => []

/-- The expression that an event is about. -/
def pattern? : Event → Option (List Char)
  | unreadable source => some source
  | _ => none

/-- A record as it is shown in fields: a name and, between braces, the fields. -/
def shownRecord (name : String) (fields : List (String × String)) : String :=
  name ++ " \x7b " ++ ", ".intercalate (fields.map fun (k, v) => k ++ ": " ++ v) ++ " \x7d"

/-- A fault of the system as it is shown in fields. -/
def shownFileFault (fault : File.Fault) : String :=
  let system (code : Nat) (kind message : String) : String :=
    shownRecord "Os"
      [("code", toString code), ("kind", kind), ("message", "\"" ++ message ++ "\"")]
  match fault with
  | .notFound => system 2 "NotFound" "No such file or directory"
  | .denied => system 13 "PermissionDenied" "Permission denied"
  | .notDirectory => system 20 "NotADirectory" "Not a directory"
  | .isDirectory => system 21 "IsADirectory" "Is a directory"
  | .nameTooLong => system 36 "InvalidFilename" "File name too long"
  | .nullInName =>
    shownRecord "Error" [("kind", "InvalidInput"), ("message", "\"" ++ fault.message ++ "\"")]
  | .other message => message

/-- A fault of a payload as it is shown in fields. -/
def shownPayloadFault (fault : Payload.Fault) : String :=
  match fault with
  | .base64 fault =>
    let inner := match fault with
      | .symbol byte offset => s!"InvalidByte({offset}, {byte.toNat})"
      | .lastSymbol byte offset => s!"InvalidLastSymbol({offset}, {byte.toNat})"
      | .length count => s!"InvalidLength({count})"
      | .padding => "InvalidPadding"
    "Base64(" ++ inner ++ ")"
  | .utf8 bytes fault =>
    let (index, count) := match fault with
      | .invalid count index => (index, s!"Some({count})")
      | .incomplete index => (index, "None")
    let numbers := ", ".intercalate (bytes.map fun b => toString b.toNat)
    "Utf8(" ++ shownRecord "FromUtf8Error" [("bytes", "[" ++ numbers ++ "]"),
      ("error", shownRecord "Utf8Error"
        [("valid_up_to", toString index), ("error_len", count)])] ++ ")"

/-- A fault of the system at a path as it is shown in fields. -/
def shownPathFault (name : String) (path : File.Path) (fault : File.Fault) : String :=
  shownRecord name [("path", Source.shownPath path), ("source", shownFileFault fault)]

/-- A fault of a remote list as it is shown in fields. -/
def shownRemoteFault (fault : Source.RemoteFault) : String :=
  match fault with
  | .network url => "Network(" ++ String.ofList url ++ ")"
  | .cacheUnavailable path => "CacheUnavailable(" ++ Source.shownPath path ++ ")"
  | .cacheIo path fault => shownPathFault "CacheIo" path fault

/-- A fault of a source as it is shown in fields. -/
def shownFault (fault : Source.Fault) : String :=
  match fault with
  | .file fault =>
    let inner := match fault with
      | .notFound path => "NotFound(" ++ Source.shownPath path ++ ")"
      | .denied path => "PermissionDenied(" ++ Source.shownPath path ++ ")"
      | .io path fault => shownPathFault "Io" path fault
    "FileLoad(" ++ inner ++ ")"
  | .remote fault => "RemoteLoad(" ++ shownRemoteFault fault ++ ")"
  | .decode fault => "Decode(" ++ shownPayloadFault fault ++ ")"

/-- The fields of an event, as they are written. -/
def fields (e : Event) : List (String × String) :=
  match e with
  | unreadable source => [("pattern", String.ofList source)]
  | loadingFile path | cacheUsed path | copySaved path => [("path", Source.shownPath path)]
  | copyFailed path fault => [("path", Source.shownPath path), ("error", shownRemoteFault fault)]
  | loadingRemote url | fetchFailed url => [("url", String.ofList url)]
  | fetched url bytes => [("url", String.ofList url), ("bytes", toString bytes)]
  | refreshFailed fault => [("error", shownFault fault)]
  | noTarget query => [("input", String.ofList query)]
  | e => e.numbers.map fun (name, n) => (name, toString n)

/-- The line of an event. -/
def line (e : Event) : String :=
  e.level.name ++ " " ++ e.place ++ ": " ++ e.message ++
    String.join (e.fields.map fun (name, value) => " " ++ name ++ "=" ++ value)

end Event

end Detour
