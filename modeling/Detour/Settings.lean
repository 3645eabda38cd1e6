import Detour.Address.Socket
import Detour.Feed
import Detour.Source
import Detour.Text.Blank
/-!
# Settings

What a user can set: the source of the rule list and how it is encoded, rules to add to it, how often
it is loaded again, how long a download may take, where copies of downloads are kept, and whether
metrics are served. `Settings.check` refuses settings that make no sense; the main statement says
what settings that pass it are like.
-/

namespace Detour

/-- Whether and where metrics are served. -/
structure MetricsSettings where
  /-- Whether they are served at all. -/
  enabled : Bool
  /-- The address at which they are served. -/
  listen : Address.Socket
  deriving DecidableEq, Repr

/-- No metrics; if they are enabled, they are served on the machine itself. -/
def MetricsSettings.standard : MetricsSettings := ⟨false, .four 0x7f000001 9090⟩

/-- Where the rule list is found. -/
inductive Place where
  /-- In a file. -/
  | file (path : File.Path)
  /-- Under a URL. -/
  | remote (url : List Char)
  deriving DecidableEq, Repr

/-- What a user can set. -/
structure Settings where
  /-- Where the rule list is found. -/
  place : Place
  /-- How it is encoded. -/
  encoding : Encoding
  /-- Rules to add to the list, each as one of its lines. -/
  rules : List (List Char)
  /-- After how many seconds the list is loaded again; never if it is not set. -/
  refreshSeconds : Option Nat
  /-- How many seconds a download may take. -/
  timeoutSeconds : Nat
  /-- The directory of the copies of downloads, if it is not the usual one. -/
  cache : Option File.Path
  /-- Whether and where metrics are served. -/
  metrics : MetricsSettings
  deriving DecidableEq, Repr

namespace Settings

/-- Why settings make no sense. -/
inductive Fault where
  /-- Loading again without a pause. -/
  | zeroRefresh
  /-- No time for a download. -/
  | zeroTimeout
  /-- A rule with nothing in it. -/
  | emptyRule
  /-- A file without a path. -/
  | emptyPath
  /-- A source without a URL. -/
  | emptyUrl
  /-- A URL that is not one of the web. -/
  | invalidUrl (url : List Char)
  deriving DecidableEq, Repr

/-- The wording of a fault. -/
def Fault.message : Fault → String
  | .zeroRefresh => "refresh_interval_secs must be greater than 0"
  | .zeroTimeout => "request_timeout_secs must be greater than 0"
  | .emptyRule => "inline rule cannot be empty"
  | .emptyPath => "list source has empty file path"
  | .emptyUrl => "list source has empty URL"
  | .invalidUrl url =>
    "list source has invalid URL (must start with http:// or https://): " ++
      String.ofList (Text.quoted url)

/-- How long a download may take if nothing is set. -/
def standardTimeout : Nat := 30

/-- Whether a URL is one of the web. -/
def isWebUrl (url : List Char) : Bool :=
  "http://".toList.isPrefixOf url || "https://".toList.isPrefixOf url

/-- What is wrong with a place. -/
def placeFault? : Place → Option Fault
  | .file path => if path.isEmpty then some .emptyPath else none
  | .remote url =>
    if url.isEmpty then some .emptyUrl
    else if isWebUrl url then none
    else some (.invalidUrl url)

/-- What is wrong with settings, the first thing of several. -/
def fault? (s : Settings) : Option Fault :=
  if s.refreshSeconds = some 0 then some .zeroRefresh
  else if s.timeoutSeconds = 0 then some .zeroTimeout
  else if s.rules.any fun rule => (Text.trim rule).isEmpty then some .emptyRule
  else placeFault? s.place

/-- The settings, unless something is wrong with them. -/
def check (s : Settings) : Except Fault Settings :=
  match s.fault? with
  | some fault => .error fault
  | none => .ok s

/-- Settings that pass are given back as they are, and no rule among them is blank. -/
theorem check_eq_ok_iff {s checked : Settings} :
    s.check = .ok checked ↔ s.fault? = none ∧ checked = s := by
  unfold check
  cases s.fault? with
  | some fault => simp
  | none => simp [eq_comm]

/-- The usual directory of the copies of downloads, given the directory for copies that the user has
named and the user's own directory. A relative path is not taken for the former. -/
def usualCache (named home : Option File.Path) : File.Path :=
  let base :=
    match named.filter File.Path.isAbsolute with
    | some path => some path
    | none => home.map fun home => File.Path.join home ".cache".toList
  match base with
  | some base => File.Path.join base "gfwlist/lists".toList
  | none => "./cache/lists".toList

/-- The source that settings name, with the given directory for copies of downloads. -/
def sourceWith (s : Settings) (cache : File.Path) : Source :=
  match s.place with
  | .file path => .file path
  | .remote url => .remote url cache

/-- The source that settings name, with the usual directory for copies if they name none. -/
def source (s : Settings) (usual : File.Path) : Source := s.sourceWith (s.cache.getD usual)

end Settings

end Detour
