import Detour.Store
/-!
# Refreshing the rules

A refresher keeps a store in line with a source: it reads the source, decodes the list, feeds its lines
and then the rules of its own, and installs the result. If anything fails the active rules stay. A remote
list that was downloaded is not read from its cached copy.
-/

namespace Detour

/-- What a store is refreshed from. -/
structure Refresher where
  /-- Where the list comes from. -/
  source : Source
  /-- How its bytes are read. -/
  encoding : Encoding
  /-- Rules that follow those of the list. -/
  extraRules : List (List Char)
  /-- The rules and their records. -/
  store : Store

namespace Refresher

/-- A refresher that has not read anything yet. -/
def start (source : Source) (encoding : Encoding) (extraRules : List (List Char)) : Refresher :=
  ⟨source, encoding, extraRules, .empty⟩

/-- What happens when a list is fetched and its cached copy is taken. -/
def fetchEvents (url : List Char) (cached : File.Path) (ok : Bool) : List Event :=
  .fetchFailed url :: if ok then [.cacheUsed cached] else []

/-- What happens before a list is decoded. -/
def loadingEvents (source : Source) (ok : Bool) : List Event :=
  match source with
  | .file path => [.loadingFile path]
  | .remote url cache =>
    .loadingRemote url :: fetchEvents url (Source.cachePath cache Source.listName) ok

/-- The rules of a payload, followed by the rules of the refresher's own. -/
def feed (r : Refresher) (payload : List UInt8) : Except Payload.Fault Feed :=
  (Payload.decode r.encoding payload).map fun text => (Feed.empty.text text).lines r.extraRules

/-- The feed that replaces the rules, given what reading the source's path led to. -/
def load (r : Refresher) (read : Except File.Fault (List UInt8)) : Except Source.Fault Feed :=
  match r.source.accept read with
  | .error fault => .error fault
  | .ok payload => (r.feed payload).mapError .decode

/-- Install what was fed. -/
def install (s : Store) (f : Feed) : Store :=
  let rules := f.ruleSet
  let s := (s.noteAll f.events).replace rules
  { s with metrics := s.metrics.countReload true }.note (.refreshed rules.size)

/-- Note why nothing was installed. -/
def giveUp (s : Store) (fault : Source.Fault) : Store :=
  { s with metrics := s.metrics.countReload false }.note (.refreshFailed fault)

@[simp] theorem active_install (s : Store) (f : Feed) : (install s f).active = f.ruleSet := rfl

@[simp] theorem active_giveUp (s : Store) (fault : Source.Fault) :
    (giveUp s fault).active = s.active := rfl

/-- Refresh the rules, given what reading the source's path led to. -/
def refreshWith (r : Refresher) (read : Except File.Fault (List UInt8)) :
    Except Source.Fault Unit × Refresher :=
  let s := r.store.noteAll (loadingEvents r.source read.isOk)
  match r.load read with
  | .ok f => (.ok (), { r with store := install s f })
  | .error fault => (.error fault, { r with store := giveUp s fault })

/-- What happens when a list is downloaded. -/
def downloadEvents (url : List Char) (copy : File.Path) (d : Source.Download) : List Event :=
  [.loadingRemote url, .fetched url d.payload.length,
    match d.copyFault with
    | none => .copySaved copy
    | some fault => .copyFailed copy fault]

/-- Refresh the rules from what was downloaded. -/
def refreshFrom (r : Refresher) (url : List Char) (cache : File.Path) (d : Source.Download) :
    Except Source.Fault Unit × Refresher :=
  let s := r.store.noteAll (downloadEvents url (Source.cachePath cache Source.listName) d)
  match r.feed d.payload with
  | .ok f => (.ok (), { r with store := install s f })
  | .error fault => (.error (.decode fault), { r with store := giveUp s (.decode fault) })

/-- Refresh the rules, given what a request for a remote list brought, if it brought anything, and what
reading the source's path led to. -/
def refreshOnline (r : Refresher) (download : Option Source.Download)
    (read : Except File.Fault (List UInt8)) : Except Source.Fault Unit × Refresher :=
  match r.source, download with
  | .remote url cache, some d => r.refreshFrom url cache d
  | _, _ => r.refreshWith read

/-- Refresh the rules from a tree of files. -/
def refresh (r : Refresher) (t : File.Tree) : Except Source.Fault Unit × Refresher :=
  r.refreshWith (t.read r.source.path)

/-- Refresh the rules several times in turn. -/
def refreshTimes (r : Refresher) (t : File.Tree) : Nat → Refresher
  | 0 => r
  | n + 1 => refreshTimes (r.refresh t).2 t n

end Refresher

end Detour
