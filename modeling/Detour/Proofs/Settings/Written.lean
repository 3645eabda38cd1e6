import Detour.Proofs.Address.Socket
import Detour.Proofs.Toml.Layout
import Detour.Settings.Read
/-!
# How settings are written

What a user may choose, in which documents a choice is written, and what is to be made of it. Everything
but the kind of the source may be left out. The tables may be written in any way, and what they
hold in any order.
-/

namespace Detour.Settings

open Toml

/-- An address with a port, and a text that writes it. -/
structure Listen where
  /-- The text. -/
  text : List Char
  /-- The address. -/
  socket : Address.Socket
  /-- The text writes the address. -/
  written : Address.Socket.Writes text socket

/-- What a user chooses. -/
structure Choice where
  /-- The kind of the source. -/
  kind : SourceKind
  /-- The path of the source. -/
  path : Option File.Path
  /-- The URL of the source. -/
  url : Option (List Char)
  /-- How the list is encoded. -/
  encoding : Option Encoding
  /-- Rules to add to the list. -/
  rules : Option (List (List Char))
  /-- After how many seconds the list is loaded again. -/
  refreshSeconds : Option (Fin 0x8000000000000000)
  /-- How many seconds a download may take. -/
  timeoutSeconds : Option (Fin 0x8000000000000000)
  /-- The directory of the copies of downloads. -/
  cache : Option File.Path
  /-- Whether metrics are served. -/
  enabled : Option Bool
  /-- Where metrics are served. -/
  listen : Option Listen

section Names

/-- The name of a kind of sources. -/
def SourceKind.name : SourceKind → List Char
  | .file => "file".toList
  | .remote => "remote".toList

/-- The name of an encoding. -/
def encodingName : Encoding → List Char
  | .base64 => "base64".toList
  | .plain => "plain".toList

end Names

/-- An entry of the source. -/
inductive SourceItem where
  /-- Its kind. -/
  | kind (kind : SourceKind)
  /-- Its path. -/
  | path (path : File.Path)
  /-- Its URL. -/
  | url (url : List Char)
  /-- Its encoding. -/
  | encoding (encoding : Encoding)

/-- An entry of the source under its name. -/
def SourceItem.entry : SourceItem → Key × Value
  | kind k => ("type".toList, .text k.name)
  | path p => ("path".toList, .text p)
  | url u => ("url".toList, .text u)
  | encoding e => ("encoding".toList, .text (encodingName e))

/-- An entry of the metrics. -/
inductive MetricsItem where
  /-- Whether they are served. -/
  | enabled (enabled : Bool)
  /-- Where they are served. -/
  | listen (listen : Listen)

/-- An entry of the metrics under its name. -/
def MetricsItem.entry : MetricsItem → Key × Value
  | enabled b => ("enabled".toList, .boolean b)
  | listen l => ("listen".toList, .text l.text)

/-- An entry that stands in no table. -/
inductive SingleItem where
  /-- The rules to add. -/
  | rules (rules : List (List Char))
  /-- The pause between two loads. -/
  | refresh (seconds : Fin 0x8000000000000000)
  /-- The time for a download. -/
  | timeout (seconds : Fin 0x8000000000000000)
  /-- The directory of the copies of downloads. -/
  | cache (path : File.Path)

/-- An entry that stands in no table, under its name. -/
def SingleItem.entry : SingleItem → Key × Value
  | rules texts => ("rules".toList, .array (texts.map .text))
  | refresh n => ("refresh_interval_secs".toList, .integer n.val)
  | timeout n => ("request_timeout_secs".toList, .integer n.val)
  | cache p => ("cache_dir".toList, .text p)

namespace Choice

variable (c : Choice)

/-- The entries of the source that are chosen. -/
def sourceItems : List SourceItem :=
  .kind c.kind :: (c.path.toList.map .path ++ c.url.toList.map .url ++ c.encoding.toList.map .encoding)

/-- The entries of the metrics that are chosen. -/
def metricsItems : List MetricsItem := c.enabled.toList.map .enabled ++ c.listen.toList.map .listen

/-- The entries in no table that are chosen. -/
def singleItems : List SingleItem :=
  c.rules.toList.map .rules ++ c.refreshSeconds.toList.map .refresh ++
    c.timeoutSeconds.toList.map .timeout ++ c.cache.toList.map .cache

/-- A document holds a choice and nothing else: a table for the source, one for the metrics, and the
other entries, in any order. -/
def IsHeldBy (d : Document) : Prop :=
  ∃ source metrics : Placed,
    source.key = "source".toList ∧ source.entries.Perm (c.sourceItems.map SourceItem.entry) ∧
    metrics.key = "metrics".toList ∧ metrics.entries.Perm (c.metricsItems.map MetricsItem.entry) ∧
    LaysOut d (c.singleItems.map SingleItem.entry) [source, metrics]

/-- A text writes a choice. -/
def IsWritten (s : List Char) : Prop := ∃ d, Grammar.Writes s d ∧ c.IsHeldBy d

/-- The place of the source. A file has a path and no URL, a remote list has a URL and no path. -/
def place? : Option Place :=
  match c.kind, c.path, c.url with
  | .file, some path, none => some (.file path)
  | .remote, none, some url => some (.remote url)
  | _, _, _ => none

/-- The first thing that is wrong with a choice. -/
def fault? (place : Place) : Option Fault :=
  if c.refreshSeconds = some 0 then some .zeroRefresh
  else if c.timeoutSeconds = some 0 then some .zeroTimeout
  else if ∃ rule ∈ c.rules.getD [], Text.trim rule = [] then some .emptyRule
  else match place with
    | .file path => if path = [] then some .emptyPath else none
    | .remote url =>
      if url = [] then some .emptyUrl
      else if "http://".toList <+: url ∨ "https://".toList <+: url then none
      else some (.invalidUrl url)

/-- The metrics that are chosen. Where nothing is, they are not served; their usual address is that of the
machine itself. -/
def metrics : MetricsSettings :=
  ⟨c.enabled.getD false, (c.listen.map (·.socket)).getD (.four 0x7f000001 9090)⟩

/-- The settings that are chosen, with the usual values for what is left out. -/
def settings (place : Place) : Settings where
  place := place
  encoding := c.encoding.getD .base64
  rules := c.rules.getD []
  refreshSeconds := c.refreshSeconds.map (·.val)
  timeoutSeconds := (c.timeoutSeconds.map (·.val)).getD 30
  cache := c.cache
  metrics := c.metrics

end Choice

end Detour.Settings
