import Detour.Settings
import Detour.Toml.Read
import Detour.Toml.Record
/-!
# Reading settings

Settings are written in a document with one table for the source and one for the metrics. First the
document is read, then the settings are taken from it in the order in which they stand there, and last
they are checked.
-/

namespace Detour.Settings

open Toml

/-- The two kinds of sources. -/
inductive SourceKind where
  /-- A file. -/
  | file
  /-- A URL. -/
  | remote
  deriving DecidableEq, Repr

/-- The source, as far as it has been read. -/
structure SourceDraft where
  /-- Its kind. -/
  kind : Option SourceKind
  /-- The path of its file. -/
  path : Option File.Path
  /-- Its URL. -/
  url : Option (List Char)
  /-- How the list is encoded. -/
  encoding : Option Encoding

/-- Nothing has been read of the source. -/
def SourceDraft.empty : SourceDraft := ⟨none, none, none, none⟩

/-- The kinds of sources under their names. -/
def sourceKinds : List (Key × SourceKind) := [("file".toList, .file), ("remote".toList, .remote)]

/-- The encodings under their names. -/
def encodings : List (Key × Encoding) := [("base64".toList, .base64), ("plain".toList, .plain)]

/-- The fields of the source. -/
def sourceSchema : Schema SourceDraft where
  name := "struct RawSourceConfig"
  fields :=
    [⟨"type".toList, false, fun v d => (v.toChoice sourceKinds).map ({ d with kind := some · })⟩,
      ⟨"path".toList, false, fun v d => (v.toText "path string").map ({ d with path := some · })⟩,
      ⟨"url".toList, false, fun v d => (v.toText "a string").map ({ d with url := some · })⟩,
      ⟨"encoding".toList, true, fun v d => (v.toChoice encodings).map ({ d with encoding := some · })⟩]

/-- The place that a source names. A file has a path and no URL, a remote list has a URL and no path. -/
def placeOf : SourceKind → Option File.Path → Option (List Char) → Except Mismatch Place
  | .file, _, some _ => .error (.unreadable "`url` is not allowed for a file source")
  | .file, some path, none => .ok (.file path)
  | .file, none, none => .error (.missingField "path".toList)
  | .remote, some _, _ => .error (.unreadable "`path` is not allowed for a remote source")
  | .remote, none, some url => .ok (.remote url)
  | .remote, none, none => .error (.missingField "url".toList)

/-- The place and the encoding of a source. -/
def SourceDraft.finish (d : SourceDraft) : Except Mismatch (Place × Encoding) :=
  match d.kind with
  | none => .error (.missingField "type".toList)
  | some kind => (placeOf kind d.path d.url).map (·, d.encoding.getD .base64)

/-- A value as a source. -/
def readSource (v : Value) : Except Mismatch (Place × Encoding) :=
  (sourceSchema.fill .empty v).bind SourceDraft.finish

/-- A value as an address with a port. -/
def readSocket (v : Value) : Except Mismatch Address.Socket :=
  (v.toText "socket address").bind fun s =>
    match Address.Socket.parse s with
    | some socket => .ok socket
    | none => .error (.unreadable "invalid socket address syntax")

/-- The fields of the metrics. -/
def metricsSchema : Schema MetricsSettings where
  name := "struct MetricsConfig"
  fields :=
    [⟨"enabled".toList, true, fun v m => (v.toBool "a boolean").map ({ m with enabled := · })⟩,
      ⟨"listen".toList, true, fun v m => (readSocket v).map ({ m with listen := · })⟩]

/-- The settings, as far as they have been read. -/
structure Draft where
  /-- The place of the source, and how the list is encoded. -/
  source : Option (Place × Encoding)
  /-- The rules to add. -/
  rules : List (List Char)
  /-- After how many seconds the list is loaded again. -/
  refreshSeconds : Option Nat
  /-- How many seconds a download may take. -/
  timeoutSeconds : Nat
  /-- The directory of the copies of downloads. -/
  cache : Option File.Path
  /-- Whether and where metrics are served. -/
  metrics : MetricsSettings

/-- What is set where nothing is written. -/
def Draft.empty : Draft := ⟨none, [], none, standardTimeout, none, .standard⟩

/-- The fields of the settings. -/
def schema : Schema Draft where
  name := "struct Config"
  fields :=
    [⟨"source".toList, false, fun v d => (readSource v).map ({ d with source := some · })⟩,
      ⟨"rules".toList, true, fun v d => (v.toTexts "a sequence" "a string").map ({ d with rules := · })⟩,
      ⟨"refresh_interval_secs".toList, true,
        fun v d => (v.toNat "u64").map ({ d with refreshSeconds := some · })⟩,
      ⟨"request_timeout_secs".toList, true,
        fun v d => (v.toNat "u64").map ({ d with timeoutSeconds := · })⟩,
      ⟨"cache_dir".toList, true, fun v d => (v.toText "path string").map ({ d with cache := some · })⟩,
      ⟨"metrics".toList, true,
        fun v d => (metricsSchema.fill .standard v).map ({ d with metrics := · })⟩]

/-- The settings that a draft has become. -/
def Draft.finish (d : Draft) : Except Mismatch Settings :=
  match d.source with
  | none => .error (.missingField "source".toList)
  | some (place, encoding) =>
    .ok ⟨place, encoding, d.rules, d.refreshSeconds, d.timeoutSeconds, d.cache, d.metrics⟩

/-- The settings in the table of a document. -/
def ofEntries (entries : Entries) : Except Mismatch Settings :=
  (schema.fillEntries .empty entries).bind Draft.finish

/-- Why there are no settings. -/
inductive ReadFault where
  /-- The file could not be read. -/
  | file (fault : File.Fault)
  /-- The bytes of the file are no text. -/
  | notText
  /-- The text is no document. -/
  | notDocument
  /-- The document does not hold settings. -/
  | mismatch (why : Mismatch)
  /-- The settings make no sense. -/
  | invalid (fault : Fault)
  deriving Repr

/-- What is behind a fault. -/
def ReadFault.cause : ReadFault → String
  | .file fault => fault.message
  | .notText => "stream did not contain valid UTF-8"
  | .notDocument => "TOML parse error"
  | .mismatch why => "TOML parse error: " ++ why.message
  | .invalid fault => fault.message

/-- The wording of a fault. -/
def ReadFault.message (fault : ReadFault) : String :=
  let stage := match fault with
    | .file _ | .notText => "failed to read config file: "
    | .notDocument | .mismatch _ => "failed to parse config: "
    | .invalid _ => "validation failed: "
  stage ++ fault.cause

/-- The settings in a text. -/
def ofText (s : List Char) : Except ReadFault Settings :=
  match Toml.read s with
  | none => .error .notDocument
  | some entries =>
    match ofEntries entries with
    | .error why => .error (.mismatch why)
    | .ok settings => settings.check.mapError .invalid

/-- The settings in the bytes of a file, given what reading it led to. -/
def ofFile (read : Except File.Fault (List UInt8)) : Except ReadFault Settings :=
  match read with
  | .error fault => .error (.file fault)
  | .ok bytes =>
    match Text.Utf8.decode bytes with
    | .error _ => .error .notText
    | .ok s => ofText s

/-- Settings that were read have passed their check. -/
theorem fault?_of_ofText {s : List Char} {settings : Settings} (h : ofText s = .ok settings) :
    settings.fault? = none := by
  unfold ofText at h
  split at h
  · cases h
  · split at h
    · cases h
    · rename_i checked _
      cases passed : checked.check with
      | error fault =>
        rw [passed] at h
        cases h
      | ok final =>
        obtain ⟨clean, rfl⟩ := check_eq_ok_iff.1 passed
        rw [passed] at h
        cases h
        exact clean

end Detour.Settings
