import Detour.Proofs.Settings.Written
import Detour.Proofs.Toml.Read
import Detour.Proofs.Toml.Record
/-!
# Reading settings

Main statement: whatever a user chooses, and however the choice is written, the settings that are read are
those that were chosen, or the first thing that is wrong with them is found.
-/

namespace Detour.Settings

open Toml

/-- An entry that may be left out has its key at most once. -/
theorem sublist_key {α β γ : Type} (make : α → β) (key : β → γ) (name : γ) (o : Option α)
    (same : ∀ a, key (make a) = name) : ((o.toList.map make).map key).Sublist [name] := by
  cases o with
  | none => exact List.nil_sublist _
  | some a => rw [Option.toList_some, List.map_singleton, List.map_singleton, same]

section Source

/-- What an entry of the source does. -/
def SourceItem.apply : SourceItem → SourceDraft → SourceDraft
  | kind k, d => { d with kind := some k }
  | path p, d => { d with path := some p }
  | url u, d => { d with url := some u }
  | encoding e, d => { d with encoding := some e }

/-- The entries of the source have effects of their own. -/
theorem sourceEffects : sourceSchema.Effects SourceItem.entry SourceItem.apply where
  fill x draft := by
    cases x with
    | kind k => cases k <;> rfl
    | path => rfl
    | url => rfl
    | encoding e => cases e <;> rfl
  comm x y draft differs := by
    cases x <;> cases y <;> first | rfl | exact absurd rfl differs

variable (c : Choice)

/-- No entry of the source is chosen twice. -/
theorem nodup_sourceItems : (c.sourceItems.map (·.entry.1)).Nodup := by
  have path := sublist_key SourceItem.path (·.entry.1) "path".toList c.path fun _ => rfl
  have url := sublist_key SourceItem.url (·.entry.1) "url".toList c.url fun _ => rfl
  have encoding := sublist_key SourceItem.encoding (·.entry.1) "encoding".toList c.encoding fun _ => rfl
  have names := ((path.append url).append encoding).cons_cons "type".toList
  rw [Choice.sourceItems, List.map_cons, List.map_append, List.map_append]
  exact List.Nodup.sublist names (by decide)

/-- The source is read from its table, whatever the order of its entries. -/
theorem readSource_eq {form : Form} {entries : Entries}
    (perm : entries.Perm (c.sourceItems.map SourceItem.entry)) :
    readSource (.table form entries) =
      (placeOf c.kind c.path c.url).map (·, c.encoding.getD .base64) := by
  have filled : sourceSchema.fillEntries .empty entries = _ :=
    sourceEffects.fillEntries_perm (nodup_sourceItems c) perm
  have draft : c.sourceItems.foldl (fun d x => x.apply d) SourceDraft.empty =
      ⟨some c.kind, c.path, c.url, c.encoding⟩ := by
    unfold Choice.sourceItems
    cases c.path <;> cases c.url <;> cases c.encoding <;> rfl
  rw [readSource, Schema.fill, filled, draft]
  rfl

/-- The place is the one that is chosen, if there is one. -/
theorem placeOf_eq :
    (∀ place, c.place? = some place → placeOf c.kind c.path c.url = .ok place) ∧
      (c.place? = none → ∃ why, placeOf c.kind c.path c.url = .error why) := by
  unfold Choice.place?
  cases c.kind <;> cases c.path <;> cases c.url <;> simp [placeOf]

end Source

section Metrics

/-- What an entry of the metrics does. -/
def MetricsItem.apply : MetricsItem → MetricsSettings → MetricsSettings
  | enabled b, m => { m with enabled := b }
  | listen l, m => { m with listen := l.socket }

/-- An address is read from a text that writes it. -/
theorem readSocket_eq (l : Listen) : readSocket (.text l.text) = .ok l.socket := by
  have read : (Value.text l.text).toText "socket address" = .ok l.text := rfl
  rw [readSocket, read, Except.bind, l.written.parse]

/-- The entries of the metrics have effects of their own. -/
theorem metricsEffects : metricsSchema.Effects MetricsItem.entry MetricsItem.apply where
  fill x draft := by
    cases x with
    | enabled b => rfl
    | listen l => exact congrArg (Except.map ({ draft with listen := · })) (readSocket_eq l)
  comm x y draft differs := by
    cases x <;> cases y <;> first | rfl | exact absurd rfl differs

variable (c : Choice)

/-- No entry of the metrics is chosen twice. -/
theorem nodup_metricsItems : (c.metricsItems.map (·.entry.1)).Nodup := by
  have enabled := sublist_key MetricsItem.enabled (·.entry.1) "enabled".toList c.enabled fun _ => rfl
  have listen := sublist_key MetricsItem.listen (·.entry.1) "listen".toList c.listen fun _ => rfl
  rw [Choice.metricsItems, List.map_append]
  exact List.Nodup.sublist (enabled.append listen) (by decide)

/-- The metrics are read from their table, whatever the order of its entries. -/
theorem fill_metrics {form : Form} {entries : Entries}
    (perm : entries.Perm (c.metricsItems.map MetricsItem.entry)) :
    metricsSchema.fill .standard (.table form entries) = .ok c.metrics := by
  have filled : metricsSchema.fillEntries .standard entries = _ :=
    metricsEffects.fillEntries_perm (nodup_metricsItems c) perm
  have draft : c.metricsItems.foldl (fun m x => x.apply m) MetricsSettings.standard = c.metrics := by
    unfold Choice.metricsItems Choice.metrics
    cases c.enabled <;> cases c.listen <;> rfl
  rw [Schema.fill, filled, draft]

end Metrics

section Whole

/-- An entry of the settings, with what is read of it. -/
inductive TopItem where
  /-- An entry in no table. -/
  | single (item : SingleItem)
  /-- The source. -/
  | source (v : Value) (place : Place) (encoding : Encoding) (read : readSource v = .ok (place, encoding))
  /-- The metrics. -/
  | metrics (v : Value) (m : MetricsSettings) (read : metricsSchema.fill .standard v = .ok m)

/-- An entry of the settings under its name. -/
def TopItem.entry : TopItem → Key × Value
  | single item => item.entry
  | source v _ _ _ => ("source".toList, v)
  | metrics v _ _ => ("metrics".toList, v)

/-- What an entry in no table does. -/
def SingleItem.apply : SingleItem → Draft → Draft
  | rules texts, d => { d with rules := texts }
  | refresh n, d => { d with refreshSeconds := some n.val }
  | timeout n, d => { d with timeoutSeconds := n.val }
  | cache p, d => { d with cache := some p }

/-- What an entry of the settings does. -/
def TopItem.apply : TopItem → Draft → Draft
  | single item, d => item.apply d
  | source _ place encoding _, d => { d with source := some (place, encoding) }
  | metrics _ m _, d => { d with metrics := m }

/-- Texts are read from an array of them. -/
theorem toTexts_array (texts : List (List Char)) :
    (Value.array (texts.map .text)).toTexts "a sequence" "a string" = .ok texts := by
  have each : (texts.map Value.text).mapM (Value.toText "a string") = .ok texts := by
    induction texts with
    | nil => rfl
    | cons s texts ih =>
      rw [List.map_cons, List.mapM_cons, ih]
      rfl
  rw [Value.toTexts, Value.items?]
  exact each

/-- Seconds are read from their number. -/
theorem toNat_integer (n : Nat) : (Value.integer n).toNat "u64" = .ok n := by
  rw [Value.toNat, if_pos (Int.natCast_nonneg n), Int.toNat_natCast]

/-- The entries of the settings have effects of their own. -/
theorem topEffects : schema.Effects TopItem.entry TopItem.apply where
  fill x draft := by
    cases x with
    | single item =>
      cases item with
      | rules texts => exact congrArg (Except.map ({ draft with rules := · })) (toTexts_array texts)
      | refresh n => exact congrArg (Except.map ({ draft with refreshSeconds := some · })) (toNat_integer n)
      | timeout n => exact congrArg (Except.map ({ draft with timeoutSeconds := · })) (toNat_integer n)
      | cache p => rfl
    | source v place encoding read =>
      exact congrArg (Except.map ({ draft with source := some · })) read
    | metrics v m read => exact congrArg (Except.map ({ draft with metrics := · })) read
  comm x y draft differs := by
    rcases x with (_ | _ | _ | _) | _ | _ <;> rcases y with (_ | _ | _ | _) | _ | _ <;>
      first | rfl | exact absurd rfl differs

variable (c : Choice)

/-- No entry is chosen twice, in a table or not. -/
theorem nodup_names :
    ((c.singleItems.map SingleItem.entry).map (·.1) ++ ["source".toList, "metrics".toList]).Nodup := by
  have rules := sublist_key SingleItem.rules (·.entry.1) "rules".toList c.rules fun _ => rfl
  have refresh := sublist_key SingleItem.refresh (·.entry.1) "refresh_interval_secs".toList
    c.refreshSeconds fun _ => rfl
  have timeout := sublist_key SingleItem.timeout (·.entry.1) "request_timeout_secs".toList
    c.timeoutSeconds fun _ => rfl
  have cache := sublist_key SingleItem.cache (·.entry.1) "cache_dir".toList c.cache fun _ => rfl
  have singles := ((rules.append refresh).append timeout).append cache
  rw [List.map_map, Choice.singleItems, List.map_append, List.map_append, List.map_append]
  exact List.Nodup.sublist (singles.append (List.Sublist.refl _)) (by decide)

/-- The settings, read from their entries in no table. -/
theorem foldl_singleItems :
    (c.singleItems.map TopItem.single).foldl (fun d x => x.apply d) Draft.empty =
      ⟨none, c.rules.getD [], c.refreshSeconds.map (·.val), (c.timeoutSeconds.map (·.val)).getD 30, c.cache,
        .standard⟩ := by
  unfold Choice.singleItems
  cases c.rules <;> cases c.refreshSeconds <;> cases c.timeoutSeconds <;> cases c.cache <;> rfl

/-- Entries in no table, a table for the source and perhaps one for the metrics, in any order, are those of
a choice. -/
structure Choice.Splits (entries : Entries) (form : Form) (source metrics : Entries) : Prop where
  /-- All keys are different. -/
  nodup : (entries.map (·.1)).Nodup
  /-- The table for the source holds what is chosen of it. -/
  ofSource : source.Perm (c.sourceItems.map SourceItem.entry)
  /-- Nothing is said of the metrics if nothing is chosen, or their table holds what is chosen. -/
  ofMetrics : (metrics = [] ∧ c.metricsItems = []) ∨
    ∃ form inner, metrics = [("metrics".toList, .table form inner)] ∧
      inner.Perm (c.metricsItems.map MetricsItem.entry)
  /-- There is nothing else. -/
  whole : entries.Perm
    (c.singleItems.map SingleItem.entry ++ ("source".toList, .table form source) :: metrics)

variable {c} {d : Document} {entries : Entries}

/-- The entries of a document that holds a choice are those of the choice. -/
theorem Choice.IsHeldBy.exists_table (held : c.IsHeldBy d) :
    ∃ (entries : Entries) (form : Form) (source metrics : Entries),
      d.table = some entries ∧ c.Splits entries form source metrics := by
  obtain ⟨source, metrics, sourceKey, sourcePerm, metricsKey, metricsPerm, laid⟩ := held
  have keys : ((c.singleItems.map SingleItem.entry).map (·.1) ++
      [source, metrics].map (·.key)).Nodup := by
    rw [List.map_cons, List.map_singleton, sourceKey, metricsKey]
    exact nodup_names c
  have inner : ∀ t ∈ [source, metrics], (t.entries.map (·.1)).Nodup := by
    rw [List.forall_mem_cons, List.forall_mem_singleton, (sourcePerm.map _).nodup_iff,
      (metricsPerm.map _).nodup_iff, List.map_map, List.map_map]
    exact ⟨nodup_sourceItems c, nodup_metricsItems c⟩
  obtain ⟨entries, out, table, nodup, comes, mem⟩ := laid.exists_table keys inner
  rw [List.forall_mem_cons, List.forall_mem_singleton] at comes
  -- The table of the source is not left out, as it has a kind at least.
  obtain ⟨-, nothing, -⟩ | ⟨form, own, sourceOut, ownPerm⟩ := comes.1
  · rw [nothing, List.nil_perm] at sourcePerm
    cases sourcePerm
  have ofMetrics : (out metrics = [] ∧ c.metricsItems = []) ∨
      ∃ form inner, out metrics = [("metrics".toList, .table form inner)] ∧
        inner.Perm (c.metricsItems.map MetricsItem.entry) := by
    rcases comes.2 with ⟨-, nothing, left⟩ | ⟨form, own, metricsOut, metricsOwn⟩
    · rw [nothing, List.nil_perm, List.map_eq_nil_iff] at metricsPerm
      exact .inl ⟨left, metricsPerm⟩
    · exact .inr ⟨form, own, metricsKey ▸ metricsOut, metricsOwn.trans metricsPerm⟩
  have names : ((c.singleItems.map SingleItem.entry ++
      ("source".toList, .table form own) :: out metrics).map (·.1)).Nodup := by
    have last : ((out metrics).map (·.1)).Sublist ["metrics".toList] := by
      rcases ofMetrics with ⟨left, -⟩ | ⟨form, own, metricsOut, -⟩
      · exact left ▸ List.nil_sublist _
      · exact metricsOut ▸ List.Sublist.refl _
    rw [List.map_append, List.map_cons]
    exact (nodup_names c).sublist ((List.Sublist.refl _).append (last.cons_cons _))
  refine ⟨entries, form, own, out metrics, table, nodup, ownPerm.trans sourcePerm, ofMetrics, ?_⟩
  refine (List.perm_ext_iff_of_nodup (.of_map _ nodup) (.of_map _ names)).2 fun entry => ?_
  have tables : (∃ t ∈ [source, metrics], entry ∈ out t) ↔
      entry ∈ ("source".toList, .table form own) :: out metrics := by
    simp [sourceOut, sourceKey]
  rw [mem, tables, List.mem_append]

variable {form : Form} {source metrics : Entries}

/-- The settings that are chosen are read from the entries of a choice with a place. -/
theorem Choice.Splits.ofEntries_eq_ok (split : c.Splits entries form source metrics) {place : Place}
    (chosen : c.place? = some place) : ofEntries entries = .ok (c.settings place) := by
  have read : readSource (.table form source) = .ok (place, c.encoding.getD .base64) := by
    rw [readSource_eq c split.ofSource, (placeOf_eq c).1 place chosen]
    rfl
  -- Leaving out the metrics has the same effect as choosing nothing of them.
  obtain ⟨last, written, effect⟩ : ∃ last : List TopItem, metrics = last.map TopItem.entry ∧
      ∀ d : Draft, d.metrics = .standard →
        last.foldl (fun d x => x.apply d) d = { d with metrics := c.metrics } := by
    rcases split.ofMetrics with ⟨rfl, nothing⟩ | ⟨form, inner, rfl, innerPerm⟩
    · have standard : c.metrics = .standard := by
        have empty : metricsSchema.fill .standard (.table .inline []) = .ok c.metrics :=
          fill_metrics c (by rw [nothing]; exact .nil)
        exact (Except.ok.inj empty).symm
      exact ⟨[], rfl, fun d same => by rw [standard, ← same]; rfl⟩
    · exact ⟨[.metrics _ _ (fill_metrics c innerPerm)], rfl, fun d _ => rfl⟩
  have items : entries.Perm ((c.singleItems.map TopItem.single ++
      .source (.table form source) place _ read :: last).map TopItem.entry) := by
    rw [List.map_append, List.map_map, List.map_cons, ← written]
    exact split.whole
  have names : ((c.singleItems.map TopItem.single ++
      .source (.table form source) place _ read :: last).map fun x => x.entry.1).Nodup := by
    have same := (items.map (·.1)).nodup_iff.1 split.nodup
    rwa [List.map_map] at same
  have filled : schema.fillEntries .empty entries = _ := topEffects.fillEntries_perm names items
  rw [ofEntries, filled, List.foldl_append, foldl_singleItems, List.foldl_cons, effect _ rfl]
  rfl

/-- No settings are read from the entries of a choice without a place. -/
theorem Choice.Splits.ofEntries_eq_error (split : c.Splits entries form source metrics)
    (chosen : c.place? = none) : ∃ why, ofEntries entries = .error why := by
  obtain ⟨why, wrong⟩ := (placeOf_eq c).2 chosen
  have never : readSource (.table form source) = .error why := by
    rw [readSource_eq c split.ofSource, wrong]
    rfl
  have found : ("source".toList, Value.table form source) ∈ entries :=
    split.whole.mem_iff.2 (List.mem_append_right _ List.mem_cons_self)
  obtain ⟨fault, failed⟩ : ∃ fault, schema.fillEntries .empty entries = .error fault :=
    Schema.fillEntries_error_of_mem found fun draft =>
      ⟨why, congrArg (Except.map fun read => ({ draft with source := some read } : Draft)) never⟩
  exact ⟨fault, by rw [ofEntries, failed]; rfl⟩

end Whole

section Check

open Grammar

/-- A web address starts as one. -/
theorem isWebUrl_iff {url : List Char} :
    isWebUrl url = true ↔ "http://".toList <+: url ∨ "https://".toList <+: url := by
  rw [isWebUrl, Bool.or_eq_true, List.isPrefixOf_iff_prefix, List.isPrefixOf_iff_prefix]

variable (c : Choice) {s : List Char}

/-- What is found wrong with the settings is what is wrong with the choice. -/
theorem fault?_settings (place : Place) : (c.settings place).fault? = c.fault? place := by
  have refresh : (c.settings place).refreshSeconds = some 0 ↔ c.refreshSeconds = some 0 := by
    rw [Choice.settings, Option.map_eq_some_iff]
    constructor
    · rintro ⟨n, same, zero⟩
      rw [same, Fin.val_eq_zero_iff.1 zero]
    · exact fun same => ⟨0, same, rfl⟩
  have timeout : (c.settings place).timeoutSeconds = 0 ↔ c.timeoutSeconds = some 0 := by
    rw [Choice.settings]
    cases c.timeoutSeconds with
    | none => simp
    | some n => exact Fin.val_eq_zero_iff.trans Option.some_inj.symm
  have rules : ((c.settings place).rules.any fun rule => (Text.trim rule).isEmpty) = true ↔
      ∃ rule ∈ c.rules.getD [], Text.trim rule = [] := by
    rw [Choice.settings, List.any_eq_true]
    simp only [List.isEmpty_iff]
  simp only [Settings.fault?, Choice.fault?, refresh, timeout, rules]
  cases place with
  | file path => simp only [Choice.settings, placeFault?, List.isEmpty_iff]
  | remote url => simp only [Choice.settings, placeFault?, List.isEmpty_iff, isWebUrl_iff]

/-- Whatever a user chooses and however it is written: the settings that are chosen are read, with the usual
values for what is left out; unless the source has no place, or something is wrong with the
choice, the first thing of several. The copies of downloads are kept in the directory that is chosen, or
else in the usual one. -/
theorem ofText_of_isWritten (written : c.IsWritten s) :
    (c.place? = none → ∃ why, ofText s = .error (.mismatch why)) ∧
      ∀ place, c.place? = some place →
        (∀ fault, c.fault? place = some fault → ofText s = .error (.invalid fault)) ∧
        (c.fault? place = none → ofText s = .ok (c.settings place)) ∧
        ∀ named home, (c.settings place).source (usualCache named home) =
          match place with
          | .file path => .file path
          | .remote url => .remote url (c.cache.getD (usualCache named home)) := by
  obtain ⟨d, writes, held⟩ := written
  obtain ⟨entries, form, source, metrics, table, split⟩ := held.exists_table
  have read : Toml.read s = some entries := by rw [Toml.read, writes.read]; exact table
  refine ⟨fun nowhere => ?_, fun place chosen => ⟨fun fault wrong => ?_, fun fine => ?_, fun named home => ?_⟩⟩
  · obtain ⟨why, failed⟩ := split.ofEntries_eq_error nowhere
    exact ⟨why, by simp only [ofText, read, failed]⟩
  · simp only [ofText, read, split.ofEntries_eq_ok chosen, check, fault?_settings, wrong]
    rfl
  · simp only [ofText, read, split.ofEntries_eq_ok chosen, check, fault?_settings, fine]
    rfl
  · cases place <;> rfl

/-- A list in a file that is said under a header, and metrics that are said with a dotted key. -/
theorem ofText_file_with_metrics :
    (⟨.file, some "a".toList, none, none, none, none, none, none, some true, none⟩ : Choice).IsWritten
        "metrics.enabled = true\n[source]\npath = \"a\"\ntype = 'file'".toList ∧
      ofText "metrics.enabled = true\n[source]\npath = \"a\"\ntype = 'file'".toList =
        .ok ⟨.file "a".toList, .base64, [], none, 30, none, ⟨true, .four 0x7f000001 9090⟩⟩ := by
  have blank (s : List Char) : Gaps (' ' :: s) s := ⟨[' '], rfl, Text.forall_mem_of_all (by decide)⟩
  have key (k rest : List Char) (named : k ≠ []) (bare : k.all isKeyChar = true) :
      Part (k ++ rest) k rest := .bare named ⟨rfl, List.all_eq_true.1 bare⟩
  have enabled (rest : List Char) :
      Line ("metrics".toList ++ '.' :: ("enabled".toList ++ ' ' :: '=' :: ' ' :: ("true".toList ++ rest)))
        (some (.assignment ⟨["metrics".toList, "enabled".toList], .boolean true⟩)) rest :=
    .assignment (.refl _)
      (.intro
        (.more (key "metrics".toList _ (by decide) (by decide)) (.refl _) (.refl _)
          (.last (key "enabled".toList _ (by decide) (by decide))))
        (by decide) (blank _) (blank _) (Layer.simple (.yes rest)))
      (.plain (.refl _))
  have header (rest : List Char) :
      Line ('[' :: ("source".toList ++ ']' :: rest)) (some (.header ["source".toList])) rest :=
    .header (.refl _)
      (.intro (.refl _) (.last (key "source".toList _ (by decide) (by decide))) (by decide) (.refl _))
      (.plain (.refl _))
  have path (rest : List Char) :
      Line ("path".toList ++ ' ' :: '=' :: ' ' :: '"' :: 'a' :: '"' :: rest)
        (some (.assignment (single ("path".toList, .text "a".toList)))) rest :=
    .assignment (.refl _)
      (.intro (.last (key "path".toList _ (by decide) (by decide))) (by decide) (blank _) (blank _)
        (Layer.simple (.text (.basic (.plain (by decide) (by decide) (by decide) (.close rest))))))
      (.plain (.refl _))
  have type (rest : List Char) :
      Line ("type".toList ++ ' ' :: '=' :: ' ' :: '\'' :: ("file".toList ++ '\'' :: rest))
        (some (.assignment (single ("type".toList, .text "file".toList)))) rest :=
    .assignment (.refl _)
      (.intro (.last (key "type".toList _ (by decide) (by decide))) (by decide) (blank _) (blank _)
        (Layer.simple (.text (.literal ⟨rfl, Text.forall_mem_of_all (by decide)⟩))))
      (.plain (.refl _))
  have lines := Written.more (enabled _) (.feed _) (.more (header _) (.feed _)
    (.more (path _) (.feed _) (.last (type []))))
  have written :
      (⟨.file, some "a".toList, none, none, none, none, none, none, some true, none⟩ : Choice).IsWritten
        "metrics.enabled = true\n[source]\npath = \"a\"\ntype = 'file'".toList :=
    ⟨_, .plain lines,
      ⟨"source".toList, [("path".toList, .text "a".toList), ("type".toList, .text "file".toList)], .header⟩,
      ⟨"metrics".toList, [("enabled".toList, .boolean true)], .dotted⟩,
      rfl, .swap _ _ _, rfl, .refl _, .refl _, .refl _⟩
  exact ⟨written, ((ofText_of_isWritten _ written).2 (.file "a".toList) rfl).2.1 (by decide)⟩

end Check

end Detour.Settings
