import Detour.Proofs.Feed
import Detour.Proofs.RuleSet
/-!
# The entry that decides

Of the entries of a rule set the one that decides about a target is the last one kept under its host, or
else the last one kept under its root domain, or else the first one kept in order that matches. Main
statements: the rule of such an entry tells what is decided, and any other entry can be left out.
-/

namespace Detour

namespace Rule

/-- Whether no entry is kept under a domain. -/
def NoneUnder (key : List Char) (entries : List Entry) : Prop :=
  ∀ e ∈ entries, e.place ≠ .indexed key

/-- Whether an entry is kept under a domain, and none of those behind it is. -/
structure IsLastUnder (key : List Char) (e : Entry) (back : List Entry) : Prop where
  /-- It is kept under the domain. -/
  place : e.place = .indexed key
  /-- No later entry replaces it. -/
  last : NoneUnder key back

/-- Whether an entry is kept in order and matches a target, and none of those in front of it does. -/
structure IsFirstFor (t : Target) (front : List Entry) (e : Entry) : Prop where
  /-- It is kept in order. -/
  place : e.place = .ordered
  /-- It matches the target. -/
  hits : e.rule.fits t = true
  /-- No earlier entry that is kept in order does. -/
  first : ∀ earlier ∈ front, earlier.place = .ordered → earlier.rule.fits t = false

/-- Whether an entry decides about a target, given the entries in front of it and behind it. -/
inductive Decides (front : List Entry) (e : Entry) (back : List Entry) (t : Target) : Prop where
  /-- It is the last one for the host. -/
  | host (last : IsLastUnder t.host e back)
  /-- There is none for the host, and it is the last one for the root domain. -/
  | root (noHost : NoneUnder t.host (front ++ e :: back))
    (last : IsLastUnder (rootDomain t.host) e back)
  /-- There is none for either, and it is the first one kept in order that matches. -/
  | order (noHost : NoneUnder t.host (front ++ e :: back))
    (noRoot : NoneUnder (rootDomain t.host) (front ++ e :: back)) (first : IsFirstFor t front e)

variable {key : List Char} {front back : List Entry} {e : Entry} {t : Target}

instance (key : List Char) (entries : List Entry) : Decidable (NoneUnder key entries) :=
  inferInstanceAs (Decidable (∀ e ∈ entries, e.place ≠ .indexed key))

instance (key : List Char) (e : Entry) (back : List Entry) : Decidable (IsLastUnder key e back) :=
  decidable_of_iff (e.place = .indexed key ∧ NoneUnder key back)
    ⟨fun h => ⟨h.1, h.2⟩, fun h => ⟨h.place, h.last⟩⟩

/-- Nothing is found under a domain exactly if no entry is kept there. -/
theorem lastUnder_eq_none_iff (key : List Char) (entries : List Entry) :
    lastUnder key entries = none ↔ NoneUnder key entries := by
  simp [lastUnder, NoneUnder]

/-- Among entries around one, the later ones come first, and then this one. -/
theorem lastUnder_middle (key : List Char) (front : List Entry) (e : Entry) (back : List Entry) :
    lastUnder key (front ++ e :: back) =
      ((lastUnder key back).or (lastUnder key [e])).or (lastUnder key front) := by
  have split : lastUnder key (e :: back) = (lastUnder key back).or (lastUnder key [e]) :=
    lastUnder_append key [e] back
  rw [lastUnder_append, split]

/-- The last entry for a domain is the one that is found. -/
theorem lastUnder_of_isLastUnder (last : IsLastUnder key e back) (front : List Entry) :
    lastUnder key (front ++ e :: back) = some e.rule := by
  have behind := (lastUnder_eq_none_iff key back).2 last.last
  have own : lastUnder key [e] = some e.rule := by simp [lastUnder, last.place]
  rw [lastUnder_middle, behind, own]
  rfl

/-- An entry that is not the last one for a domain may be left out of the search for it. -/
theorem lastUnder_of_not_isLastUnder (other : ¬IsLastUnder key e back) (front : List Entry) :
    lastUnder key (front ++ e :: back) = lastUnder key (front ++ back) := by
  rw [lastUnder_middle, lastUnder_append]
  cases behind : lastUnder key back with
  | some r => rfl
  | none =>
    have elsewhere : e.place ≠ .indexed key := fun place =>
      other ⟨place, (lastUnder_eq_none_iff key back).1 behind⟩
    have own : lastUnder key [e] = none :=
      (lastUnder_eq_none_iff key [e]).2 (List.forall_mem_singleton.2 elsewhere)
    rw [own]
    rfl

end Rule

namespace RuleSet

open Rule (Entry Decides NoneUnder IsLastUnder IsFirstFor lastUnder inOrder)

variable {key : List Char} {front back : List Entry} {e : Entry} {t : Target}

/-- The rule set that is built from entries, one after another. -/
def ofEntries (entries : List Entry) : RuleSet := (entries.foldl Feed.put Feed.empty).ruleSet

/-- What entries leave under domains. -/
theorem index_ofEntries (entries : List Entry) :
    (ofEntries entries).index = entries.foldl Feed.addTo {} :=
  (List.foldl_hom Feed.index fun f e => (Feed.index_put f e).symm).symm

/-- What entries leave in order. -/
theorem ordered_ofEntries (entries : List Entry) : (ofEntries entries).ordered = inOrder entries := by
  suffices all : ∀ f : Feed, (entries.foldl Feed.put f).reversed =
      (inOrder entries).reverse ++ f.reversed by
    rw [ofEntries, Feed.ruleSet, all, List.reverse_append, List.reverse_reverse]
    rfl
  induction entries with
  | nil => exact fun f => rfl
  | cons e rest ih =>
    intro f
    have split : inOrder (e :: rest) = inOrder [e] ++ inOrder rest := Rule.inOrder_append [e] rest
    rw [List.foldl_cons, ih, Feed.reversed_put, split, List.reverse_append, List.append_assoc]

/-- A list is known by the entries of its lines. -/
theorem ofText_eq_ofEntries (list : List Char) :
    ofText list = ofEntries (Rule.entries (Text.lines list)) := by
  have index : (ofText list).index = (ofEntries (Rule.entries (Text.lines list))).index := by
    rw [index_ofEntries]
    exact Feed.index_lines Feed.empty (Text.lines list)
  have ordered := (ordered_ofText list).trans (ordered_ofEntries _).symm
  calc ofText list = ⟨(ofText list).index, (ofText list).ordered⟩ := rfl
    _ = ofEntries (Rule.entries (Text.lines list)) := by rw [index, ordered]

/-- Under a domain the rule of the last entry for it is found. -/
theorem lookup_ofEntries (entries : List Entry) (key : List Char) :
    (ofEntries entries).lookup key = lastUnder key entries := by
  rw [lookup, index_ofEntries, Feed.getElem?_foldl_addTo]
  simp

/-- What is decided about a target, read off the entries. -/
theorem blocks_ofEntries (entries : List Entry) (t : Target) :
    (ofEntries entries).blocks t =
      ((lastUnder t.host entries).or (lastUnder (rootDomain t.host) entries)).elim
        (orderedVerdict (inOrder entries) t) (·.blocks t) := by
  have rule : (ofEntries entries).hostRule t.host =
      (lastUnder t.host entries).or (lastUnder (rootDomain t.host) entries) := by
    rw [hostRule, lookup_ofEntries, lookup_ofEntries]
    cases lastUnder t.host entries <;> rfl
  rw [blocks, rule, ordered_ofEntries]
  cases (lastUnder t.host entries).or (lastUnder (rootDomain t.host) entries) <;> rfl

/-- Entries in order stay apart. -/
theorem inOrder_middle (front : List Entry) (e : Entry) (back : List Entry) :
    inOrder (front ++ e :: back) = inOrder front ++ (inOrder [e] ++ inOrder back) := by
  rw [Rule.inOrder_append, ← Rule.inOrder_append [e], List.singleton_append]

/-- The first entry in order that matches tells what the order decides. -/
theorem orderedVerdict_of_isFirstFor (first : IsFirstFor t front e) (back : List Entry) :
    orderedVerdict (inOrder (front ++ e :: back)) t = !e.rule.isException := by
  have own : inOrder [e] = [e.rule] := by simp [inOrder, first.place]
  have misses : ∀ earlier ∈ inOrder front, earlier.fits t = false := fun earlier found =>
    first.first _ (Rule.mem_of_mem_inOrder found) rfl
  rw [inOrder_middle, own, List.singleton_append]
  exact orderedVerdict_of_first misses first.hits _

/-- Any other entry can be left out of the order. -/
theorem orderedVerdict_of_not_isFirstFor (other : ¬IsFirstFor t front e) (back : List Entry) :
    orderedVerdict (inOrder (front ++ e :: back)) t = orderedVerdict (inOrder (front ++ back)) t := by
  rw [inOrder_middle, Rule.inOrder_append front]
  cases place : e.place with
  | indexed key =>
    have own : inOrder [e] = [] := by simp [inOrder, place]
    rw [own, List.nil_append]
  | ordered =>
    have own : inOrder [e] = [e.rule] := by simp [inOrder, place]
    rw [own, List.singleton_append]
    refine orderedVerdict_of_not_first (fun hits => ?_) _
    by_cases earlier : ∃ r ∈ inOrder front, r.fits t = true
    · exact earlier
    · refine absurd ⟨place, hits, fun before found ordered => ?_⟩ other
      have kept : before.rule ∈ inOrder front :=
        List.mem_map_of_mem (List.mem_filter.2 ⟨found, decide_eq_true ordered⟩)
      rw [← Bool.not_eq_true]
      exact fun fits => earlier ⟨_, kept, fits⟩

/-- The rule of the entry that decides tells what is decided. -/
theorem blocks_of_decides (decides : Decides front e back t) :
    (ofEntries (front ++ e :: back)).blocks t = e.rule.blocks t := by
  rw [blocks_ofEntries]
  cases decides with
  | host last => rw [Rule.lastUnder_of_isLastUnder last, Option.some_or, Option.elim_some]
  | root noHost last =>
    rw [(Rule.lastUnder_eq_none_iff _ _).2 noHost, Rule.lastUnder_of_isLastUnder last, Option.none_or,
      Option.elim_some]
  | order noHost noRoot first =>
    rw [(Rule.lastUnder_eq_none_iff _ _).2 noHost, (Rule.lastUnder_eq_none_iff _ _).2 noRoot,
      Option.none_or, Option.elim_none, orderedVerdict_of_isFirstFor first, Rule.blocks, first.hits,
      Bool.true_bne]

/-- An entry that does not decide about a target can be left out. -/
theorem blocks_of_not_decides (other : ¬Decides front e back t) :
    (ofEntries (front ++ e :: back)).blocks t = (ofEntries (front ++ back)).blocks t := by
  have host := Rule.lastUnder_of_not_isLastUnder (fun last => other (.host last)) front
  rw [blocks_ofEntries, blocks_ofEntries, host]
  cases hostRule : lastUnder t.host (front ++ back) with
  | some r => rfl
  | none =>
    have noHost := (Rule.lastUnder_eq_none_iff _ _).1 (host.trans hostRule)
    have root := Rule.lastUnder_of_not_isLastUnder (fun last => other (.root noHost last)) front
    rw [root]
    cases rootRule : lastUnder (rootDomain t.host) (front ++ back) with
    | some r => rfl
    | none =>
      have noRoot := (Rule.lastUnder_eq_none_iff _ _).1 (root.trans rootRule)
      exact orderedVerdict_of_not_isFirstFor (fun first => other (.order noHost noRoot first)) back

end RuleSet

end Detour
