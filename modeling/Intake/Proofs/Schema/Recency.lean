import Intake.Proofs.Schema.Cache

/-!
# Which schemas a cache keeps

A cache keeps the schemas that were used last.  What that means can be said without the cache, from
what it has given out: strike every key that is used again later, and keep the end of what is left.
This module puts a cache beside a **ledger** of what it has given out since it was last cleared, and
shows that each of the ways in which asking can go keeps the two in step.

* `IsRecent` says which keys are the last that were used, and `IsRecent.again` and `IsRecent.fresh`
  what becomes of them when one of them, or another one, is used;
* `CacheLedger.InStep` is what every call keeps;
* `keeps_latest` says what follows for every history of calls.
-/

namespace Intake

/-! ## The last keys of some uses -/

section Recent

variable {α : Type} [DecidableEq α] {limit : Nat} {used kept : List α} {key : α}

/-- A use puts its key at the end, and strikes it where it stood before. -/
theorem dedup_concat (used : List α) (key : α) :
    (used ++ [key]).dedup = used.dedup.filter (· ≠ key) ++ [key] := by
  induction used with
  | nil => simp
  | cons first rest ih =>
    rw [List.cons_append]
    by_cases hagain : first ∈ rest
    · rw [List.dedup_cons_of_mem hagain,
        List.dedup_cons_of_mem (List.mem_append_left _ hagain), ih]
    · rw [List.dedup_cons_of_notMem hagain]
      by_cases hkey : first = key
      · subst hkey
        rw [List.dedup_cons_of_mem (by simp), ih, List.filter_cons_of_neg (by simp)]
      · rw [List.dedup_cons_of_notMem (by simp [hagain, hkey]), ih,
          List.filter_cons_of_pos (by simpa using hkey), List.cons_append]

/-- Keys are the **recent** ones of some uses if they are the last in the order of the last use of
each, as many as the limit allows: any others are older, and there are others only if the limit is
reached. -/
structure IsRecent (limit : Nat) (used kept : List α) : Prop where
  within : kept.length ≤ limit
  latest : ∃ older, used.dedup = older ++ kept ∧ (kept.length < limit → older = [])

theorem isRecent_nil (limit : Nat) : IsRecent limit ([] : List α) [] :=
  ⟨Nat.zero_le _, [], rfl, fun _ => rfl⟩

/-- So the recent keys are the end of all keys, in the order of their last use. -/
theorem IsRecent.eq_rtake (h : IsRecent limit used kept) : kept = used.dedup.rtake limit := by
  obtain ⟨older, hused, hall⟩ := h.latest
  rw [hused, List.rtake, List.length_append]
  rcases Nat.lt_or_ge kept.length limit with hroom | hfull
  · rw [hall hroom, List.nil_append, List.length_nil, Nat.zero_add,
      Nat.sub_eq_zero_of_le h.within, List.drop_zero]
  · rw [Nat.le_antisymm h.within hfull, Nat.add_sub_cancel, List.drop_left]

theorem IsRecent.nodup (h : IsRecent limit used kept) : kept.Nodup := by
  obtain ⟨older, hused, -⟩ := h.latest
  exact (hused ▸ List.nodup_dedup used).of_append_right

/-- **A recent key that is used again** goes to the end. -/
theorem IsRecent.again (h : IsRecent limit used kept) (hkey : key ∈ kept) :
    IsRecent limit (used ++ [key]) (kept.filter (· ≠ key) ++ [key]) := by
  obtain ⟨older, hused, hall⟩ := h.latest
  have hapart : key ∉ older := fun holder =>
    List.disjoint_of_nodup_append (hused ▸ List.nodup_dedup used) holder hkey
  -- the place that the key leaves is the place that it takes
  have hlength : (kept.filter (· ≠ key) ++ [key]).length = kept.length := by
    have herase : kept.erase key = kept.filter (· ≠ key) :=
      (h.nodup.erase_eq_filter key).trans (List.filter_congr fun other _ => by
        simp [bne, beq_eq_decide])
    have hpos : 0 < kept.length := List.length_pos_of_mem hkey
    rw [List.length_append, ← herase, List.length_erase_of_mem hkey, List.length_singleton]
    omega
  refine ⟨hlength ▸ h.within, older, ?_, hlength ▸ hall⟩
  rw [dedup_concat, hused, List.filter_append,
    List.filter_eq_self.mpr fun other hother => by
      simpa using fun heq : other = key => hapart (heq ▸ hother),
    List.append_assoc]

/-- **Another key that is used** comes in at the end, and the oldest recent one goes if the limit is
exceeded. -/
theorem IsRecent.fresh (h : IsRecent limit used kept) (hkey : key ∉ kept) :
    IsRecent limit (used ++ [key]) ((kept ++ [key]).drop ((kept ++ [key]).length - limit)) := by
  obtain ⟨older, hused, hall⟩ := h.latest
  have hstay : kept.filter (· ≠ key) = kept := List.filter_eq_self.mpr fun other hother => by
    simpa using fun heq : other = key => hkey (heq ▸ hother)
  have hdedup : (used ++ [key]).dedup = older.filter (· ≠ key) ++ (kept ++ [key]) := by
    rw [dedup_concat, hused, List.filter_append, hstay, List.append_assoc]
  have hlength : (kept ++ [key]).length = kept.length + 1 := List.length_append
  have hwithin := h.within
  constructor
  · rw [List.length_drop]
    omega
  · refine ⟨older.filter (· ≠ key) ++ (kept ++ [key]).take ((kept ++ [key]).length - limit),
      ?_, fun hroom => ?_⟩
    · rw [List.append_assoc, List.take_append_drop, hdedup]
    · rw [List.length_drop] at hroom
      have hless : kept.length < limit := by omega
      rw [hall hless, List.filter_nil, List.nil_append, hlength, Nat.sub_eq_zero_of_le hless,
        List.take_zero]

end Recent

/-! ## Entries -/

namespace SchemaCache

variable {c : SchemaCache} {fields : List Field} {e : CacheEntry}

theorem keys_moveToEnd (e : CacheEntry) (entries : List CacheEntry) :
    (moveToEnd e entries).map CacheEntry.key =
      (entries.map CacheEntry.key).filter (· ≠ e.key) ++ [e.key] := by
  rw [moveToEnd, List.map_append, List.filter_map]
  rfl

theorem keys_takeIn (limit : Nat) (e : CacheEntry) (entries : List CacheEntry) :
    (takeIn limit e entries).map CacheEntry.key =
      (entries.map CacheEntry.key ++ [e.key]).drop
        ((entries.map CacheEntry.key ++ [e.key]).length - limit) := by
  rw [takeIn, List.map_drop, List.map_append]
  simp

/-- While there is room an entry that is taken in puts none out. -/
theorem takeIn_of_length_lt {limit : Nat} {entries : List CacheEntry}
    (hroom : entries.length < limit) : takeIn limit e entries = entries ++ [e] := by
  have hlength : (entries ++ [e]).length - limit = 0 := by
    rw [List.length_append, List.length_singleton]
    omega
  rw [takeIn, hlength, List.drop_zero]

/-- Where there is no room left an entry that is taken in puts out the oldest one, and no other. -/
theorem takeIn_of_length_eq {limit : Nat} {oldest : CacheEntry} {rest : List CacheEntry}
    (hfull : (oldest :: rest).length = limit) : takeIn limit e (oldest :: rest) = rest ++ [e] := by
  have hlength : (oldest :: rest ++ [e]).length - limit = 1 := by
    rw [List.length_append, List.length_singleton, hfull]
    omega
  rw [takeIn, hlength]
  rfl

end SchemaCache

/-! ## The ledger -/

/-- A cache, and what has come of it since it was last cleared: the entries that it has given out
and those of them that it made then, both in order, and how often it was asked for fields that have
a fingerprint. -/
structure CacheLedger where
  cache : SchemaCache
  given : List CacheEntry
  made : List CacheEntry
  asked : Nat

namespace CacheLedger

/-- The ledger of a new cache. -/
def empty (limit : Nat) : CacheLedger := ⟨.empty limit, [], [], 0⟩

/-- The ledger after a call.  An entry that is given out was made then if the call is a miss. -/
def after (l : CacheLedger) : CacheCall → CacheLedger
  | .clear => ⟨l.cache.clear, [], [], 0⟩
  | .get fields =>
    let got := l.cache.get fields
    let given := got.1.toOption.toList
    { cache := got.2
      given := l.given ++ given
      made := l.made ++ if got.2.misses = l.cache.misses then [] else given
      asked := l.asked + if (fingerprint? fields).isOk then 1 else 0 }

/-- The ledger after all of some calls, in order. -/
def run (limit : Nat) (calls : List CacheCall) : CacheLedger := calls.foldl after (empty limit)

/-- The entry that was made last under a key. -/
def lastMade? (l : CacheLedger) (key : String) : Option CacheEntry :=
  l.made.reverse.find? fun e => e.key = key

/-- The keys of the entries that were given out. -/
def usedKeys (l : CacheLedger) : List String := l.given.map CacheEntry.key

/-- The cache of a ledger is the one that the calls leave. -/
theorem cache_run (limit : Nat) (calls : List CacheCall) :
    (run limit calls).cache = (SchemaCache.empty limit).run calls := by
  have hafter : ∀ (l : CacheLedger) call, (l.after call).cache = l.cache.after call := by
    intro l call
    cases call <;> rfl
  have hfold : ∀ (l : CacheLedger), (calls.foldl after l).cache = l.cache.run calls := by
    intro l
    induction calls generalizing l with
    | nil => rfl
    | cons call calls ih => rw [List.foldl_cons, ih, hafter]; rfl
  exact hfold (empty limit)

/-- What holds of a new cache and is kept by every call holds after every history. -/
theorem run_induction {P : CacheLedger → Prop} {limit : Nat} (hempty : P (empty limit))
    (hafter : ∀ l call, P l → P (l.after call)) (calls : List CacheCall) : P (run limit calls) :=
  List.foldlRecOn calls after hempty fun l hl call _ => hafter l call hl

/-- A cache is **in step** with its ledger: its keys are the recent ones of those given out, every
call is counted, and every entry is the one that was made last under its key. -/
structure InStep (limit : Nat) (l : CacheLedger) : Prop where
  limited : l.cache.limit = limit
  recent : IsRecent limit l.usedKeys l.cache.keys
  counted : l.cache.hits + l.cache.misses = l.asked
  kept : ∀ e ∈ l.cache.entries, l.lastMade? e.key = some e
  numbered : (l.made.map CacheEntry.number).Nodup
  earlier : ∀ e ∈ l.made, e.number < l.cache.made

theorem inStep_empty (limit : Nat) : (empty limit).InStep limit where
  limited := rfl
  recent := isRecent_nil _
  counted := rfl
  kept := nofun
  numbered := .nil
  earlier := nofun

variable {limit : Nat} {l : CacheLedger}

theorem InStep.cleared (h : l.InStep limit) : InStep limit ⟨l.cache.clear, [], [], 0⟩ where
  limited := h.limited
  recent := isRecent_nil _
  counted := rfl
  kept := nofun
  numbered := .nil
  earlier := nofun

/-- An entry that is found stands at the end from then on, and is still the last one made under its
key. -/
theorem InStep.found (h : l.InStep limit) {e : CacheEntry} (hmem : e ∈ l.cache.entries) :
    InStep limit
      ⟨{ l.cache with
        hits := l.cache.hits + 1
        entries := SchemaCache.moveToEnd e l.cache.entries },
      l.given ++ [e], l.made, l.asked + 1⟩ where
  limited := h.limited
  recent := by
    rw [usedKeys, List.map_append, SchemaCache.keys, SchemaCache.keys_moveToEnd]
    exact h.recent.again (List.mem_map_of_mem hmem)
  counted := by
    rw [← h.counted]
    exact Nat.add_right_comm _ _ _
  kept other hother := h.kept other (SchemaCache.mem_of_mem_moveToEnd hmem hother)
  numbered := h.numbered
  earlier := h.earlier

/-- A miss that makes nothing changes nothing but the counts. -/
theorem InStep.missed (h : l.InStep limit) :
    InStep limit
      ⟨{ l.cache with misses := l.cache.misses + 1 }, l.given, l.made, l.asked + 1⟩ where
  limited := h.limited
  recent := h.recent
  counted := by
    rw [← h.counted]
    exact (Nat.add_assoc _ _ _).symm
  kept := h.kept
  numbered := h.numbered
  earlier := h.earlier

/-- An entry that is made under a new key is the last one made under it, and has a number of its
own. -/
theorem InStep.taken (h : l.InStep limit) {e : CacheEntry} (hnone : e.key ∉ l.cache.keys)
    (hnumber : e.number = l.cache.made) :
    InStep limit
      ⟨{ l.cache with
        misses := l.cache.misses + 1
        made := l.cache.made + 1
        entries := SchemaCache.takeIn l.cache.limit e l.cache.entries },
      l.given ++ [e], l.made ++ [e], l.asked + 1⟩ where
  limited := h.limited
  recent := by
    rw [usedKeys, List.map_append, SchemaCache.keys, SchemaCache.keys_takeIn, h.limited]
    exact h.recent.fresh hnone
  counted := by
    rw [← h.counted]
    exact (Nat.add_assoc _ _ _).symm
  kept other hother := by
    rw [lastMade?, List.reverse_append, List.reverse_singleton, List.singleton_append]
    rcases SchemaCache.mem_of_mem_takeIn hother with hold | rfl
    · have hne : e.key ≠ other.key := fun heq => hnone (heq ▸ List.mem_map_of_mem hold)
      rw [List.find?_cons_of_neg (by simpa using hne)]
      exact h.kept other hold
    · exact List.find?_cons_of_pos (by simp)
  numbered := by
    rw [List.map_append, List.nodup_append]
    refine ⟨h.numbered, List.nodup_singleton _, fun number hold other hother => ?_⟩
    obtain ⟨earlier, hearlier, rfl⟩ := List.mem_map.mp hold
    obtain rfl : other = e.number := by simpa using hother
    exact (hnumber ▸ h.earlier earlier hearlier).ne
  earlier other hother := by
    rcases List.mem_append.mp hother with hold | hnew
    · exact Nat.lt_succ_of_lt (h.earlier other hold)
    · rw [List.mem_singleton.mp hnew, hnumber]
      exact Nat.lt_succ_self _

/-- **Every call keeps a cache in step with its ledger.** -/
theorem InStep.after (h : l.InStep limit) (call : CacheCall) : (l.after call).InStep limit := by
  cases call with
  | clear => exact h.cleared
  | get fields =>
    have hhandling := l.cache.handling_get fields
    unfold CacheLedger.after
    dsimp only
    generalize l.cache.get fields = got at hhandling ⊢
    cases hhandling with
    | unprinted hprint =>
      simpa [hprint, Except.toOption, Except.isOk, Except.toBool] using h
    | found hprint hmem =>
      simpa [hprint, Except.toOption, Except.isOk, Except.toBool] using h.found hmem
    | misfit hprint =>
      simpa [hprint, Except.toOption, Except.isOk, Except.toBool] using h.missed
    | @made s hprint hnone =>
      have htaken := h.taken (e := ⟨s.fingerprint, s, l.cache.made⟩) hnone rfl
      simpa [hprint, Except.toOption, Except.isOk, Except.toBool] using htaken

theorem inStep_run (limit : Nat) (calls : List CacheCall) : (run limit calls).InStep limit :=
  run_induction (inStep_empty limit) (fun _ call h => h.after call) calls

/-- A cache has no more entries than it may keep. -/
theorem InStep.length_le (h : l.InStep limit) : l.cache.entries.length ≤ limit := by
  rw [← List.length_map CacheEntry.key]
  exact h.recent.within

/-- **A key that is kept** gives out the entry that was made last under it, and makes it the one
used last. -/
theorem InStep.get_of_mem (h : l.InStep limit) {fields : List Field} {key : String}
    (hprint : fingerprint? fields = .ok key) (hkey : key ∈ l.cache.keys) :
    ∃ e, l.lastMade? key = some e ∧
      l.cache.get fields = (.ok e, { l.cache with
        hits := l.cache.hits + 1
        entries := SchemaCache.moveToEnd e l.cache.entries }) := by
  have hhandling := l.cache.handling_get fields
  generalize l.cache.get fields = got at hhandling ⊢
  cases hhandling with
  | unprinted hprint' => cases hprint.symm.trans hprint'
  | @found e hprint' hmem =>
    cases hprint.symm.trans hprint'
    exact ⟨e, h.kept e hmem, rfl⟩
  | misfit hprint' hnone =>
    cases hprint.symm.trans hprint'
    exact absurd hkey hnone
  | made hprint' hnone =>
    cases hprint.symm.trans hprint'
    exact absurd hkey hnone

/-- **A key that is not kept** counts as a miss.  If no schema can be made, as the fields are a
misfit, the entries stay; otherwise a new one comes in at the end, and puts out the oldest one, and
no other, if there is no room left. -/
theorem InStep.get_of_not_mem (h : l.InStep limit) (hlimit : 1 ≤ limit) {fields : List Field}
    {key : String} (hprint : fingerprint? fields = .ok key) (hkey : key ∉ l.cache.keys) :
    let missed := { l.cache with misses := l.cache.misses + 1 }
    (∃ m, Schema.compile fields = .error (.misfit m) ∧
      l.cache.get fields = (.error (.misfit m), missed)) ∨
    ∃ e entries, e.key = key ∧ Schema.compile fields = .ok e.schema ∧ e.number = l.cache.made ∧
      l.cache.get fields = (.ok e, { missed with made := l.cache.made + 1, entries }) ∧
      ((l.cache.entries.length < limit ∧ entries = l.cache.entries ++ [e]) ∨
        ∃ oldest rest, l.cache.entries = oldest :: rest ∧ l.cache.entries.length = limit ∧
          entries = rest ++ [e]) := by
  intro missed
  have hhandling := l.cache.handling_get fields
  generalize l.cache.get fields = got at hhandling ⊢
  cases hhandling with
  | unprinted hprint' => cases hprint.symm.trans hprint'
  | found hprint' hmem =>
    cases hprint.symm.trans hprint'
    exact absurd (List.mem_map_of_mem hmem) hkey
  | misfit _ _ hcompile => exact .inl ⟨_, hcompile, rfl⟩
  | @made s hprint' _ hcompile =>
    cases hprint.symm.trans hprint'
    refine .inr ⟨⟨s.fingerprint, s, l.cache.made⟩, _, rfl, hcompile, rfl, rfl, ?_⟩
    rw [h.limited]
    rcases Nat.lt_or_eq_of_le h.length_le with hroom | hfull
    · exact .inl ⟨hroom, SchemaCache.takeIn_of_length_lt hroom⟩
    · cases hentries : l.cache.entries with
      | nil =>
        rw [hentries, List.length_nil] at hfull
        omega
      | cons oldest rest =>
        rw [hentries] at hfull
        exact .inr ⟨oldest, rest, rfl, hfull, SchemaCache.takeIn_of_length_eq hfull⟩

end CacheLedger

/-- An entry that is given out has the fingerprint of the fields for its key. -/
theorem SchemaCache.fingerprint?_of_get {c : SchemaCache} {fields : List Field} {e : CacheEntry}
    (h : (c.get fields).1 = .ok e) : fingerprint? fields = .ok e.key := by
  have hhandling := c.handling_get fields
  generalize c.get fields = got at h hhandling
  cases hhandling with
  | unprinted => cases h
  | found hprint =>
    cases h
    exact hprint
  | misfit => cases h
  | made hprint =>
    cases h
    exact hprint

/-- Fields that are a misfit count one miss, and change nothing else. -/
theorem SchemaCache.get_of_misfit {c : SchemaCache} {fields : List Field} {m : Misfit}
    (h : (c.get fields).1 = .error (.misfit m)) :
    (c.get fields).2 = { c with misses := c.misses + 1 } := by
  have hhandling := c.handling_get fields
  generalize c.get fields = got at h hhandling ⊢
  cases hhandling with
  | misfit => rfl
  | _ => cases h

/-- The entry under a key is found if it is the only one under it. -/
theorem SchemaCache.find?_eq_some {c : SchemaCache} {e : CacheEntry} (he : e ∈ c.entries)
    (honly : ∀ other ∈ c.entries, other.key = e.key → other = e) : c.find? e.key = some e := by
  cases hfind : c.find? e.key with
  | none => simpa using List.find?_eq_none.mp hfind e he
  | some other =>
    have hkey : other.key = e.key := by simpa using List.find?_some hfind
    rw [honly other (List.mem_of_find?_eq_some hfind) hkey]

/-- **Asking again gives out the same entry**, if the cache may keep any. -/
theorem SchemaCache.get_again {c after : SchemaCache} {fields : List Field} {e : CacheEntry}
    (hlimit : 1 ≤ c.limit) (h : c.get fields = (.ok e, after)) :
    (after.get fields).1 = .ok e := by
  have hprint : fingerprint? fields = .ok e.key := fingerprint?_of_get (congrArg Prod.fst h)
  have hfind : after.find? e.key = some e := by
    have hhandling := c.handling_get fields
    rw [h] at hhandling
    cases hhandling with
    | found _ hmem =>
      refine find?_eq_some (List.mem_append_right _ (List.mem_singleton_self e))
        fun other hother hkey => ?_
      rcases List.mem_append.mp hother with hkept | hlast
      · exact absurd hkey (by simpa using (List.mem_filter.mp hkept).2)
      · exact List.mem_singleton.mp hlast
    | @made s _ hnone =>
      refine find?_eq_some ?_ fun other hother hkey => ?_
      · -- the entry comes in at the end, and at most all entries before it go
        show _ ∈ (c.entries ++ [_]).drop _
        rw [List.drop_append_of_le_length
          (by rw [List.length_append, List.length_singleton]; omega)]
        exact List.mem_append_right _ (List.mem_singleton_self _)
      · rcases mem_of_mem_takeIn hother with hold | rfl
        · have hmem : other.key ∈ c.keys := List.mem_map_of_mem hold
          rw [hkey] at hmem
          exact absurd hmem hnone
        · rfl
  rw [get, hprint]
  dsimp only
  rw [hfind]

/-- **A cache keeps what was used last**, whatever was done with it:

* its keys, the oldest first, are the last distinct fingerprints that were given out since it was
  cleared, as many as it may keep, in the order of the last use of each;
* every time that it was asked for fields with a fingerprint since then is a hit or a miss;
* if the fingerprint is kept, asking for the fields is a hit, and gives out the entry that was made
  last under it, which has a number that no other entry has; the entry is the one used last then;
* otherwise it is a miss; fields that are a misfit leave the entries as they are, and for others an
  entry comes in at the end, for which the one not used for the longest time goes if there is no
  room left, and no other;
* fields without a fingerprint change nothing. -/
theorem keeps_latest {limit : Nat} (hlimit : 1 ≤ limit) (calls : List CacheCall) :
    let l := CacheLedger.run limit calls
    l.cache = (SchemaCache.empty limit).run calls ∧
    l.cache.keys = l.usedKeys.dedup.rtake limit ∧
    l.cache.hits + l.cache.misses = l.asked ∧
    (l.made.map CacheEntry.number).Nodup ∧
    (∀ fields e, (l.cache.get fields).1 = .ok e → fingerprint? fields = .ok e.key) ∧
    (∀ fields key, fingerprint? fields = .ok key → key ∈ l.cache.keys →
      ∃ e, l.lastMade? key = some e ∧
        l.cache.get fields = (.ok e, { l.cache with
          hits := l.cache.hits + 1
          entries := SchemaCache.moveToEnd e l.cache.entries })) ∧
    (∀ fields key, fingerprint? fields = .ok key → key ∉ l.cache.keys →
      let missed := { l.cache with misses := l.cache.misses + 1 }
      (∃ m, Schema.compile fields = .error (.misfit m) ∧
        l.cache.get fields = (.error (.misfit m), missed)) ∨
      ∃ e entries, e.key = key ∧ Schema.compile fields = .ok e.schema ∧ e.number = l.cache.made ∧
        l.cache.get fields = (.ok e, { missed with made := l.cache.made + 1, entries }) ∧
        ((l.cache.entries.length < limit ∧ entries = l.cache.entries ++ [e]) ∨
          ∃ oldest rest, l.cache.entries = oldest :: rest ∧ l.cache.entries.length = limit ∧
            entries = rest ++ [e])) ∧
    (∀ fields m, (l.cache.get fields).1 = .error (.misfit m) →
      (l.cache.get fields).2 = { l.cache with misses := l.cache.misses + 1 }) ∧
    (∀ fields f, fingerprint? fields = .error f →
      l.cache.get fields = (.error (.fault f), l.cache)) := by
  intro l
  have hstep : l.InStep limit := CacheLedger.inStep_run limit calls
  refine ⟨CacheLedger.cache_run limit calls, hstep.recent.eq_rtake, hstep.counted,
    hstep.numbered, fun fields e => SchemaCache.fingerprint?_of_get,
    fun fields key => hstep.get_of_mem, fun fields key => hstep.get_of_not_mem hlimit,
    fun fields m => SchemaCache.get_of_misfit, fun fields f hprint => ?_⟩
  rw [SchemaCache.get, hprint]

/-- A form with one field. -/
def noteForm : List Field := [{ name := "note", type := .text }]

/-- A cache for one schema that was asked for a form, for the form with its field twice, and for the
form again: the second list is a misfit, and does not put the form out. -/
theorem keeps_noteForm :
    let l := CacheLedger.run 1 [.get noteForm, .get (noteForm ++ noteForm), .get noteForm]
    1 ≤ 1 ∧ l.cache.hits + l.cache.misses = 3 ∧ ∃ e, Schema.compile noteForm = .ok e.schema ∧
      l.cache.keys = [e.key] ∧ (l.cache.get noteForm).1 = .ok e := by
  intro l
  obtain ⟨t, ht⟩ : ∃ t, payload? noteForm = .ok t := ⟨_, rfl⟩
  obtain ⟨t', ht'⟩ : ∃ t, payload? (noteForm ++ noteForm) = .ok t := ⟨_, rfl⟩
  have hprint : fingerprint? noteForm = .ok (Text.digest t) := by rw [fingerprint?_eq, ht]; rfl
  have hprint' : fingerprint? (noteForm ++ noteForm) = .ok (Text.digest t') := by
    rw [fingerprint?_eq, ht']
    rfl
  have hs := Schema.compile_eq_ok (by decide : (fieldNames noteForm).Nodup) ht
  have hmisfit : Schema.compile (noteForm ++ noteForm) =
      .error (.misfit (.repeatedNames ["note"])) := rfl
  generalize Text.digest t = key at hprint hs
  generalize Text.digest t' = key' at hprint'
  have hledger : l.asked = 3 ∧ l.made = [⟨key, ⟨noteForm.map Field.check, key⟩, 0⟩] ∧
      l.usedKeys.dedup = [key] := by
    by_cases hsame : key' = key
    · subst hsame
      simp [l, CacheLedger.run, CacheLedger.after, CacheLedger.empty, SchemaCache.get,
        SchemaCache.empty, SchemaCache.find?, SchemaCache.takeIn, SchemaCache.moveToEnd, hprint,
        hprint', hs, Except.toOption, Except.isOk, Except.toBool, CacheLedger.usedKeys]
    · simp [l, CacheLedger.run, CacheLedger.after, CacheLedger.empty, SchemaCache.get,
        SchemaCache.empty, SchemaCache.find?, SchemaCache.takeIn, SchemaCache.moveToEnd, hprint,
        hprint', hs, hmisfit, Ne.symm hsame, Except.toOption, Except.isOk, Except.toBool,
        CacheLedger.usedKeys]
  obtain ⟨hasked, hmade, hused⟩ := hledger
  obtain ⟨-, hkeys, hcounts, -, -, hkept, -⟩ := keeps_latest (Nat.le_refl 1)
    [.get noteForm, .get (noteForm ++ noteForm), .get noteForm]
  have hkeys : l.cache.keys = [key] := by rw [hkeys, hused]; rfl
  obtain ⟨e, he, hget⟩ := hkept noteForm key hprint (by rw [hkeys]; exact .head _)
  rw [CacheLedger.lastMade?, hmade] at he
  obtain rfl := Option.some.inj ((List.find?_cons_of_pos (by simp)).symm.trans he)
  exact ⟨le_rfl, hcounts.trans hasked, _, hs, hkeys, by rw [hget]⟩

end Intake
