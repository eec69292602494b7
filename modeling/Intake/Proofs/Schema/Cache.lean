import Intake.Proofs.Answers
import Intake.Proofs.Form.Record
import Intake.Schema.Cache
import Mathlib

/-!
# When a cache of schemas cannot be noticed

A cache gives out the schema that it keeps under the digest of what is asked for.  That schema was
made of fields of the same digest, so of the same text, if no two texts that matter have one
digest; but it need not have been made of the same fields, and whether it checks all answers like a
schema made afresh depends on the terms of the fields.

A **language** is a set of terms that fields may have.  The cache is **transparent** for a language
if, whatever was done with it for fields in the language, it gives out schemas that check like fresh
ones; the language **separates** if terms of it that are written alike hold alike.

* `IsMadeFrom.run` says what every entry of a cache is, whatever was done with the cache;
* `transparent_iff_separates` says for which languages the cache is transparent;
* `transparent_of_isData` says that it is for those of data and of functions that can be told
  apart;
* `tuple_taken_for_list` shows a form that is checked like another one.
-/

namespace Intake

open Value (WrittenAlike)

/-- The text that fields are compared by, before it is digested. -/
def payload? (fields : List Field) : Except Fault String :=
  (Value.list (fields.map Field.toValue)).canonical?

/-- What is compared is the digest of the text. -/
theorem fingerprint?_eq (fields : List Field) :
    fingerprint? fields = (payload? fields).map Text.digest := rfl

/-- Fields that each have a text have one together. -/
theorem exists_payload? {fields : List Field}
    (h : ∀ d ∈ fields, ∃ t, d.toValue.canonical? = .ok t) : ∃ t, payload? fields = .ok t := by
  obtain ⟨parts, hparts⟩ := exists_mapM (List.forall_mem_map.mpr h)
  refine ⟨"[" ++ ", ".intercalate parts ++ "]", ?_⟩
  rw [payload?, Value.canonical?, Value.canonicalAll?_eq_mapM, hparts]
  rfl

/-- Fields of distinct names that have a text have a schema. -/
theorem Schema.compile_eq_ok {fields : List Field} {t : String}
    (hdistinct : (fieldNames fields).Nodup) (ht : payload? fields = .ok t) :
    Schema.compile fields = .ok ⟨fields.map Field.check, Text.digest t⟩ := by
  unfold Schema.compile requireDistinct
  rw [(repeatedNames_eq_nil_iff _).mpr hdistinct, fingerprint?_eq, ht]
  rfl

/-- The schema of some fields checks each of them, and its fingerprint is the digest of their
text. -/
theorem Schema.of_compile {fields : List Field} {s : Schema} (h : Schema.compile fields = .ok s) :
    ∃ t, payload? fields = .ok t ∧ s = ⟨fields.map Field.check, Text.digest t⟩ := by
  obtain ⟨_, -, h⟩ := exists_of_bind_eq_ok h
  rw [fingerprint?_eq] at h
  cases hpayload : payload? fields with
  | error f =>
    rw [hpayload] at h
    cases h
  | ok t =>
    rw [hpayload] at h
    cases h
    exact ⟨t, rfl, rfl⟩

/-- Fields without a fingerprint have no schema. -/
theorem Schema.exists_error_of_fingerprint? {fields : List Field} {f : Fault}
    (h : fingerprint? fields = .error f) : ∃ e, Schema.compile fields = .error e := by
  cases hcompile : Schema.compile fields with
  | error e => exact ⟨e, rfl⟩
  | ok s =>
    obtain ⟨t, ht, -⟩ := Schema.of_compile hcompile
    rw [fingerprint?_eq, ht] at h
    cases h

/-- Where there is a fingerprint, only a misfit among the fields leaves them without a schema. -/
theorem Schema.exists_misfit_of_compile {fields : List Field} {key : String} {e : SchemaError}
    (hprint : fingerprint? fields = .ok key) (h : Schema.compile fields = .error e) :
    ∃ m, e = .misfit m := by
  unfold Schema.compile at h
  cases hdistinct : requireDistinct fields with
  | error m =>
    rw [hdistinct] at h
    cases h
    exact ⟨m, rfl⟩
  | ok _ =>
    rw [hdistinct, hprint] at h
    cases h

/-- The names of a schema are those of its fields. -/
theorem Schema.names_of_compile {fields : List Field} {s : Schema}
    (hs : Schema.compile fields = .ok s) :
    s.names = fieldNames fields ∧ ∀ c, c ∈ s.checks ↔ ∃ d ∈ fields, d.check = c := by
  obtain ⟨t, -, rfl⟩ := Schema.of_compile hs
  refine ⟨?_, fun c => List.mem_map⟩
  simp [Schema.names, fieldNames, Field.check]

/-- Only fields of distinct names have a schema. -/
theorem Schema.nodup_of_compile {fields : List Field} {s : Schema}
    (hs : Schema.compile fields = .ok s) :
    (fieldNames fields).Nodup := by
  obtain ⟨_, hdistinct, -⟩ := exists_of_bind_eq_ok hs
  unfold requireDistinct at hdistinct
  cases hrepeated : repeatedNames (fieldNames fields) with
  | nil => exact (repeatedNames_eq_nil_iff _).mp hrepeated
  | cons name names =>
    rw [hrepeated] at hdistinct
    cases hdistinct

/-- So the checks of a schema have distinct names. -/
theorem Schema.nodup_names_of_compile {fields : List Field} {s : Schema}
    (hs : Schema.compile fields = .ok s) : s.names.Nodup := by
  rw [(Schema.names_of_compile hs).1]
  exact Schema.nodup_of_compile hs

/-- Something that is done with a cache. -/
inductive CacheCall where
  | get (fields : List Field)
  | clear

namespace SchemaCache

/-- The cache after something was done with it. -/
def after (c : SchemaCache) : CacheCall → SchemaCache
  | .get fields => (c.get fields).2
  | .clear => c.clear

/-- The cache after all of some calls, in order. -/
def run (c : SchemaCache) (calls : List CacheCall) : SchemaCache := calls.foldl after c

/-- Every schema in the cache is that of fields for which `P` holds, under its own fingerprint. -/
def IsMadeFrom (P : List Field → Prop) (c : SchemaCache) : Prop :=
  ∀ e ∈ c.entries, ∃ fields, P fields ∧ Schema.compile fields = .ok e.schema ∧
    e.key = e.schema.fingerprint

variable {P : List Field → Prop} {c : SchemaCache} {fields : List Field}

/-- The keys of a cache, from the one that was not used for the longest time to the one that was
used last. -/
def keys (c : SchemaCache) : List String := c.entries.map CacheEntry.key

/-- How a cache handles being asked for a schema: the fields have no fingerprint, there is an entry
under it, no schema can be made of the fields, or one is made and taken in. -/
inductive Handling (c : SchemaCache) (fields : List Field) :
    Except SchemaError CacheEntry × SchemaCache → Prop where
  | unprinted {f : Fault} (hprint : fingerprint? fields = .error f) :
      Handling c fields (.error (.fault f), c)
  | found {e : CacheEntry} (hprint : fingerprint? fields = .ok e.key) (hmem : e ∈ c.entries) :
      Handling c fields
        (.ok e, { c with hits := c.hits + 1, entries := moveToEnd e c.entries })
  | misfit {key : String} {m : Misfit} (hprint : fingerprint? fields = .ok key)
      (hnone : key ∉ c.keys) (hcompile : Schema.compile fields = .error (.misfit m)) :
      Handling c fields (.error (.misfit m), { c with misses := c.misses + 1 })
  | made {s : Schema} (hprint : fingerprint? fields = .ok s.fingerprint)
      (hnone : s.fingerprint ∉ c.keys) (hcompile : Schema.compile fields = .ok s) :
      Handling c fields
        (.ok ⟨s.fingerprint, s, c.made⟩,
          { c with
            misses := c.misses + 1
            made := c.made + 1
            entries := takeIn c.limit ⟨s.fingerprint, s, c.made⟩ c.entries })

/-- There is no other way to handle it. -/
theorem handling_get (c : SchemaCache) (fields : List Field) :
    Handling c fields (c.get fields) := by
  unfold get
  cases hprint : fingerprint? fields with
  | error f => exact .unprinted hprint
  | ok key =>
    dsimp only
    cases hfind : c.find? key with
    | some e =>
      obtain rfl : e.key = key := by simpa using List.find?_some hfind
      exact .found hprint (List.mem_of_find?_eq_some hfind)
    | none =>
      have hnone : key ∉ c.keys := by
        rintro hmem
        obtain ⟨e, he, rfl⟩ := List.mem_map.mp hmem
        simpa using List.find?_eq_none.mp hfind e he
      cases hcompile : Schema.compile fields with
      | error e =>
        obtain ⟨m, rfl⟩ := Schema.exists_misfit_of_compile hprint hcompile
        exact .misfit hprint hnone hcompile
      | ok s =>
        obtain ⟨t, ht, rfl⟩ := Schema.of_compile hcompile
        rw [fingerprint?_eq, ht] at hprint
        cases hprint
        exact .made (by rw [fingerprint?_eq, ht]; rfl) hnone hcompile

/-- Asking for a schema finds an entry, makes one, or fails. -/
theorem get_cases (c : SchemaCache) (fields : List Field) :
    (∃ e ∈ c.entries, fingerprint? fields = .ok e.key ∧ (c.get fields).1 = .ok e ∧
      (c.get fields).2.entries = moveToEnd e c.entries) ∨
    (∃ s, Schema.compile fields = .ok s ∧ (c.get fields).1 = .ok ⟨s.fingerprint, s, c.made⟩ ∧
      (c.get fields).2.entries = takeIn c.limit ⟨s.fingerprint, s, c.made⟩ c.entries) ∨
    ((∃ e, Schema.compile fields = .error e) ∧ (c.get fields).2.entries = c.entries) := by
  have hhandling := handling_get c fields
  generalize c.get fields = handled at hhandling ⊢
  cases hhandling with
  | unprinted hprint => exact .inr (.inr ⟨Schema.exists_error_of_fingerprint? hprint, rfl⟩)
  | found hprint hmem => exact .inl ⟨_, hmem, hprint, rfl, rfl⟩
  | misfit _ _ hcompile => exact .inr (.inr ⟨⟨_, hcompile⟩, rfl⟩)
  | made _ _ hcompile => exact .inr (.inl ⟨_, hcompile, rfl, rfl⟩)

/-- Moving an entry to the end brings none in. -/
theorem mem_of_mem_moveToEnd {e other : CacheEntry} {entries : List CacheEntry} (he : e ∈ entries)
    (h : other ∈ moveToEnd e entries) : other ∈ entries := by
  rcases List.mem_append.mp h with hkept | hlast
  · exact List.mem_of_mem_filter hkept
  · rw [List.mem_singleton.mp hlast]
    exact he

/-- Taking an entry in brings in no other. -/
theorem mem_of_mem_takeIn {limit : Nat} {e other : CacheEntry} {entries : List CacheEntry}
    (h : other ∈ takeIn limit e entries) : other ∈ entries ∨ other = e := by
  rcases List.mem_append.mp (List.mem_of_mem_drop h) with hkept | hlast
  · exact .inl hkept
  · exact .inr (List.mem_singleton.mp hlast)

/-- An entry that is taken in among none stays alone. -/
theorem takeIn_nil {limit : Nat} (hlimit : 1 ≤ limit) (e : CacheEntry) :
    takeIn limit e [] = [e] := by
  rw [takeIn, List.nil_append, List.length_singleton, Nat.sub_eq_zero_of_le hlimit]
  rfl

/-- What entries are made from is kept by every call that asks for such fields only. -/
theorem IsMadeFrom.after (h : c.IsMadeFrom P) {call : CacheCall}
    (hcall : ∀ fields, call = .get fields → P fields) : (c.after call).IsMadeFrom P := by
  cases call with
  | clear => exact nofun
  | get fields =>
    intro e he
    rcases get_cases c fields with ⟨found, hmem, -, -, hentries⟩ | ⟨s, hs, -, hentries⟩ |
      ⟨-, hentries⟩
    · rw [SchemaCache.after, hentries] at he
      exact h e (mem_of_mem_moveToEnd hmem he)
    · rw [SchemaCache.after, hentries] at he
      rcases mem_of_mem_takeIn he with hkept | rfl
      · exact h e hkept
      · exact ⟨fields, hcall fields rfl, hs, rfl⟩
    · rw [SchemaCache.after, hentries] at he
      exact h e he

/-- **What entries are made from**, whatever is done with a cache. -/
theorem IsMadeFrom.run (h : c.IsMadeFrom P) {calls : List CacheCall}
    (hcalls : ∀ fields, .get fields ∈ calls → P fields) : (c.run calls).IsMadeFrom P := by
  induction calls generalizing c with
  | nil => exact h
  | cons call calls ih =>
    have hfirst : (c.after call).IsMadeFrom P :=
      h.after fun fields hget => hcalls fields (hget ▸ List.mem_cons_self)
    exact ih hfirst fun fields hget => hcalls fields (List.mem_cons_of_mem _ hget)

/-- What is given out for fields that have a schema is that schema, or that of other fields of the
same fingerprint. -/
theorem IsMadeFrom.get_eq (h : c.IsMadeFrom P) {s : Schema} (hs : Schema.compile fields = .ok s) :
    ∃ e, (c.get fields).1 = .ok e ∧ (e.schema = s ∨
      ∃ earlier, P earlier ∧ Schema.compile earlier = .ok e.schema ∧
        e.schema.fingerprint = s.fingerprint) := by
  rcases get_cases c fields with ⟨e, hmem, hprint, hget, -⟩ | ⟨s', hs', hget, -⟩ | ⟨⟨f, hf⟩, -⟩
  · obtain ⟨earlier, hP, hearlier, hkey⟩ := h e hmem
    obtain ⟨t, ht, rfl⟩ := Schema.of_compile hs
    rw [fingerprint?_eq, ht] at hprint
    refine ⟨e, hget, .inr ⟨earlier, hP, hearlier, ?_⟩⟩
    exact hkey.symm.trans (Except.ok.inj hprint).symm
  · rw [hs] at hs'
    exact ⟨_, hget, .inl (Except.ok.inj hs').symm⟩
  · rw [hs] at hf
    cases hf

end SchemaCache

/-- Are all terms of the fields in a language? -/
def IsIn (L : Set Value) (fields : List Field) : Prop := ∀ d ∈ fields, ∀ v ∈ d.terms, v ∈ L

/-- Fields collide if they have different texts of one digest. -/
def Collide (fields others : List Field) : Prop :=
  ∃ t t', payload? fields = .ok t ∧ payload? others = .ok t' ∧ t ≠ t' ∧
    Text.digest t = Text.digest t'

/-- A cache is **transparent** for a language if, whatever was done with it for fields in the
language, it gives out for fields in the language that have a schema, and collide with none that
were asked for, a schema that checks all answers like theirs. -/
def Transparent (L : Set Value) : Prop :=
  ∀ (limit : Nat) (calls : List CacheCall) (fields : List Field) (s : Schema),
    (∀ earlier, .get earlier ∈ calls → IsIn L earlier ∧ ¬ Collide earlier fields) →
    IsIn L fields → Schema.compile fields = .ok s →
    ∃ e, (((SchemaCache.empty limit).run calls).get fields).1 = .ok e ∧
      ∀ host answers, e.schema.check? host answers = s.check? host answers

/-- A language **separates** if terms that are written alike hold alike. -/
def Separates (L : Set Value) : Prop := ∀ v ∈ L, ∀ w ∈ L, WrittenAlike v w → v.HoldsAlike w

/-- Some fields are **told apart** from others if they do not collide, and if terms of the two that
are written alike hold alike. -/
def ToldApart (fields others : List Field) : Prop :=
  ¬ Collide fields others ∧ ∀ d ∈ fields, ∀ v ∈ d.terms, ∀ d' ∈ others, ∀ w ∈ d'.terms,
    WrittenAlike v w → v.HoldsAlike w

/-- Schemas of one fingerprint check all answers alike, if their fields are told apart. -/
theorem ToldApart.check?_eq {fields others : List Field} (h : ToldApart fields others)
    {s s' : Schema} (hs : Schema.compile fields = .ok s) (hs' : Schema.compile others = .ok s')
    (hprint : s.fingerprint = s'.fingerprint) (host : Host) (answers : Answers) :
    s.check? host answers = s'.check? host answers := by
  obtain ⟨t, ht, rfl⟩ := Schema.of_compile hs
  obtain ⟨t', ht', rfl⟩ := Schema.of_compile hs'
  have hsame : t = t' := by
    by_contra hne
    exact h.1 ⟨t, t', ht, ht', hne, hprint⟩
  subst hsame
  exact Schema.check?_eq ⟨t, ht, ht'⟩ h.2 host answers

/-- **What a cache gives out** for fields that have a schema checks all answers like that schema, if
all fields that were asked for before are told apart from them. -/
theorem SchemaCache.exists_get {limit : Nat} {calls : List CacheCall} {fields : List Field}
    {s : Schema} (hs : Schema.compile fields = .ok s)
    (hcalls : ∀ earlier, .get earlier ∈ calls → ToldApart earlier fields) :
    ∃ e, (((SchemaCache.empty limit).run calls).get fields).1 = .ok e ∧
      ∀ host answers, e.schema.check? host answers = s.check? host answers := by
  have hempty : (SchemaCache.empty limit).IsMadeFrom fun earlier => ToldApart earlier fields :=
    nofun
  obtain ⟨e, hget, rfl | ⟨earlier, happart, hcompile, hprint⟩⟩ := (hempty.run hcalls).get_eq hs
  · exact ⟨e, hget, fun _ _ => rfl⟩
  · exact ⟨e, hget, happart.check?_eq hcompile hs hprint⟩

/-- Fields of distinct names that a cache gives out a schema for have one of their own. -/
theorem SchemaCache.exists_compile_of_get {c : SchemaCache} {fields : List Field} {e : CacheEntry}
    (hnames : (fieldNames fields).Nodup) (h : (c.get fields).1 = .ok e) :
    ∃ s, Schema.compile fields = .ok s := by
  cases hpayload : payload? fields with
  | ok t => exact ⟨_, Schema.compile_eq_ok hnames hpayload⟩
  | error f =>
    rw [get, fingerprint?_eq, hpayload] at h
    cases h

/-- **What a cache gives out** for fields, if none that were asked for before collide with them, is
the schema of fields that are written alike. -/
theorem SchemaCache.exists_alike_of_get {limit : Nat} {calls : List CacheCall}
    {fields : List Field} {e : CacheEntry} (hnames : (fieldNames fields).Nodup)
    (hcalls : ∀ earlier, .get earlier ∈ calls → ¬ Collide earlier fields)
    (h : (((SchemaCache.empty limit).run calls).get fields).1 = .ok e) :
    ∃ made, Schema.compile made = .ok e.schema ∧
      WrittenAlike (.list (made.map Field.toValue)) (.list (fields.map Field.toValue)) := by
  obtain ⟨s, hs⟩ := exists_compile_of_get hnames h
  obtain ⟨t, ht, hts⟩ := Schema.of_compile hs
  have hempty : (SchemaCache.empty limit).IsMadeFrom fun earlier => ¬ Collide earlier fields :=
    nofun
  obtain ⟨e', he', hmade⟩ := (hempty.run hcalls).get_eq hs
  rw [h] at he'
  cases he'
  rcases hmade with heq | ⟨earlier, hcollide, hcompile, hprint⟩
  · exact ⟨fields, heq ▸ hs, t, ht, ht⟩
  · obtain ⟨t', ht', hts'⟩ := Schema.of_compile hcompile
    have hsame : t' = t := by
      by_contra hne
      rw [hts, hts'] at hprint
      exact hcollide ⟨t', t, ht', ht, hne, hprint⟩
    exact ⟨earlier, hcompile, t, hsame ▸ ht', ht⟩

/-- The cache is transparent for languages that separate. -/
theorem transparent_of_separates {L : Set Value} (hL : Separates L) : Transparent L := by
  intro limit calls fields s hcalls hfields hs
  refine SchemaCache.exists_get hs fun earlier hget => ?_
  obtain ⟨hearlier, hcollide⟩ := hcalls earlier hget
  exact ⟨hcollide, fun d hd v hv d' hd' w hw => hL v (hearlier d hd v hv) w (hfields d' hd' w hw)⟩

/-- A field that is required just while a clause holds. -/
def probe (name field : String) (v : Value) : Field where
  name := name
  type := .text
  condition := some ⟨⟨field, v⟩, true, none⟩

/-- The only term of the probe is what its clause expects. -/
theorem isIn_probe {L : Set Value} {v : Value} (hv : v ∈ L) (name field : String) :
    IsIn L [probe name field v] := by
  intro d hd w hw
  rw [List.mem_singleton.mp hd] at hw
  simp only [Field.terms, probe, Condition.terms, Option.toList, List.map_nil, List.flatMap_cons,
    List.flatMap_nil, List.append_nil, List.mem_singleton] at hw
  exact hw ▸ hv

/-- The text of the probe comes from the text of its term. -/
theorem payload?_probe {v : Value} {t : String} (hv : v.canonical? = .ok t)
    (name field : String) : ∃ p, payload? [probe name field v] = .ok p := by
  cases h : payload? [probe name field v] with
  | ok p => exact ⟨p, rfl⟩
  | error f =>
    simp only [payload?, probe, List.map_cons, List.map_nil, Field.toValue, Condition.toValue,
      Constraints.toValue, Value.record, Value.ofOption, Value.canonical?, Value.canonicalAll?,
      Value.canonicalEach?, Value.text?, hv] at h
    cases h

/-- Probes whose terms are written alike have the same text. -/
theorem payload?_probe_eq {v w : Value} (h : v.canonical? = w.canonical?) (name field : String) :
    payload? [probe name field v] = payload? [probe name field w] := by
  simp only [payload?, probe, List.map_cons, List.map_nil, Field.toValue, Condition.toValue,
    Value.record, Value.ofOption, Value.canonical?, Value.canonicalAll?, Value.canonicalEach?, h]

/-- Where the probe has no answer, what is found of it is whether its clause holds. -/
theorem finding?_probe {answers : Answers} {name : String} (hname : answers.get name = .null)
    (field : String) (v : Value) (host : Host) :
    Schema.finding? host answers (probe name field v).check =
      ((⟨field, v⟩ : Clause).holds? host answers).map fun holds =>
        if holds then some { field := name, message := Wording.requiredNow } else none := by
  have hshown : (probe name field v).isShown? host answers =
      (⟨field, v⟩ : Clause).holds? host answers := by
    show (⟨⟨field, v⟩, true, none⟩ : Condition).holds? host answers = _
    rw [Condition.holds?]
    cases (⟨field, v⟩ : Clause).holds? host answers with
    | error f => rfl
    | ok b => cases b <;> rfl
  have hrequired : (probe name field v).isRequiredNow? host answers =
      (probe name field v).isShown? host answers := rfl
  unfold Schema.finding? FieldCheck.run? FieldCheck.demand? Field.check
  dsimp only
  rw [show (probe name field v).name = name from rfl, hname, hrequired, hshown]
  cases (⟨field, v⟩ : Clause).holds? host answers with
  | error f => rfl
  | ok b => cases b <;> rfl

/-- A cache that holds one schema gives it out for all fields of the same text. -/
theorem get_after_get {limit : Nat} (hlimit : 1 ≤ limit) {fields others : List Field} {s : Schema}
    (hs : Schema.compile fields = .ok s) (hsame : payload? others = payload? fields) :
    (((SchemaCache.empty limit).run [.get fields]).get others).1 =
      .ok ⟨s.fingerprint, s, 0⟩ := by
  obtain ⟨t, ht, rfl⟩ := Schema.of_compile hs
  have hprint : fingerprint? fields = .ok (Text.digest t) := by
    rw [fingerprint?_eq, ht]
    rfl
  have hprint' : fingerprint? others = .ok (Text.digest t) := by
    rw [fingerprint?_eq, hsame, ht]
    rfl
  have hrun : ((SchemaCache.empty limit).run [.get fields]).entries =
      [⟨Text.digest t, ⟨fields.map Field.check, Text.digest t⟩, 0⟩] := by
    show ((SchemaCache.empty limit).get fields).2.entries = _
    rcases SchemaCache.get_cases (.empty limit) fields with ⟨e, he, -⟩ | ⟨s', hs', -, hentries⟩ |
      ⟨⟨f, hf⟩, -⟩
    · cases he
    · rw [hs] at hs'
      cases hs'
      exact hentries.trans (SchemaCache.takeIn_nil hlimit _)
    · rw [hs] at hf
      cases hf
  unfold SchemaCache.get
  rw [hprint']
  dsimp only
  rw [SchemaCache.find?, hrun, List.find?_cons_of_pos (by simp)]

/-- A language for which the cache is transparent separates. -/
theorem separates_of_transparent {L : Set Value} (hL : Transparent L) : Separates L := by
  rintro v hv w hw ⟨t, hvt, hwt⟩ host answers field
  -- The probe has a name that has no answer, so it is found wanting just where its clause holds.
  obtain ⟨name, hname⟩ := Infinite.exists_notMem_finset answers.keys.toFinset
  have hnull : answers.get name = .null :=
    Answers.get_of_not_mem fun h => hname (List.mem_toFinset.mpr h)
  obtain ⟨p, hp⟩ := payload?_probe hvt name field
  have hsame : payload? [probe name field w] = payload? [probe name field v] :=
    payload?_probe_eq (hwt.trans hvt.symm) name field
  have hnames : ∀ u, (fieldNames [probe name field u]).Nodup := fun _ => List.nodup_singleton _
  have hfirst := Schema.compile_eq_ok (hnames v) hp
  have hsecond := Schema.compile_eq_ok (hnames w) (hsame.trans hp)
  have hcollide : ¬ Collide [probe name field v] [probe name field w] := by
    rintro ⟨p₁, p₂, hp₁, hp₂, hne, -⟩
    rw [hsame, hp₁] at hp₂
    exact hne (Except.ok.inj hp₂)
  obtain ⟨e, hget, hcheck⟩ := hL 1 [.get [probe name field v]] [probe name field w] _
    (fun earlier hearlier => by
      cases List.mem_singleton.mp hearlier
      exact ⟨isIn_probe hv name field, hcollide⟩)
    (isIn_probe hw name field) hsecond
  rw [get_after_get le_rfl hfirst hsame] at hget
  cases hget
  have hreports := hcheck host answers
  simp only [Schema.check?, List.map_cons, List.map_nil, List.mapM_cons, List.mapM_nil,
    finding?_probe hnull] at hreports
  generalize (⟨field, v⟩ : Clause).holds? host answers = x at hreports ⊢
  generalize (⟨field, w⟩ : Clause).holds? host answers = y at hreports ⊢
  rcases x with f | (_ | _) <;> rcases y with g | (_ | _) <;> cases hreports <;> rfl

/-- **When the cache cannot be noticed**: the languages for which it is transparent are those that
separate. -/
theorem transparent_iff_separates (L : Set Value) : Transparent L ↔ Separates L :=
  ⟨separates_of_transparent, transparent_of_separates⟩

/-- **The cache cannot be noticed** by forms whose terms are data, or are written like no other
term of a form. -/
theorem transparent_of_isData {L : Set Value}
    (hL : ∀ v ∈ L, v.IsData ∨ ∀ w ∈ L, WrittenAlike v w → w = v) : Transparent L := by
  refine transparent_of_separates fun v hv w hw halike => ?_
  rcases hL v hv with hvData | hvAlone
  · rcases hL w hw with hwData | hwAlone
    · exact hvData.holdsAlike hwData halike
    · rw [hwAlone v hv halike.symm]
      exact fun _ _ _ => rfl
  · rw [hvAlone w hw halike]
    exact fun _ _ _ => rfl

/-- A form whose second field is required while the first one holds an expected value. -/
def pickForm (expected : Value) : List Field :=
  [{ name := "a", type := .multiSelect }, probe "b" "a" expected]

/-- Forms that expect a tuple and a list of the same are written alike. -/
theorem payload?_pickForm :
    ∃ t, payload? (pickForm (.tuple [.text "x"])) = .ok t ∧
      payload? (pickForm (.list [.text "x"])) = .ok t :=
  ⟨_, rfl, rfl⟩

/-- The second field is missing where the first one has the list, if this is what is expected. -/
theorem check?_pickForm {expected : Value} {holds : Bool} (print : String)
    (hholds : (⟨"a", expected⟩ : Clause).holds? Host.none
      (Answers.ofEntries [("a", .list [.text "x"])]) = .ok holds) :
    (⟨(pickForm expected).map Field.check, print⟩ : Schema).check? Host.none
        (Answers.ofEntries [("a", .list [.text "x"])]) =
      .ok ⟨if holds then [{ field := "b", message := Wording.requiredNow }] else []⟩ := by
  have hmissing : (Answers.ofEntries [("a", .list [.text "x"])]).get "b" = .null := rfl
  simp only [Schema.check?, pickForm, List.map_cons, List.map_nil, List.mapM_cons, List.mapM_nil,
    finding?_probe hmissing, hholds]
  cases holds <;> rfl

/-- A list equals itself, and no tuple. -/
theorem holds?_pickForm :
    (⟨"a", .tuple [.text "x"]⟩ : Clause).holds? Host.none
        (Answers.ofEntries [("a", .list [.text "x"])]) = .ok false ∧
      (⟨"a", .list [.text "x"]⟩ : Clause).holds? Host.none
        (Answers.ofEntries [("a", .list [.text "x"])]) = .ok true :=
  ⟨by cbv, by cbv⟩

/-- **A form that is checked like another one**: a tuple is written like a list and never equals
one, so when the form that expects a tuple was asked for, the form that expects a list is checked
like it, and a missing answer is not found. -/
theorem tuple_taken_for_list :
    ∃ e s, (((SchemaCache.empty 32).run [.get (pickForm (.tuple [.text "x"]))]).get
        (pickForm (.list [.text "x"]))).1 = .ok e ∧
      Schema.compile (pickForm (.list [.text "x"])) = .ok s ∧
      e.schema.check? Host.none (Answers.ofEntries [("a", .list [.text "x"])]) = .ok ⟨[]⟩ ∧
      s.check? Host.none (Answers.ofEntries [("a", .list [.text "x"])]) =
        .ok ⟨[{ field := "b", message := Wording.requiredNow }]⟩ := by
  obtain ⟨t, htuple, hlist⟩ := payload?_pickForm
  have hfirst := Schema.compile_eq_ok (by decide) htuple
  exact ⟨_, _, get_after_get (by decide) hfirst (hlist.trans htuple.symm),
    Schema.compile_eq_ok (by decide) hlist, check?_pickForm _ holds?_pickForm.1,
    check?_pickForm _ holds?_pickForm.2⟩

end Intake
