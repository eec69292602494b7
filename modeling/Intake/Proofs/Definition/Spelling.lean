import Intake.Proofs.Definition.Escapes

/-!
# Keys with two spellings

A key of two words can be spelled in two ways, and so can one that would be a word of the language
in which the engine is programmed.  A part of a record **stands under** a key if it is there under
one spelling of the key and nothing is there under the other.  Then it can be spelled otherwise, and
the part still stands under the key.

* `spellings` lists the spellings of a key, `otherSpelling` is the other one;
* `StandsUnder` says what stands under a key, and `exists_standsUnder` that this can be said of
  every key if no two spellings of one key are there;
* `respellKeys` spells keys of a record otherwise, and `StandsUnder.respellKeys` says that this
  changes nothing;
* `part?` is what readers take from a record, and `StandsUnder.part?_eq` says that it is what stands
  there.
-/

namespace Intake

/-! ## Spellings -/

/-- The keys with two spellings. -/
def twoSpellings : List (String × String) :=
  [("minLength", "min_length"), ("maxLength", "max_length"), ("minValue", "min_value"),
   ("maxValue", "max_value"), ("minItems", "min_items"), ("maxItems", "max_items"),
   ("defaultValue", "default_value"), ("derivedFrom", "derived_from"),
   ("helpText", "help_text"), ("and", "and_")]

/-- The two spellings of a key, if it has two. -/
def spellingPair? (key : String) : Option (String × String) :=
  twoSpellings.find? fun p => p.1 = key ∨ p.2 = key

/-- The spellings of a key, in the order in which readers look for them. -/
def spellings (key : String) : List String :=
  match spellingPair? key with
  | some (first, second) => [first, second]
  | none => [key]

/-- The other spelling of a key; a key with one spelling stays as it is. -/
def otherSpelling (key : String) : String :=
  match spellingPair? key with
  | some (first, second) => if key = first then second else first
  | none => key

/-- Each spelling in the table has the other one for its other spelling. -/
theorem spellings_of_mem : ∀ p ∈ twoSpellings,
    spellings p.1 = [p.1, p.2] ∧ spellings p.2 = [p.1, p.2] ∧
      otherSpelling p.1 = p.2 ∧ otherSpelling p.2 = p.1 := by
  decide

/-- A key is one of two spellings in the table, or has no other. -/
theorem spelling_cases (key : String) :
    (∃ p ∈ twoSpellings, spellings key = [p.1, p.2] ∧ (key = p.1 ∨ key = p.2)) ∨
      (spellings key = [key] ∧ otherSpelling key = key) := by
  cases h : spellingPair? key with
  | none => exact .inr ⟨by rw [spellings, h], by rw [otherSpelling, h]⟩
  | some p =>
    have hkey : p.1 = key ∨ p.2 = key := by simpa using List.find?_some h
    exact .inl ⟨p, List.mem_of_find?_eq_some h, by rw [spellings, h], hkey.imp Eq.symm Eq.symm⟩

/-- The spellings of a key are the key and its other spelling. -/
theorem mem_spellings {key spelling : String} :
    spelling ∈ spellings key ↔ spelling = key ∨ spelling = otherSpelling key := by
  rcases spelling_cases key with ⟨p, hp, -, rfl | rfl⟩ | ⟨hspellings, hother⟩
  · obtain ⟨h, -, hother, -⟩ := spellings_of_mem p hp
    simp [h, hother]
  · obtain ⟨-, h, -, hother⟩ := spellings_of_mem p hp
    simp [h, hother, or_comm]
  · simp [hspellings, hother]

/-- The other spelling of the other spelling is the spelling. -/
theorem otherSpelling_otherSpelling (key : String) : otherSpelling (otherSpelling key) = key := by
  rcases spelling_cases key with ⟨p, hp, -, rfl | rfl⟩ | ⟨-, hother⟩
  · obtain ⟨-, -, hother, hback⟩ := spellings_of_mem p hp
    rw [hother, hback]
  · obtain ⟨-, -, hback, hother⟩ := spellings_of_mem p hp
    rw [hother, hback]
  · rw [hother, hother]

/-- Every spelling of a key has the same spellings. -/
theorem spellings_eq_of_mem {key spelling : String} (h : spelling ∈ spellings key) :
    spellings spelling = spellings key := by
  rcases spelling_cases key with ⟨p, hp, hpair, -⟩ | ⟨hspellings, -⟩
  · obtain ⟨hfirst, hsecond, -, -⟩ := spellings_of_mem p hp
    rw [hpair, List.mem_pair] at h
    rcases h with rfl | rfl
    · rw [hfirst, hpair]
    · rw [hsecond, hpair]
  · rw [hspellings, List.mem_singleton] at h
    rw [h]

/-- A key that is no spelling of another shares no spelling with it. -/
theorem not_mem_spellings {key other name : String} (hkey : key ∉ spellings other)
    (hname : name ∈ spellings other) : name ∉ spellings key := by
  intro hmem
  rw [← spellings_eq_of_mem hname, spellings_eq_of_mem hmem] at hkey
  exact hkey (mem_spellings.mpr (.inl rfl))

/-- Spelling a key otherwise does not lead away from its spellings. -/
theorem otherSpelling_mem_spellings {key spelling : String} :
    otherSpelling spelling ∈ spellings key ↔ spelling ∈ spellings key := by
  have hforth : ∀ {s}, s ∈ spellings key → otherSpelling s ∈ spellings key := by
    intro s hs
    rcases mem_spellings.mp hs with rfl | rfl
    · exact mem_spellings.mpr (.inr rfl)
    · rw [otherSpelling_otherSpelling]
      exact mem_spellings.mpr (.inl rfl)
  exact ⟨fun h => otherSpelling_otherSpelling spelling ▸ hforth h, hforth⟩

/-- A name of one spelling is a spelling of no other key. -/
theorem mem_spellings_single {key name : String} (h : spellings name = [name]) :
    name ∈ spellings key ↔ key = name := by
  constructor
  · intro hmem
    have hkey : key ∈ spellings name := by
      rw [spellings_eq_of_mem hmem]
      exact mem_spellings.mpr (.inl rfl)
    rw [h] at hkey
    exact List.mem_singleton.mp hkey
  · rintro rfl
    exact mem_spellings.mpr (.inl rfl)

/-! ## What stands under a key -/

section Records

variable {record r : List (Value × Value)} {key name : String} {v : Value} {o : Option Value}

/-- Something, or nothing, **stands under** a key of a record: it is there under one spelling, and
nothing is there under the other. -/
def StandsUnder (record : List (Value × Value)) (key : String) (o : Option Value) : Prop :=
  ∃ spelling ∈ spellings key, Value.lookupEntry (.text spelling) record = o ∧
    ∀ other ∈ spellings key, other ≠ spelling → Value.lookupEntry (.text other) record = none

/-- No key is there in both spellings. -/
def SpelledOnce (record : List (Value × Value)) : Prop :=
  ∀ p ∈ twoSpellings,
    Value.lookupEntry (.text p.1) record = none ∨ Value.lookupEntry (.text p.2) record = none

/-- **Where no key is there in both spellings** something, or nothing, stands under each. -/
theorem exists_standsUnder (h : SpelledOnce record) (key : String) :
    ∃ o, StandsUnder record key o := by
  rcases spelling_cases key with ⟨p, hp, hpair, -⟩ | ⟨hspellings, -⟩
  · rcases h p hp with hnone | hnone
    · exact ⟨_, p.2, by simp [hpair], rfl, by simp +contextual [hpair, hnone]⟩
    · exact ⟨_, p.1, by simp [hpair], rfl, by simp +contextual [hpair, hnone]⟩
  · exact ⟨_, key, by simp [hspellings], rfl, by simp +contextual [hspellings]⟩

/-- Nothing is there under a key that no entry has. -/
theorem lookupEntry_eq_none_iff :
    Value.lookupEntry (.text name) record = none ↔ ∀ e ∈ record, e.1 ≠ .text name := by
  simp [Value.lookupEntry, Value.eqv_text]

/-- No key is there in both spellings if that is so for the texts that are keys. -/
theorem SpelledOnce.of_keys (keys : List String) (hkeys : record.map Prod.fst = keys.map .text)
    (h : ∀ p ∈ twoSpellings, p.1 ∉ keys ∨ p.2 ∉ keys) : SpelledOnce record := by
  have hnone : ∀ {name}, name ∉ keys → Value.lookupEntry (.text name) record = none := by
    intro name hname
    refine lookupEntry_eq_none_iff.mpr fun e he heq => hname ?_
    have hmem : Value.text name ∈ keys.map Value.text := by
      rw [← hkeys, ← heq]
      exact List.mem_map_of_mem he
    obtain ⟨key, hkey, h⟩ := List.mem_map.mp hmem
    exact Value.text.inj h ▸ hkey
  exact fun p hp => (h p hp).imp hnone hnone

/-- Where entries are changed, a key that stands for a key of before has what the change made of
what was there. -/
theorem lookupEntry_map {before after : String} {f : Value × Value → Value × Value}
    {g : Value → Value}
    (hf : ∀ e ∈ record, ((f e).1 = .text after ↔ e.1 = .text before) ∧
      (e.1 = .text before → (f e).2 = g e.2)) :
    Value.lookupEntry (.text after) (record.map f) =
      (Value.lookupEntry (.text before) record).map g := by
  induction record with
  | nil => rfl
  | cons e rest ih =>
    obtain ⟨hfirst, hrest⟩ := List.forall_mem_cons.mp hf
    obtain ⟨k, v⟩ := e
    rw [List.map_cons, Value.lookupEntry_cons, ← Prod.mk.eta (p := f (k, v)),
      Value.lookupEntry_cons, ih hrest]
    by_cases hk : k = .text before
    · rw [if_pos (Value.eqv_text.mpr (hfirst.1.mpr hk)), if_pos (Value.eqv_text.mpr hk),
        hfirst.2 hk, Option.map_some]
    · rw [if_neg (mt Value.eqv_text.mp (mt hfirst.1.mp hk)), if_neg (mt Value.eqv_text.mp hk)]

/-! ## Spelling keys otherwise -/

/-- A key, spelled otherwise if it is to be. -/
def respelledKey (swap : String → Bool) : Value → Value
  | .text s => .text (if swap s then otherSpelling s else s)
  | key => key

/-- A record in which some keys are spelled otherwise. -/
def respellKeys (swap : String → Bool) (record : List (Value × Value)) : List (Value × Value) :=
  record.map fun e => (respelledKey swap e.1, e.2)

/-- **What stands under a key stands there still** when keys are spelled otherwise. -/
theorem StandsUnder.respellKeys (h : StandsUnder record key o) (swap : String → Bool) :
    StandsUnder (respellKeys swap record) key o := by
  obtain ⟨spelling, hspelling, rfl, hnone⟩ := h
  let changed : String → String := fun s => if swap s then otherSpelling s else s
  have hchanged : ∀ s, changed s ∈ spellings key ↔ s ∈ spellings key := by
    intro s
    by_cases hs : swap s = true <;> simp [changed, hs, otherSpelling_mem_spellings]
  -- an entry whose key becomes a spelling of the key can only be the one that stands there
  have honly : ∀ e ∈ record, ∀ other ∈ spellings key, respelledKey swap e.1 = .text other →
      e.1 = .text spelling ∧ other = changed spelling := by
    rintro ⟨k, v⟩ he other hother heq
    cases k with
    | text s =>
      obtain rfl : changed s = other := Value.text.inj heq
      have hs : s = spelling := by
        by_contra hne
        exact lookupEntry_eq_none_iff.mp (hnone s ((hchanged s).mp hother) hne) _ he rfl
      exact ⟨congrArg Value.text hs, congrArg changed hs⟩
    | _ => cases heq
  refine ⟨changed spelling, (hchanged spelling).mpr hspelling, ?_, fun other hother hne => ?_⟩
  · have hmap : Value.lookupEntry (.text (changed spelling)) (Intake.respellKeys swap record) =
        (Value.lookupEntry (.text spelling) record).map id := by
      refine lookupEntry_map fun e he => ⟨⟨fun heq => ?_, fun heq => ?_⟩, fun _ => rfl⟩
      · exact (honly e he _ ((hchanged spelling).mpr hspelling) heq).1
      · show respelledKey swap e.1 = _
        rw [heq]
        rfl
    rw [hmap, Option.map_id_apply]
  · refine lookupEntry_eq_none_iff.mpr fun e he heq => hne ?_
    obtain ⟨e', he', rfl⟩ := List.mem_map.mp he
    exact (honly e' he' other hother heq).2

/-! ## What readers take -/

/-- What readers take from a record under a key: the first of its spellings counts. -/
def part? (record : List (Value × Value)) (key : String) : Option Value :=
  (entryOf? record (spellings key)).map Prod.snd

/-- Readers look under the spellings of a key only. -/
theorem entryOf?_congr {names : List String}
    (h : ∀ name ∈ names, Value.lookupEntry (.text name) r = Value.lookupEntry (.text name) record) :
    entryOf? r names = entryOf? record names := by
  induction names with
  | nil => rfl
  | cons name rest ih =>
    obtain ⟨hfirst, hrest⟩ := List.forall_mem_cons.mp h
    rw [entryOf?, entryOf?, hfirst, ih hrest]

/-- A reader that finds an entry finds it under a spelling it looks for. -/
theorem mem_of_entryOf? {names : List String} {name : String} {v : Value}
    (h : entryOf? record names = some (name, v)) : name ∈ names := by
  induction names with
  | nil => cases h
  | cons first rest ih =>
    rw [entryOf?] at h
    split at h
    · cases h
      exact List.mem_cons_self
    · exact List.mem_cons_of_mem first (ih h)

/-- What a reader takes is the first thing that is there under the names it looks for. -/
theorem entryOf?_snd (names : List String) : (entryOf? record names).map Prod.snd =
    names.findSome? fun name => Value.lookupEntry (.text name) record := by
  induction names with
  | nil => rfl
  | cons name rest ih =>
    rw [entryOf?, List.findSome?_cons]
    cases Value.lookupEntry (.text name) record with
    | none => exact ih
    | some v => rfl

/-- **Readers take what stands under a key.** -/
theorem StandsUnder.part?_eq (h : StandsUnder record key o) : part? record key = o := by
  obtain ⟨spelling, hspelling, rfl, hnone⟩ := h
  rw [part?, entryOf?_snd]
  cases hlookup : Value.lookupEntry (.text spelling) record with
  | none =>
    refine List.findSome?_eq_none_iff.mpr fun other hother => ?_
    by_cases heq : other = spelling
    · rw [heq, hlookup]
    · exact hnone other hother heq
  | some v =>
    obtain ⟨w, hw⟩ : ∃ w, ((spellings key).findSome? fun name =>
        Value.lookupEntry (.text name) record) = some w :=
      Option.isSome_iff_exists.mp (List.findSome?_isSome_iff.mpr ⟨spelling, hspelling, by
        rw [hlookup, Option.isSome_some]⟩)
    obtain ⟨other, hother, hfound⟩ := List.exists_of_findSome?_eq_some hw
    by_cases heq : other = spelling
    · rw [hw, ← hlookup, ← heq, hfound]
    · rw [hnone other hother heq] at hfound
      cases hfound

/-- Readers take the same under each spelling of a key. -/
theorem part?_eq_of_mem {spelling : String} (h : spelling ∈ spellings key) :
    part? record spelling = part? record key := by
  rw [part?, part?, spellings_eq_of_mem h]

/-- A part of one spelling is what is there under it. -/
theorem part?_single (h : spellings name = [name]) :
    part? record name = Value.lookupEntry (.text name) record := by
  rw [part?, entryOf?_snd, h, List.findSome?_cons, List.findSome?_nil]
  cases Value.lookupEntry (.text name) record <;> rfl

/-- Parts are the same where the same is there under all spellings. -/
theorem part?_congr (h : ∀ other ∈ spellings key,
    Value.lookupEntry (.text other) r = Value.lookupEntry (.text other) record) :
    part? r key = part? record key :=
  congrArg (Option.map Prod.snd) (entryOf?_congr h)

/-- An entry that replaces what stands under a key is the part under this key. -/
theorem part?_withEntry_of_mem (hname : name ∈ spellings key)
    (honly : ∀ other ∈ spellings key, other ≠ name →
      Value.lookupEntry (.text other) record = none) :
    part? (withEntry name v record) key = some v := by
  refine StandsUnder.part?_eq ⟨name, hname, ?_, fun other hother hne => ?_⟩
  · rw [lookupEntry_withEntry, if_pos rfl]
  · rw [lookupEntry_withEntry, if_neg (Ne.symm hne)]
    exact honly other hother hne

/-- Under all other keys the parts stay. -/
theorem part?_withEntry_of_not_mem (hname : name ∉ spellings key) :
    part? (withEntry name v record) key = part? record key := by
  refine part?_congr fun other hother => ?_
  rw [lookupEntry_withEntry, if_neg]
  rintro rfl
  exact hname hother

/-- A record with keys spelled otherwise has the same parts. -/
theorem part?_respellKeys (h : SpelledOnce record) (swap : String → Bool) (key : String) :
    part? (respellKeys swap record) key = part? record key := by
  obtain ⟨o, ho⟩ := exists_standsUnder h key
  rw [ho.part?_eq, (ho.respellKeys swap).part?_eq]

-- with a key in both spellings the other entry comes to count
example :
    part? [(.text "minLength", .int 2), (.text "min_length", .int 3)] "minLength" = some (.int 2) ∧
    part? (respellKeys (fun _ => true) [(.text "minLength", .int 2), (.text "min_length", .int 3)])
      "minLength" = some (.int 3) :=
  ⟨by cbv, by cbv⟩

end Records

end Intake
