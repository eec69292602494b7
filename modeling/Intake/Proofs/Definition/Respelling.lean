import Intake.Proofs.Definition.Alike

/-!
# Data in which keys are spelled otherwise

The keys of a field, of its constraints and of its condition can be spelled in two ways, some of
them.  They are looked at twice: names are resolved first, and for that the second clause of a
condition is looked for under both spellings of its key; then all parts are read.  Neither may miss
what the other finds, or a name would be left as it stands, or a clause be forgotten, without an
issue.

* `respell` spells keys otherwise anywhere in the data of a form;
* `resolveCondition?_alike`, `resolveRule?_alike` and `resolveField?_alike` say that resolving makes
  counterparts of what is spelled otherwise;
* `ofData?_alike` says that the forms of the two data are counterparts, or both are refused for the
  same reason;
* `respell_means_same` is the conclusion.
-/

namespace Intake

/-! ## Spelling otherwise -/

/-- The records in the data of a field that have keys with two spellings. -/
inductive RecordSort where
  | field | constraints | condition
deriving DecidableEq, Repr

/-- Which keys are to be spelled otherwise in the data of a form: for every field, by its place, and
every sort of record. -/
abbrev Respelling := Nat → RecordSort → String → Bool

/-- A record with what is there under a name changed. -/
def changeUnder (name : String) (f : Value → Value) (record : List (Value × Value)) :
    List (Value × Value) :=
  record.map fun e => if e.1.eqv (.text name) then (e.1, f e.2) else e

/-- A value in which keys are spelled otherwise, if it is a record. -/
def respellRecord (swap : String → Bool) : Value → Value
  | .dict record => .dict (respellKeys swap record)
  | v => v

/-- The record of a field in which keys of its constraints and its condition are spelled
otherwise. -/
def respellInner (swap : RecordSort → String → Bool) (record : List (Value × Value)) :
    List (Value × Value) :=
  changeUnder "conditional" (respellRecord (swap .condition))
    (changeUnder "validation" (respellRecord (swap .constraints)) record)

/-- The data of a field in which keys are spelled otherwise. -/
def respellField (swap : RecordSort → String → Bool) : Value → Value
  | .dict record => .dict (respellKeys (swap .field) (respellInner swap record))
  | v => v

/-- The data of fields in which keys are spelled otherwise. -/
def respellFields (change : Respelling) : Value → Value
  | .list items => .list (items.mapIdx fun i item => respellField (change i) item)
  | v => v

/-- The data of a form in which keys are spelled otherwise.  Literals stay as they are. -/
def respell (change : Respelling) : Value → Value
  | .dict record => .dict (changeUnder "fields" (respellFields change) record)
  | v => v

/-- No key of a field is there in both spellings, nor one of its constraints or its condition. -/
structure FieldSpelledOnce (record : List (Value × Value)) : Prop where
  field : SpelledOnce record
  constraints : ∀ part ∈ recordAt? "validation" record, SpelledOnce part
  condition : ∀ part ∈ recordAt? "conditional" record, SpelledOnce part

/-- In the data of a form no key of a field is there in both spellings. -/
def DataSpelledOnce (data : Value) : Prop :=
  ∀ record items, data = .dict record →
    Value.lookupEntry (.text "fields") record = some (.list items) →
    ∀ field, .dict field ∈ items → FieldSpelledOnce field

/-! ## Parts -/

section Parts

variable {record : List (Value × Value)}

/-- What is there under a name is changed, and nothing else. -/
theorem lookupEntry_changeUnder (name other : String) (f : Value → Value) :
    Value.lookupEntry (.text other) (changeUnder name f record) =
      if other = name then (Value.lookupEntry (.text other) record).map f
      else Value.lookupEntry (.text other) record := by
  have hmap : ∀ g : Value → Value, (∀ v, g v = if other = name then f v else v) →
      Value.lookupEntry (.text other) (changeUnder name f record) =
        (Value.lookupEntry (.text other) record).map g := by
    intro g hg
    refine lookupEntry_map fun e _ => ⟨?_, fun he => ?_⟩
    · by_cases h : e.1.eqv (.text name) = true <;> simp [h]
    · by_cases h : other = name <;> simp [he, hg, Value.eqv_text, h]
  by_cases h : other = name
  · rw [if_pos h, hmap f fun v => (if_pos h).symm]
  · rw [if_neg h, hmap id fun v => (if_neg h).symm, Option.map_id_apply]

/-- A value, and what becomes of it when keys are spelled otherwise. -/
structure Respelt (swap : String → Bool) (v w : Value) : Prop where
  respelled : w = respellRecord swap v
  once : ∀ part, v = .dict part → SpelledOnce part

/-- What is there under a name, and what becomes of it. -/
theorem rel_respelt {name : String} (h : ∀ part ∈ recordAt? name record, SpelledOnce part)
    (swap : String → Bool) :
    Option.Rel (Respelt swap) (Value.lookupEntry (.text name) record)
      ((Value.lookupEntry (.text name) record).map (respellRecord swap)) := by
  cases hname : Value.lookupEntry (.text name) record with
  | none => exact .none
  | some v =>
    refine .some ⟨rfl, ?_⟩
    rintro part rfl
    exact h part (by rw [recordAt?, hname, Option.mem_def])

/-- Only what is there under two names changes when inner keys are spelled otherwise. -/
theorem lookupEntry_respellInner (swap : RecordSort → String → Bool) (name : String) :
    Value.lookupEntry (.text name) (respellInner swap record) =
      if name = "conditional" then
        (Value.lookupEntry (.text name) record).map (respellRecord (swap .condition))
      else if name = "validation" then
        (Value.lookupEntry (.text name) record).map (respellRecord (swap .constraints))
      else Value.lookupEntry (.text name) record := by
  rw [respellInner, lookupEntry_changeUnder, lookupEntry_changeUnder]
  by_cases hc : name = "conditional"
  · simp [hc]
  · by_cases hv : name = "validation" <;> simp [hc, hv]

/-- Then there are no more spellings of any key than before. -/
theorem SpelledOnce.respellInner (h : SpelledOnce record) (swap : RecordSort → String → Bool) :
    SpelledOnce (respellInner swap record) := by
  have hnone : ∀ name, Value.lookupEntry (.text name) record = none →
      Value.lookupEntry (.text name) (Intake.respellInner swap record) = none := by
    intro name hname
    rw [lookupEntry_respellInner, hname]
    split_ifs <;> rfl
  exact fun p hp => (h p hp).imp (hnone _) (hnone _)

/-- **The parts of a field in which keys are spelled otherwise** are the same, but for keys in its
constraints and its condition. -/
theorem respellField_parts (h : FieldSpelledOnce record) (swap : RecordSort → String → Bool) :
    ∃ r, respellField swap (.dict record) = .dict r ∧
      PartsRel (FieldParts (Respelt (swap .condition)) (Respelt (swap .constraints))) record r := by
  refine ⟨_, rfl, fun key => ?_⟩
  rw [part?_respellKeys (h.field.respellInner swap)]
  by_cases hc : key = "conditional"
  · subst hc
    rw [part?_single rfl, part?_single rfl, lookupEntry_respellInner, if_pos rfl]
    exact rel_respelt h.condition (swap .condition)
  by_cases hv : key = "validation"
  · subst hv
    rw [part?_single rfl, part?_single rfl, lookupEntry_respellInner, if_neg (by decide),
      if_pos rfl]
    exact rel_respelt h.constraints (swap .constraints)
  · rw [FieldParts, if_neg hc, if_neg hv]
    refine rel_of_eq (part?_congr fun name hname => ?_).symm
    rw [lookupEntry_respellInner, if_neg, if_neg]
    · rintro rfl
      exact hv ((mem_spellings_single rfl).mp hname)
    · rintro rfl
      exact hc ((mem_spellings_single rfl).mp hname)

end Parts

/-! ## Loading -/

namespace Load

variable {α β γ δ : Type} {S : α → β → Prop} {T : γ → δ → Prop}

/-- Loading one thing and another is **alike** if both give results that are related, or both end
with the same error, but for the spelling of keys in issues. -/
inductive Alike (S : α → β → Prop) : Load α → Load β → Prop where
  | failed (e : LoadError) : Alike S (.error e) (.error e)
  | refused (d : DefinitionError) {found found' : List Issue}
      (h : found.map Issue.plain = found'.map Issue.plain) :
      Alike S (.error (.refused d found)) (.error (.refused d found'))
  | loaded {a : α} {b : β} (h : S a b) : Alike S (.ok a) (.ok b)

namespace Alike

theorem refl {S : α → α → Prop} (h : ∀ a, S a a) (x : Load α) : Alike S x x := by
  cases x with
  | error e => exact .failed e
  | ok a => exact .loaded (h a)

/-- Loading in two steps is alike if both steps are. -/
theorem bind {x : Load α} {y : Load β} {f : α → Load γ} {g : β → Load δ} (h : Alike S x y)
    (hfg : ∀ a b, S a b → Alike T (f a) (g b)) : Alike T (x >>= f) (y >>= g) := by
  cases h with
  | failed e => exact .failed e
  | refused d h => exact .refused d h
  | loaded h => exact hfg _ _ h

/-- Where the first step is the same only the second matters. -/
theorem after {f : α → Load γ} {g : α → Load δ} (x : Load α) (h : ∀ a, Alike T (f a) (g a)) :
    Alike T (x >>= f) (x >>= g) :=
  (refl (S := Eq) (fun _ => rfl) x).bind fun a _ hab => hab ▸ h a

theorem imp {S' : α → β → Prop} {x : Load α} {y : Load β} (h : Alike S x y)
    (himp : ∀ a b, S a b → S' a b) : Alike S' x y := by
  cases h with
  | failed e => exact .failed e
  | refused d h => exact .refused d h
  | loaded h => exact .loaded (himp _ _ h)

/-- Loading a list is alike if it is item by item. -/
theorem mapM {f : α → Load γ} {g : β → Load δ} {items : List α} {others : List β}
    (h : List.Forall₂ (fun a b => Alike T (f a) (g b)) items others) :
    Alike (List.Forall₂ T) (items.mapM f) (others.mapM g) := by
  induction h with
  | nil => exact .loaded .nil
  | cons hfirst _ ih =>
    rw [List.mapM_cons, List.mapM_cons]
    exact hfirst.bind fun _ _ hab => ih.bind fun _ _ hrest => .loaded (.cons hab hrest)

/-- One succeeds if the other does, with a result that is related. -/
theorem exists_ok {x : Load α} {y : Load β} (h : Alike S x y) :
    ((∃ a, x = .ok a) ↔ ∃ b, y = .ok b) ∧ ∀ a b, x = .ok a → y = .ok b → S a b := by
  cases h with
  | failed e => exact ⟨iff_of_false nofun nofun, nofun⟩
  | refused d h => exact ⟨iff_of_false nofun nofun, nofun⟩
  | loaded h =>
    refine ⟨iff_of_true ⟨_, rfl⟩ ⟨_, rfl⟩, fun a b ha hb => ?_⟩
    cases ha
    cases hb
    exact h

end Alike

end Load

/-! ## Resolving -/

section Resolving

variable {origin origin' : Origin} {r r' : List (Value × Value)} {index : Nat} {place : String}

/-- Resolving clauses that expect the same leaves both as they are, or puts a predicate and its
counterpart in. -/
theorem resolveClause?_cases (slot : Slot)
    (h : Value.lookupEntry (.text "value") r = Value.lookupEntry (.text "value") r') :
    Load.Alike (fun s s' => (s = r ∧ s' = r') ∨ ∃ p,
        s = withEntry "value" (.callable (.predicate p ⟨origin, index, slot⟩)) r ∧
        s' = withEntry "value" (.callable (.predicate p ⟨origin', index, slot⟩)) r')
      (resolveClause? ⟨origin, index, slot⟩ place r)
      (resolveClause? ⟨origin', index, slot⟩ place r') := by
  have hnamed : recordAt? "value" r = recordAt? "value" r' := by
    rw [recordAt?, h]
    rfl
  unfold resolveClause?
  rw [hnamed]
  cases recordAt? "value" r' with
  | none => exact .loaded (.inl ⟨rfl, rfl⟩)
  | some named =>
    dsimp only
    cases Value.lookupEntry (.text "predicate") named with
    | none => exact .loaded (.inl ⟨rfl, rfl⟩)
    | some name =>
      exact .after _ fun p => .after _ fun _ => .loaded (.inr ⟨p, rfl, rfl⟩)

/-- **Resolving clauses of the same parts** makes counterparts, and changes what they expect
alone. -/
theorem resolveClause?_alike (slot : Slot) (h : PartsRel (fun _ => Eq) r r') :
    Load.Alike (fun s s' => PartsRel (ClauseParts origin origin') s s' ∧
        SameBut "value" s r ∧ SameBut "value" s' r')
      (resolveClause? ⟨origin, index, slot⟩ place r)
      (resolveClause? ⟨origin', index, slot⟩ place r') := by
  have hother : ∀ key, key ≠ "value" → ClauseParts origin origin' key = Eq :=
    fun key hkey => if_neg hkey
  refine (resolveClause?_cases slot (lookupEntry_eq_of_rel rfl (h "value"))).imp ?_
  rintro s s' (⟨rfl, rfl⟩ | ⟨p, rfl, rfl⟩)
  · refine ⟨h.change "value" ?_ hother, .refl, .refl⟩
    exact rel_imp (h "value") fun v _ hvw => hvw ▸ .same v
  · refine ⟨h.withEntry rfl ?_ hother, sameBut_withEntry _, sameBut_withEntry _⟩
    exact .callable (.predicate p index slot)

/-- The second clause of a condition, where it stands under a name. -/
def resolveSecond? (origin : Origin) (index : Nat) (place name : String)
    (condition : List (Value × Value)) : Load (List (Value × Value)) :=
  match recordAt? name condition with
  | none => .ok condition
  | some second => do
    let second ← resolveClause? ⟨origin, index, .second⟩ (place ++ ".and") second
    return withEntry name (.dict second) condition

/-- The second clause is resolved where it stands: nothing is there under its other name. -/
theorem resolveSeconds_eq {name : String} (hname : name ∈ spellings "and")
    (honly : ∀ other ∈ spellings "and", other ≠ name →
      Value.lookupEntry (.text other) r = none) :
    ["and", "and_"].foldlM (fun r key => resolveSecond? origin index place key r) r =
      resolveSecond? origin index place name r := by
  have hskip : ∀ other s, Value.lookupEntry (.text other) s = none →
      resolveSecond? origin index place other s = .ok s := by
    intro other s hnone
    rw [resolveSecond?, recordAt?, hnone]
  simp only [List.foldlM_cons, List.foldlM_nil, bind_pure]
  rcases List.mem_pair.mp (show name ∈ ["and", "and_"] from hname) with rfl | rfl
  · have hnone := honly "and_" (by decide) (by decide)
    cases hresolved : resolveSecond? origin index place "and" r with
    | error e => rfl
    | ok s =>
      refine hskip "and_" s ?_
      rw [← hnone]
      exact sameBut_part hresolved "and_" (by decide)
  · rw [hskip "and" r (honly "and" (by decide) (by decide))]
    rfl

/-- Conditions whose first clauses are counterparts are so themselves, once their second clauses
are. -/
theorem conditionParts_of_second {s s' : List (Value × Value)}
    (h : PartsRel (ClauseParts origin origin') r r')
    (hsecond : Option.Rel (RecordsRel (PartsRel (ClauseParts origin origin'))) (part? s "and")
      (part? s' "and"))
    (hs : ∀ key ∉ spellings "and", part? s key = part? r key)
    (hs' : ∀ key ∉ spellings "and", part? s' key = part? r' key) :
    PartsRel (ConditionParts origin origin') s s' := by
  intro key
  by_cases hkey : key ∈ spellings "and"
  · rw [ConditionParts, if_pos hkey, part?_eq_of_mem hkey, part?_eq_of_mem hkey]
    exact hsecond
  · rw [ConditionParts, if_neg hkey, hs key hkey, hs' key hkey]
    exact h key

/-- **Resolving the second clauses** of conditions in which the same stands under its key makes
counterparts. -/
theorem resolveSeconds_alike {o : Option Value} (h : PartsRel (ClauseParts origin origin') r r')
    (ho : StandsUnder r "and" o) (ho' : StandsUnder r' "and" o) :
    Load.Alike (PartsRel (ConditionParts origin origin'))
      (["and", "and_"].foldlM (fun r key => resolveSecond? origin index place key r) r)
      (["and", "and_"].foldlM (fun r key => resolveSecond? origin' index place key r) r') := by
  have hpart : part? r "and" = part? r' "and" := ho.part?_eq.trans ho'.part?_eq.symm
  obtain ⟨name, hname, hr, honly⟩ := ho
  obtain ⟨name', hname', hr', honly'⟩ := ho'
  have hsame : recordAt? name r = recordAt? name' r' := by
    rw [recordAt?, recordAt?, hr, hr']
  rw [resolveSeconds_eq hname honly, resolveSeconds_eq hname' honly', resolveSecond?,
    resolveSecond?, hsame]
  cases recordAt? name' r' with
  | none =>
    refine .loaded (conditionParts_of_second h ?_ (fun _ _ => rfl) fun _ _ => rfl)
    rw [hpart]
    exact rel_refl RecordsRel.same _
  | some second =>
    have hrefl : PartsRel (fun _ => Eq) second second := fun key => rel_of_eq rfl
    refine (resolveClause?_alike .second hrefl).bind ?_
    rintro s s' ⟨hs, -, -⟩
    refine .loaded (conditionParts_of_second h ?_ ?_ ?_)
    · rw [part?_withEntry_of_mem hname honly, part?_withEntry_of_mem hname' honly']
      exact .some (.records hs)
    · exact fun key hkey => part?_withEntry_of_not_mem (not_mem_spellings hkey hname)
    · exact fun key hkey => part?_withEntry_of_not_mem (not_mem_spellings hkey hname')

/-- What stands under a key stands there still when what is there under another name changes. -/
theorem StandsUnder.of_sameBut {s : List (Value × Value)} {key name : String} {o : Option Value}
    (h : StandsUnder r key o) (hbut : SameBut name s r) (hname : name ∉ spellings key) :
    StandsUnder s key o := by
  obtain ⟨spelling, hspelling, hlookup, honly⟩ := h
  have hother : ∀ other ∈ spellings key, other ≠ name := by
    rintro other hother rfl
    exact hname hother
  refine ⟨spelling, hspelling, (hbut spelling (hother _ hspelling)).trans hlookup, ?_⟩
  intro other hmem hne
  exact (hbut other (hother _ hmem)).trans (honly other hmem hne)

/-- **Resolving a condition** in which keys are spelled otherwise makes a counterpart of the
condition. -/
theorem resolveCondition?_alike (h : SpelledOnce r) (swap : String → Bool) :
    Load.Alike (PartsRel (ConditionParts origin origin'))
      (resolveCondition? origin index place r)
      (resolveCondition? origin' index place (respellKeys swap r)) := by
  obtain ⟨o, ho⟩ := exists_standsUnder h "and"
  refine (resolveClause?_alike .condition (partsRel_respellKeys h swap)).bind ?_
  rintro s s' ⟨hs, hbut, hbut'⟩
  exact resolveSeconds_alike hs (ho.of_sameBut hbut (by decide))
    ((ho.respellKeys swap).of_sameBut hbut' (by decide))

/-- **Making a rule** for two forms makes a rule and its counterpart. -/
theorem resolveRule?_alike (named : List (Value × Value)) :
    Load.Alike (Value.RuleCounterpart origin origin')
      (resolveRule? ⟨origin, index, .rule⟩ place named)
      (resolveRule? ⟨origin', index, .rule⟩ place named) := by
  unfold resolveRule?
  cases Value.lookupEntry (.text "rule") named with
  | none => exact .failed _
  | some name =>
    refine .after _ fun _ => .after _ fun shown => ?_
    dsimp only
    split
    · exact .failed _
    split
    · refine .after _ fun entries => ?_
      split
      · exact .loaded (.rule (.test _ index .rule) _)
      · exact .failed _
      · exact .failed _
      · exact .failed _
    · exact .failed _

/-- What is there under a name is a record with keys spelled otherwise, or is the same and no
record. -/
theorem recordAt?_cases {swap : String → Bool} {name : String} (hname : spellings name = [name])
    (h : Option.Rel (Respelt swap) (part? r name) (part? r' name)) :
    (∃ part, recordAt? name r = some part ∧ recordAt? name r' = some (respellKeys swap part) ∧
      SpelledOnce part) ∨
    (recordAt? name r = none ∧ recordAt? name r' = none ∧ part? r name = part? r' name) := by
  rw [recordAt?, recordAt?, ← part?_single hname, ← part?_single hname]
  generalize part? r name = o at h
  generalize part? r' name = o' at h
  cases h with
  | none => exact .inr ⟨rfl, rfl, rfl⟩
  | @some v w h =>
    obtain ⟨rfl, honce⟩ := h
    cases v with
    | dict part => exact .inl ⟨part, rfl, rfl, honce part rfl⟩
    | _ => exact .inr ⟨rfl, rfl, rfl⟩

section Fields

variable {C V : Value → Value → Prop} {swap : String → Bool}

/-- **Resolving the condition of a field** in which keys are spelled otherwise makes a counterpart
of the condition. -/
theorem resolveFieldCondition?_alike (h : PartsRel (FieldParts (Respelt swap) V) r r') :
    Load.Alike (PartsRel (FieldParts (RecordsRel (PartsRel (ConditionParts origin origin'))) V))
      (resolveFieldCondition? origin index place r)
      (resolveFieldCondition? origin' index place r') := by
  have hothers : ∀ key, key ≠ "conditional" →
      FieldParts (RecordsRel (PartsRel (ConditionParts origin origin'))) V key =
        FieldParts (Respelt swap) V key := by
    intro key hkey
    rw [FieldParts, FieldParts, if_neg hkey, if_neg hkey]
  unfold resolveFieldCondition?
  rcases recordAt?_cases rfl (h "conditional") with ⟨part, hr, hr', honce⟩ | ⟨hr, hr', hsame⟩
  · rw [hr, hr']
    refine (resolveCondition?_alike honce swap).bind fun s s' hs => .loaded ?_
    exact h.withEntry rfl (.records hs) hothers
  · rw [hr, hr']
    refine .loaded (h.change "conditional" ?_ hothers)
    rw [hsame]
    exact rel_refl RecordsRel.same _

/-- **Making the rule of a field** in which keys are spelled otherwise makes a counterpart of the
rule. -/
theorem resolveFieldRule?_alike (h : PartsRel (FieldParts C (Respelt swap)) r r') :
    Load.Alike (PartsRel (FieldParts C (RecordsRel (PartsRel (ConstraintParts origin origin')))))
      (resolveFieldRule? origin index place r) (resolveFieldRule? origin' index place r') := by
  have hothers : ∀ key, key ≠ "validation" →
      FieldParts C (RecordsRel (PartsRel (ConstraintParts origin origin'))) key =
        FieldParts C (Respelt swap) key := by
    intro key hkey
    rw [FieldParts, FieldParts, if_neg hkey, if_neg hkey]
  have hrest : ∀ key, key ≠ "custom" → ConstraintParts origin origin' key = Eq :=
    fun key hkey => if_neg hkey
  unfold resolveFieldRule?
  rcases recordAt?_cases rfl (h "validation") with ⟨part, hr, hr', honce⟩ | ⟨hr, hr', hsame⟩
  · have hparts := partsRel_respellKeys honce swap
    have hnamed : recordAt? "custom" part = recordAt? "custom" (respellKeys swap part) := by
      rw [recordAt?, lookupEntry_eq_of_rel rfl (hparts "custom")]
      rfl
    rw [hr, hr']
    dsimp only
    rw [← hnamed]
    cases recordAt? "custom" part with
    | none =>
      have hown : PartsRel (ConstraintParts origin origin') part (respellKeys swap part) := by
        refine hparts.change "custom" ?_ hrest
        exact rel_imp (hparts "custom") fun v _ hvw => hvw ▸ .same v
      refine .loaded (h.change "validation" ?_ hothers)
      rw [part?_single rfl, part?_single rfl, recordAt?_eq_some hr, recordAt?_eq_some hr']
      exact .some (.records hown)
    | some named =>
      refine (resolveRule?_alike named).bind fun rule rule' hrule => .loaded ?_
      exact h.withEntry rfl (.records (hparts.withEntry rfl hrule hrest)) hothers
  · rw [hr, hr']
    refine .loaded (h.change "validation" ?_ hothers)
    rw [hsame]
    exact rel_refl RecordsRel.same _

/-- Finding the cleaner of a field comes to the same where the same name stands. -/
theorem resolveFieldCleaner?_alike (h : PartsRel (FieldParts C V) r r') :
    Load.Alike (PartsRel (FieldParts C V)) (resolveFieldCleaner? place r)
      (resolveFieldCleaner? place r') := by
  unfold resolveFieldCleaner?
  rw [← lookupEntry_eq_of_rel rfl (h "sanitizer")]
  split
  · split
    · exact .loaded (h.withEntry rfl rfl fun _ _ => rfl)
    · exact .failed _
  · exact .loaded h

end Fields

/-- **Resolving a field** in which keys are spelled otherwise makes a counterpart of the field. -/
theorem resolveField?_alike {data : Value}
    (h : ∀ field, data = .dict field → FieldSpelledOnce field) (swap : RecordSort → String → Bool) :
    Load.Alike (FieldRecords origin origin') (resolveField? origin index data)
      (resolveField? origin' index (respellField swap data)) := by
  cases data with
  | dict record =>
    obtain ⟨r, hr, hparts⟩ := respellField_parts (h record rfl) swap
    rw [hr, resolveField?, resolveField?, ← lookupEntry_eq_of_rel rfl (hparts "name")]
    refine .after _ fun name => ?_
    refine (resolveFieldCondition?_alike hparts).bind fun s s' hs => ?_
    refine (resolveFieldRule?_alike hs).bind fun t t' ht => ?_
    exact (resolveFieldCleaner?_alike ht).bind fun u u' hu => .loaded ⟨u, u', rfl, rfl, hu⟩
  | _ => exact .failed _

end Resolving

/-! ## Forms -/

section Forms

variable {origin origin' : Origin} {items : List Value}

/-- **Resolving fields** in which keys are spelled otherwise makes counterparts of the fields. -/
theorem resolveFields_alike (h : ∀ field, .dict field ∈ items → FieldSpelledOnce field)
    (change : Respelling) :
    Load.Alike (List.Forall₂ (FieldRecords origin origin'))
      (items.zipIdx.mapM fun (item, i) => resolveField? origin i item)
      ((items.mapIdx fun i item => respellField (change i) item).zipIdx.mapM
        fun (item, i) => resolveField? origin' i item) := by
  refine .mapM (List.forall₂_iff_get.mpr ⟨by simp, fun i hi hi' => ?_⟩)
  simp only [List.get_eq_getElem, List.getElem_zipIdx, List.getElem_mapIdx, Nat.zero_add]
  refine resolveField?_alike (fun field hfield => h field ?_) (change i)
  rw [← hfield]
  exact List.getElem_mem _

/-- What comes of fields: a form if no name is repeated, and else the repeated names. -/
theorem Form.of?_cases (name : String) (fields : List Field) :
    (repeatedNames (fieldNames fields) = [] ∧
      ∃ h, Form.of? name fields = .ok ⟨name, fields, h⟩) ∨
    (repeatedNames (fieldNames fields) ≠ [] ∧
      Form.of? name fields = .error (.repeatedNames (repeatedNames (fieldNames fields)))) := by
  unfold Form.of?
  split
  next h => exact .inl ⟨h, (repeatedNames_eq_nil_iff _).1 h, rfl⟩
  next h => exact .inr ⟨h, rfl⟩

/-- A form is made of its own fields. -/
theorem Form.of?_fields (form : Form) : Form.of? form.name form.fields = .ok form := by
  rcases Form.of?_cases form.name form.fields with ⟨-, _, h⟩ | ⟨hr, -⟩
  · exact h
  · exact absurd ((repeatedNames_eq_nil_iff _).mpr form.distinct) hr

/-- What comes of the resolved data of fields. -/
def formOf? (source : String) (name : Value) (fields : List Value) : Load Form :=
  match readForm name fields with
  | .error f => .error (.fault f)
  | .ok (.error issues) => .error (.refused (.invalid source) issues)
  | .ok (.ok (name, fields)) =>
    match Form.of? name fields with
    | .ok form => return form
    | .error m => refuse (.misfit source m)

/-- If the fields of a form are read, it is that form. -/
theorem formOf?_eq_ok {source : String} {name : Value} {fields : List Value} {form : Form}
    (h : readForm name fields = .good (form.name, form.fields)) :
    formOf? source name fields = .ok form := by
  unfold formOf?
  rw [h]
  show (match Form.of? form.name form.fields with
    | .ok form => .ok form
    | .error m => refuse (.misfit source m) : Load Form) = _
  rw [Form.of?_fields]

/-- The name of the form that a record describes. -/
def formName (source : String) (record : List (Value × Value)) : Value :=
  let given := (Value.lookupEntry (.text "name") record).getD .null
  if given.truthy then given else .text (Path.stem source)

/-- The form that data with fields describes is what comes of its fields, once they are resolved. -/
theorem ofData?_eq_bind {source : String} {record : List (Value × Value)}
    (h : Value.lookupEntry (.text "fields") record = some (.list items)) :
    Form.ofData? origin source (.dict record) =
      items.zipIdx.mapM (fun (item, i) => resolveField? origin i item) >>=
        formOf? source (formName source record) := by
  rw [Form.ofData?]
  dsimp only
  rw [h]
  rfl

/-- **Fields that are read alike** make a form and its counterpart, or are refused for the same
reason. -/
theorem formOf?_alike (source : String) (name : Value) {fields fields' : List Value}
    (h : List.Forall₂ (FieldRecords origin origin') fields fields') :
    Load.Alike (Form.Counterpart origin origin') (formOf? source name fields)
      (formOf? source name fields') := by
  have hread := readForm_alike name h
  unfold formOf?
  generalize readForm name fields = read at hread
  generalize readForm name fields' = read' at hread
  cases hread with
  | halt f => exact .failed _
  | issues hfound => exact .refused _ hfound
  | @value form form' hread =>
    obtain ⟨name, fields⟩ := form
    obtain ⟨name', fields'⟩ := form'
    obtain ⟨rfl, hcounterparts⟩ := hread
    have hnames : fieldNames fields = fieldNames fields' :=
      fieldNames_eq_of_counterpart hcounterparts
    dsimp only
    rcases Form.of?_cases name fields with ⟨hr, _, hform⟩ | ⟨hr, hform⟩ <;>
      rcases Form.of?_cases name fields' with ⟨hr', _, hform'⟩ | ⟨hr', hform'⟩
    · rw [hform, hform']
      exact .loaded ⟨rfl, hcounterparts⟩
    · exact absurd (hnames ▸ hr) hr'
    · exact absurd (hnames ▸ hr') hr
    · rw [hform, hform', hnames]
      exact .refused _ rfl

/-- **Data in which keys are spelled otherwise** makes a counterpart of the form, or is refused for
the same reason. -/
theorem ofData?_alike {data : Value} (h : DataSpelledOnce data) (change : Respelling)
    (source : String) :
    Load.Alike (Form.Counterpart origin origin') (Form.ofData? origin source data)
      (Form.ofData? origin' source (respell change data)) := by
  cases data with
  | dict record =>
    let changed := changeUnder "fields" (respellFields change) record
    have hfields : Value.lookupEntry (.text "fields") changed =
        (Value.lookupEntry (.text "fields") record).map (respellFields change) := by
      rw [lookupEntry_changeUnder, if_pos rfl]
    have hname : formName source changed = formName source record := by
      rw [formName, lookupEntry_changeUnder, if_neg (show "name" ≠ "fields" by decide)]
      rfl
    show Load.Alike _ _ (Form.ofData? origin' source (.dict changed))
    cases hitems : Value.lookupEntry (.text "fields") record with
    | none =>
      rw [Form.ofData?, Form.ofData?, hfields, hitems]
      exact .refused _ rfl
    | some items =>
      rw [hitems] at hfields
      cases items with
      | list items =>
        rw [ofData?_eq_bind hitems, ofData?_eq_bind hfields, hname]
        exact (resolveFields_alike (h record items rfl hitems) change).bind fun _ _ hresolved =>
          formOf?_alike source _ hresolved
      | _ =>
        rw [Form.ofData?, Form.ofData?, hfields, hitems]
        exact .refused _ rfl
  | _ => exact .failed _

end Forms

/-- **Data in which keys are spelled otherwise means the same**: it makes a form exactly if the data
does, and then the form is the counterpart of the other one, cleans all answers as the other does,
and says the same about them. -/
theorem respell_means_same {data : Value} (h : DataSpelledOnce data) (change : Respelling)
    (source : String) (origin origin' : Origin) :
    ((∃ form, Form.ofData? origin source data = .ok form) ↔
      ∃ form', Form.ofData? origin' source (respell change data) = .ok form') ∧
    ∀ form form', Form.ofData? origin source data = .ok form →
      Form.ofData? origin' source (respell change data) = .ok form' →
      form.Counterpart origin origin' form' ∧
      (∀ host answers, sanitize host form.fields answers = sanitize host form'.fields answers) ∧
      ∀ host answers, validate? host form.fields answers = validate? host form'.fields answers := by
  have halike : Load.Alike (Form.Counterpart origin origin') (Form.ofData? origin source data)
      (Form.ofData? origin' source (respell change data)) := ofData?_alike h change source
  obtain ⟨hboth, hrelated⟩ := halike.exists_ok
  refine ⟨hboth, fun form form' hform hform' => ?_⟩
  have hcounterpart := hrelated form form' hform hform'
  exact ⟨hcounterpart, sanitize_eq_of_counterpart hcounterpart.fields,
    validate?_eq_of_counterpart hcounterpart.fields⟩

/-- The record of a field with a rule of its own.  What it has for a default looks like a record of
a condition. -/
def topicsRecord (least preset : String) (own : Value) : List (Value × Value) :=
  [(.text "name", .text "topics"), (.text "type", .text "multiSelect"),
   (.text preset, .dict [(.text "and", .text "helpText")]),
   (.text "validation", .dict [(.text least, .int 2), (.text "custom", own)])]

/-- The record of a field that is shown if the topics obey two clauses. -/
def remarkRecord (second help : String) (first other : Value) : List (Value × Value) :=
  [(.text "name", .text "remark"), (.text "type", .text "text"), (.text help, .text "Why?"),
   (.text "conditional", .dict [(.text "field", .text "topics"), (.text "value", first),
     (.text second, .dict [(.text "field", .text "topics"), (.text "value", other)])])]

/-- The data of two such fields, in which a rule and two predicates are named. -/
def visitFields (least preset second help : String) : List Value :=
  [.dict (topicsRecord least preset (.dict [(.text "rule", .text "unique_items")])),
   .dict (remarkRecord second help (.dict [(.text "predicate", .text "not_empty")])
     (.dict [(.text "predicate", .text "contains"), (.text "arg", .text "other")]))]

/-- The data of a form with these fields. -/
def visitData (least preset second help : String) : Value :=
  .dict [(.text "name", .text "visit"),
    (.text "fields", .list (visitFields least preset second help))]

theorem visitData_fields (least preset second help : String) :
    Value.lookupEntry (.text "fields") [(.text "name", .text "visit"),
      (.text "fields", .list (visitFields least preset second help))] =
        some (.list (visitFields least preset second help)) := by
  rw [Value.lookupEntry_cons, if_neg (by simp [Value.eqv_text]), Value.lookupEntry_cons,
    if_pos (Value.eqv_text.mpr rfl)]

/-- The first field of the form. -/
def topicsField (own : OwnRule) : Field where
  name := "topics"
  type := .multiSelect
  constraints := { minItems := some 2, own := some own }
  preset := .dict [(.text "and", .text "helpText")]

/-- The second field of the form. -/
def remarkField (first other : Callable Value) : Field where
  name := "remark"
  type := .text
  condition := some ⟨⟨"topics", .callable first⟩, false, some ⟨"topics", .callable other⟩⟩
  help := some "Why?"

/-- The form that the data describes. -/
def visitForm (origin : Origin) : Form where
  name := "visit"
  fields :=
    [topicsField ⟨.test .uniqueItems ⟨origin, 0, .rule⟩, "Each value can only be added once"⟩,
     remarkField (.predicate .notEmpty ⟨origin, 1, .condition⟩)
      (.predicate (.contains (.text "other")) ⟨origin, 1, .second⟩)]
  distinct := show ["topics", "remark"].Nodup by decide

theorem readField_topics (test : Callable Value) (message : String) :
    readField (.dict (topicsRecord "minItems" "default_value" (.rule test message))) =
      .good (topicsField ⟨test, message⟩) := by
  have hsize : readOption (readIntegerFrom 0) (.int 2) = .good (some 2) := rfl
  simp [readField, readRecord, readPart, readPartOr, entryOf?, Value.lookupEntry, Value.eqv_text,
    topicsRecord, readConstraints, readConstraintParts, hsize]
  rfl

theorem readField_remark (first other : Callable Value) :
    readField (.dict (remarkRecord "and" "helpText" (.callable first) (.callable other))) =
      .good (remarkField first other) := by
  simp [readField, readRecord, readPart, readPartOr, entryOf?, Value.lookupEntry, Value.eqv_text,
    remarkRecord, readOption, readCondition, readClauseParts, readClause]
  rfl

/-- The data of the fields once the names in it are resolved. -/
def resolvedVisitFields (origin : Origin) : List Value :=
  [.dict (topicsRecord "minItems" "default_value"
     (.rule (.test .uniqueItems ⟨origin, 0, .rule⟩) "Each value can only be added once")),
   .dict (remarkRecord "and" "helpText"
     (.callable (.predicate .notEmpty ⟨origin, 1, .condition⟩))
     (.callable (.predicate (.contains (.text "other")) ⟨origin, 1, .second⟩)))]

/-- The data describes the form. -/
theorem ofData?_visitData (origin : Origin) :
    Form.ofData? origin "<data>" (visitData "minItems" "default_value" "and" "helpText") =
      .ok (visitForm origin) := by
  have hresolved : (visitFields "minItems" "default_value" "and" "helpText").zipIdx.mapM
      (fun p => resolveField? origin p.2 p.1) = .ok (resolvedVisitFields origin) := by
    cbv
  have hread : readForm (.text "visit") (resolvedVisitFields origin) =
      .good ("visit", (visitForm origin).fields) := by
    rw [readForm, resolvedVisitFields, readItems, readItems, readItems, readField_topics,
      readField_remark]
    rfl
  have hname : formName "<data>" [(.text "name", .text "visit"), (.text "fields", .list
      (visitFields "minItems" "default_value" "and" "helpText"))] = .text "visit" := by
    rw [formName, Value.lookupEntry_cons, if_pos (Value.eqv_text.mpr rfl)]
    rfl
  rw [visitData, ofData?_eq_bind (visitData_fields _ _ _ _), hresolved, hname]
  exact formOf?_eq_ok hread

/-- In this data no key is there in both spellings. -/
theorem visitData_spelledOnce :
    DataSpelledOnce (visitData "minItems" "default_value" "and" "helpText") := by
  have htopics : ∀ own, FieldSpelledOnce (topicsRecord "minItems" "default_value" own) := by
    refine fun own =>
      ⟨.of_keys ["name", "type", "default_value", "validation"] rfl (by decide), ?_, ?_⟩
    · intro part hpart
      cases hpart.symm.trans (show recordAt? "validation" _ = some [(Value.text "minItems", _),
        (.text "custom", _)] by cbv)
      exact .of_keys ["minItems", "custom"] rfl (by decide)
    · intro part hpart
      cases hpart.symm.trans (show recordAt? "conditional" _ = none by cbv)
  have hremark : ∀ first other, FieldSpelledOnce (remarkRecord "and" "helpText" first other) := by
    refine fun first other =>
      ⟨.of_keys ["name", "type", "helpText", "conditional"] rfl (by decide), ?_, ?_⟩
    · intro part hpart
      cases hpart.symm.trans (show recordAt? "validation" _ = none by cbv)
    · intro part hpart
      cases hpart.symm.trans (show recordAt? "conditional" _ = some [(Value.text "field", _),
        (.text "value", _), (.text "and", _)] by cbv)
      exact .of_keys ["field", "value", "and"] rfl (by decide)
  intro record items hrecord hitems field hfield
  cases hrecord
  cases (visitData_fields _ _ _ _).symm.trans hitems
  rcases List.mem_pair.mp hfield with h | h
  · cases h
    exact htopics _
  · cases h
    exact hremark _ _

theorem respell_visitData :
    respell (fun _ _ _ => true) (visitData "minItems" "default_value" "and" "helpText") =
      visitData "min_items" "defaultValue" "and_" "help_text" ∧
    ∃ form', Form.ofData? (.read 1) "<data>"
        (visitData "min_items" "defaultValue" "and_" "help_text") = .ok form' ∧
      (visitForm (.read 0)).Counterpart (.read 0) (.read 1) form' ∧
      (∀ host answers, sanitize host (visitForm (.read 0)).fields answers =
        sanitize host form'.fields answers) ∧
      ∀ host answers, validate? host (visitForm (.read 0)).fields answers =
        validate? host form'.fields answers := by
  have hrespelled :
      respell (fun _ _ _ => true) (visitData "minItems" "default_value" "and" "helpText") =
        visitData "min_items" "defaultValue" "and_" "help_text" := by
    cbv
  obtain ⟨hboth, hmeans⟩ := respell_means_same visitData_spelledOnce (fun _ _ _ => true) "<data>"
    (.read 0) (.read 1)
  rw [hrespelled] at hboth hmeans
  obtain ⟨form', hform'⟩ := hboth.mp ⟨_, ofData?_visitData _⟩
  exact ⟨hrespelled, form', hform', hmeans _ form' (ofData?_visitData _) hform'⟩

end Intake
