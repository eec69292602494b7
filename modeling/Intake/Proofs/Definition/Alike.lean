import Intake.Proofs.Definition.Spelling
import Intake.Proofs.Form.Counterpart

/-!
# Records that are read alike

A reader takes parts from a record, and each part it reads in turn.  So two records are **read
alike** if their parts are, one by one: both give values that correspond to each other, or the same
issues at the same places, or the same fault.  Under which spelling of its key a part is found shows
in the places of issues only.

* `Reading.Alike` relates readings, and `Reading.Alike.seq` and others put them together;
* `PartsRel` relates records part by part, and `readPart_alike` says that related parts are read
  alike;
* `FieldParts` says which parts of two fields' records have to be related, and how;
* `readForm_alike` is the conclusion: fields whose parts are so related make counterparts.
-/

namespace Intake

/-! ## Issues -/

/-- A step with its key in the spelling that readers look for first. -/
def Step.plain : Step → Step
  | .key name => .key ((spellings name).headD name)
  | .item index => .item index

/-- An issue with its place in such spellings. -/
def Issue.plain (i : Issue) : Issue := { i with place := i.place.map Step.plain }

/-- Keys that are spellings of one key lead to one place. -/
theorem Step.plain_key_eq {key first second : String} (hfirst : first ∈ spellings key)
    (hsecond : second ∈ spellings key) : (Step.key first).plain = (Step.key second).plain := by
  have hhead : ∀ {name}, name ∈ spellings key →
      (spellings name).headD name = (spellings key).headD "" := by
    intro name hname
    rw [spellings_eq_of_mem hname]
    cases hspellings : spellings key with
    | nil => simp [hspellings] at hname
    | cons => rfl
  rw [Step.plain, Step.plain, hhead hfirst, hhead hsecond]

/-! ## Readings -/

namespace Reading

variable {α β γ δ : Type} {S : α → β → Prop} {T : γ → δ → Prop}

/-- Two readings are **alike** if they give related values, or the same issues but for the spelling
of keys, or halt for the same fault. -/
inductive Alike (S : α → β → Prop) : Reading α → Reading β → Prop where
  | halt (f : Fault) : Alike S (.error f) (.error f)
  | issues {found found' : List Issue} (h : found.map Issue.plain = found'.map Issue.plain) :
      Alike S (.ok (.error found)) (.ok (.error found'))
  | value {a : α} {b : β} (h : S a b) : Alike S (.ok (.ok a)) (.ok (.ok b))

namespace Alike

theorem refl {S : α → α → Prop} (h : ∀ a, S a a) (r : Reading α) : Alike S r r := by
  rcases r with f | found | a
  · exact .halt f
  · exact .issues rfl
  · exact .value (h a)

/-- Readings one after another are alike if both are. -/
theorem both {f : Reading (α → γ)} {g : Reading (β → δ)} {x : Unit → Reading α}
    {y : Unit → Reading β} (hf : Alike (fun f g => ∀ a b, S a b → T (f a) (g b)) f g)
    (hx : Alike S (x ()) (y ())) : Alike T (Reading.both f x) (Reading.both g y) := by
  cases hf with
  | halt e => exact .halt e
  | issues hfound =>
    unfold Reading.both
    generalize x () = x at hx
    generalize y () = y at hx
    cases hx with
    | halt e => exact .halt e
    | issues hmore => exact .issues (by rw [List.map_append, List.map_append, hfound, hmore])
    | value => exact .issues hfound
  | value hfg =>
    unfold Reading.both
    generalize x () = x at hx
    generalize y () = y at hx
    cases hx with
    | halt e => exact .halt e
    | issues hmore => exact .issues hmore
    | value hab => exact .value (hfg _ _ hab)

theorem seq {f : Reading (α → γ)} {g : Reading (β → δ)} {x : Reading α} {y : Reading β}
    (hf : Alike (fun f g => ∀ a b, S a b → T (f a) (g b)) f g) (hx : Alike S x y) :
    Alike T (f <*> x) (g <*> y) := hf.both hx

/-- What values are changed into is related if the changes keep to the relations. -/
theorem map {f : α → γ} {g : β → δ} {x : Reading α} {y : Reading β}
    (hfg : ∀ a b, S a b → T (f a) (g b)) (hx : Alike S x y) : Alike T (f <$> x) (g <$> y) :=
  (Alike.value hfg).seq hx

/-- Alike readings are so seen from further out, by steps to one place. -/
theorem under {x : Reading α} {y : Reading β} {step step' : Step} (hstep : step.plain = step'.plain)
    (h : Alike S x y) : Alike S (x.under step) (y.under step') := by
  cases h with
  | halt f => exact .halt f
  | value h => exact .value h
  | issues h =>
    refine .issues ?_
    have hplain : ∀ (step : Step) (found : List Issue), (found.map (Issue.under step)).map
        Issue.plain = (found.map Issue.plain).map (Issue.under step.plain) := by
      intro step found
      rw [List.map_map, List.map_map]
      rfl
    rw [hplain, hplain, h, hstep]

theorem andThen {x : Reading α} {y : Reading β} {f : α → Reading γ} {g : β → Reading δ}
    (h : Alike S x y) (hfg : ∀ a b, S a b → Alike T (f a) (g b)) :
    Alike T (x.andThen f) (y.andThen g) := by
  cases h with
  | halt f => exact .halt f
  | issues h => exact .issues h
  | value h => exact hfg _ _ h

end Alike

end Reading

open Reading

section Parts

variable {α : Type} {S : α → α → Prop} {R : Value → Value → Prop} {read : Value → Reading α}
  {r r' : List (Value × Value)} {key : String}

/-- Related items are read alike. -/
theorem readItems_alike {items items' : List Value} {index : Nat}
    (h : List.Forall₂ (fun v w => Alike S (read v) (read w)) items items') :
    Alike (List.Forall₂ S) (readItems read index items) (readItems read index items') := by
  induction h generalizing index with
  | nil => exact .value .nil
  | cons hfirst _ ih =>
    refine Alike.both (S := List.Forall₂ S) ?_ ih
    exact (hfirst.under rfl).andThen fun a b hab => .value fun _ _ hrest => .cons hab hrest

/-- A part that is taken from both records is found under spellings that lead to one place. -/
theorem part?_cases (h : Option.Rel R (part? r key) (part? r' key)) :
    (entryOf? r (spellings key) = none ∧ entryOf? r' (spellings key) = none) ∨
      ∃ first second v w, entryOf? r (spellings key) = some (first, v) ∧
        entryOf? r' (spellings key) = some (second, w) ∧ R v w ∧
        (Step.key first).plain = (Step.key second).plain := by
  unfold part? at h
  cases hfirst : entryOf? r (spellings key) with
  | none =>
    cases hsecond : entryOf? r' (spellings key) with
    | none => exact .inl ⟨rfl, rfl⟩
    | some e =>
      rw [hfirst, hsecond] at h
      cases h
  | some e =>
    cases hsecond : entryOf? r' (spellings key) with
    | none =>
      rw [hfirst, hsecond] at h
      cases h
    | some e' =>
      rw [hfirst, hsecond] at h
      cases h with
      | some h =>
        exact .inr ⟨e.1, e'.1, e.2, e'.2, rfl, rfl, h,
          Step.plain_key_eq (mem_of_entryOf? hfirst) (mem_of_entryOf? hsecond)⟩

/-- **Related parts are read alike**, if the values in them are. -/
theorem readPart_alike (h : Option.Rel R (part? r key) (part? r' key))
    (hread : ∀ v w, R v w → Alike S (read v) (read w)) :
    Alike S (readPart r (spellings key) read) (readPart r' (spellings key) read) := by
  unfold readPart
  rcases part?_cases h with ⟨hnone, hnone'⟩ | ⟨first, second, v, w, hfirst, hsecond, hR, hplace⟩
  · rw [hnone, hnone']
    exact .issues rfl
  · rw [hfirst, hsecond]
    exact (hread v w hR).under hplace

/-- So are parts that may be missing, if what stands for them is related to itself. -/
theorem readPartOr_alike {other : α} (h : Option.Rel R (part? r key) (part? r' key))
    (hread : ∀ v w, R v w → Alike S (read v) (read w)) (hother : S other other) :
    Alike S (readPartOr r (spellings key) other read)
      (readPartOr r' (spellings key) other read) := by
  unfold readPartOr
  rcases part?_cases h with ⟨hnone, hnone'⟩ | ⟨first, second, v, w, hfirst, hsecond, hR, hplace⟩
  · rw [hnone, hnone']
    exact .value hother
  · rw [hfirst, hsecond]
    exact (hread v w hR).under hplace

/-- Where both records have one part, it is read the same. -/
theorem readPart_same (h : Option.Rel Eq (part? r key) (part? r' key)) :
    Alike Eq (readPart r (spellings key) read) (readPart r' (spellings key) read) :=
  readPart_alike h fun _ _ hvw => hvw ▸ .refl (fun _ => rfl) _

theorem readPartOr_same {other : α} (h : Option.Rel Eq (part? r key) (part? r' key)) :
    Alike Eq (readPartOr r (spellings key) other read)
      (readPartOr r' (spellings key) other read) :=
  readPartOr_alike h (fun _ _ hvw => hvw ▸ .refl (fun _ => rfl) _) rfl

end Parts

/-! ## Records and their counterparts -/

/-- The parts of two records are related under each key, in the way that is laid down for it. -/
def PartsRel (R : String → Value → Value → Prop) (r r' : List (Value × Value)) : Prop :=
  ∀ key, Option.Rel (R key) (part? r key) (part? r' key)

section PartsRel

variable {r r' : List (Value × Value)} {name : String} {v w : Value}
  {R S : String → Value → Value → Prop}

/-- If the part under a name is the same, so is what is there under it. -/
theorem lookupEntry_eq_of_rel (hname : spellings name = [name])
    (h : Option.Rel Eq (part? r name) (part? r' name)) :
    Value.lookupEntry (.text name) r = Value.lookupEntry (.text name) r' := by
  rw [← part?_single hname, ← part?_single hname]
  exact eq_of_rel h

/-- Spelling keys otherwise leaves all parts the same. -/
theorem partsRel_respellKeys (h : SpelledOnce r) (swap : String → Bool) :
    PartsRel (fun _ => Eq) r (respellKeys swap r) :=
  fun key => rel_of_eq (part?_respellKeys h swap key).symm

/-- **Replacing a part** of two records by related values keeps them related. -/
theorem PartsRel.withEntry (h : PartsRel R r r') (hname : spellings name = [name])
    (hv : S name v w) (hS : ∀ key, key ≠ name → S key = R key) :
    PartsRel S (withEntry name v r) (withEntry name w r') := by
  intro key
  by_cases hkey : key = name
  · subst hkey
    have hpart : ∀ (v : Value) (record : List (Value × Value)),
        part? (Intake.withEntry key v record) key = some v := fun v record =>
      part?_withEntry_of_mem (by simp [hname]) (by simp +contextual [hname])
    rw [hpart, hpart]
    exact .some hv
  · have hout : name ∉ spellings key := mt (mem_spellings_single hname).mp hkey
    rw [part?_withEntry_of_not_mem hout, part?_withEntry_of_not_mem hout, hS key hkey]
    exact h key

/-- Parts that are related in another way, too, make records related in this way. -/
theorem PartsRel.change (h : PartsRel R r r') (name : String)
    (hname : Option.Rel (S name) (part? r name) (part? r' name))
    (hS : ∀ key, key ≠ name → S key = R key) : PartsRel S r r' := by
  intro key
  by_cases hkey : key = name
  · rw [hkey]
    exact hname
  · rw [hS key hkey]
    exact h key

end PartsRel

/-- Two values are records that are related, or the same value. -/
inductive RecordsRel (T : List (Value × Value) → List (Value × Value) → Prop) :
    Value → Value → Prop where
  | same (v : Value) : RecordsRel T v v
  | records {r r' : List (Value × Value)} (h : T r r') : RecordsRel T (.dict r) (.dict r')

/-- A form's own rule, made, and its counterpart. -/
inductive Value.RuleCounterpart (origin origin' : Origin) : Value → Value → Prop where
  | same (v : Value) : RuleCounterpart origin origin' v v
  | rule {f g : Callable Value} (h : f.Counterpart origin origin' g) (message : String) :
      RuleCounterpart origin origin' (.rule f message) (.rule g message)

/-- How the parts of a clause are related to those of its counterpart. -/
def ClauseParts (origin origin' : Origin) (key : String) : Value → Value → Prop :=
  if key = "value" then Value.Counterpart origin origin' else Eq

/-- How the parts of a condition are related to those of its counterpart. -/
def ConditionParts (origin origin' : Origin) (key : String) : Value → Value → Prop :=
  if key ∈ spellings "and" then RecordsRel (PartsRel (ClauseParts origin origin'))
  else ClauseParts origin origin' key

/-- How the parts of constraints are related to those of their counterpart. -/
def ConstraintParts (origin origin' : Origin) (key : String) : Value → Value → Prop :=
  if key = "custom" then Value.RuleCounterpart origin origin' else Eq

/-- How the parts of a field are related, where those of its condition are related by `C` and its
constraints by `V`. -/
def FieldParts (C V : Value → Value → Prop) (key : String) : Value → Value → Prop :=
  if key = "conditional" then C else if key = "validation" then V else Eq

section Counterparts

variable {origin origin' : Origin} {r r' : List (Value × Value)} {v w : Value}

/-- A clause and its counterpart are read alike. -/
theorem readClauseParts_alike (hfield : Option.Rel Eq (part? r "field") (part? r' "field"))
    (hvalue : Option.Rel (Value.Counterpart origin origin') (part? r "value") (part? r' "value")) :
    Alike (Clause.Counterpart origin origin') (readClauseParts r) (readClauseParts r') := by
  refine Alike.map (S := Eq) ?_ (readPart_same hfield)
    |>.seq (readPartOr_alike hvalue (fun _ _ h => .value h) (.same .null))
  exact fun _ _ hname _ _ hexpected => ⟨hname, hexpected⟩

theorem readClause_alike (h : RecordsRel (PartsRel (ClauseParts origin origin')) v w) :
    Alike (Clause.Counterpart origin origin') (readClause v) (readClause w) := by
  cases h with
  | same => exact .refl .refl _
  | records h => exact readClauseParts_alike (h "field") (h "value")

/-- What may be nothing is read alike if it is related. -/
theorem readOption_alike {α : Type} {S : α → α → Prop} {read : Value → Reading α}
    {T : List (Value × Value) → List (Value × Value) → Prop} (h : RecordsRel T v w)
    (hS : ∀ a, S a a) (hread : Alike S (read v) (read w)) :
    Alike (Option.Rel S) (readOption read v) (readOption read w) := by
  cases h with
  | same => exact .refl (rel_refl hS) _
  | records => exact hread.map fun _ _ => .some

/-- A condition and its counterpart are read alike. -/
theorem readCondition_alike (h : RecordsRel (PartsRel (ConditionParts origin origin')) v w) :
    Alike (Condition.Counterpart origin origin') (readCondition v) (readCondition w) := by
  cases h with
  | same => exact .refl .refl _
  | records h =>
    refine Alike.map ?_ (readClauseParts_alike (h "field") (h "value"))
      |>.seq (S := Eq) (readPartOr_same (h "required"))
      |>.seq (readPartOr_alike (h "and") (fun _ _ hvw =>
        readOption_alike hvw Clause.Counterpart.refl (readClause_alike hvw)) .none)
    exact fun _ _ hclause _ _ hrequired _ _ hsecond => ⟨hclause, hrequired, hsecond⟩

/-- A form's own rule and its counterpart are read alike. -/
theorem readOwnRule_alike (h : v.RuleCounterpart origin origin' w) :
    Alike (Option.Rel (OwnRule.Counterpart origin origin')) (readOption readOwnRule v)
      (readOption readOwnRule w) := by
  cases h with
  | same => exact .refl (rel_refl OwnRule.Counterpart.refl) _
  | rule h message => exact .value (.some ⟨h, rfl⟩)

/-- Constraints and their counterpart are in the same disorder. -/
theorem Constraints.Counterpart.disorder?_eq {c c' : Constraints}
    (h : c.Counterpart origin origin' c') : c.disorder? = c'.disorder? := by
  rw [h.others]
  rfl

/-- The parts of constraints and of their counterpart are read alike. -/
theorem readConstraintParts_alike (h : PartsRel (ConstraintParts origin origin') r r') :
    Alike (Constraints.Counterpart origin origin') (readConstraintParts r)
      (readConstraintParts r') := by
  refine Alike.map (S := Eq) ?_ (readPartOr_same (h "minLength"))
    |>.seq (S := Eq) (readPartOr_same (h "maxLength"))
    |>.seq (S := Eq) (readPartOr_same (h "minValue"))
    |>.seq (S := Eq) (readPartOr_same (h "maxValue"))
    |>.seq (S := Eq) (readPartOr_same (h "pattern"))
    |>.seq (S := Eq) (readPartOr_same (h "minItems"))
    |>.seq (S := Eq) (readPartOr_same (h "maxItems"))
    |>.seq (readPartOr_alike (h "custom") (fun _ _ => readOwnRule_alike) .none)
    |>.seq (S := Eq) (readPartOr_same (h "message"))
  rintro _ _ rfl _ _ rfl _ _ rfl _ _ rfl _ _ rfl _ _ rfl _ _ rfl _ _ hown _ _ rfl
  exact ⟨hown, rfl⟩

theorem readConstraints_alike (h : RecordsRel (PartsRel (ConstraintParts origin origin')) v w) :
    Alike (Constraints.Counterpart origin origin') (readConstraints v) (readConstraints w) := by
  cases h with
  | same => exact .refl .refl _
  | records h =>
    refine (readConstraintParts_alike h).andThen fun c c' hc => ?_
    rw [hc.disorder?_eq]
    cases c'.disorder? with
    | none => exact .value hc
    | some why => exact .issues rfl

/-- How the parts of a field's record are related to those of its counterpart. -/
def FieldCounterparts (origin origin' : Origin) : String → Value → Value → Prop :=
  FieldParts (RecordsRel (PartsRel (ConditionParts origin origin')))
    (RecordsRel (PartsRel (ConstraintParts origin origin')))

/-- Two values are the records of a field and of its counterpart. -/
def FieldRecords (origin origin' : Origin) (v w : Value) : Prop :=
  ∃ r r', v = .dict r ∧ w = .dict r' ∧ PartsRel (FieldCounterparts origin origin') r r'

/-- **A field and its counterpart are read alike.** -/
theorem readField_alike (h : FieldRecords origin origin' v w) :
    Alike (Field.Counterpart origin origin') (readField v) (readField w) := by
  obtain ⟨r, r', rfl, rfl, h⟩ := h
  refine Alike.map (S := Eq) ?_ (readPart_same (h "name"))
    |>.seq (S := Eq) (readPart_same (h "type"))
    |>.seq (S := Eq) (readPartOr_same (h "label"))
    |>.seq (S := Eq) (readPartOr_same (h "required"))
    |>.seq (readPartOr_alike (h "validation") (fun _ _ => readConstraints_alike) (.refl _))
    |>.seq (readPartOr_alike (h "conditional") (fun _ _ hvw =>
      readOption_alike hvw Condition.Counterpart.refl (readCondition_alike hvw)) .none)
    |>.seq (S := Eq) (readPartOr_same (h "defaultValue"))
    |>.seq (S := Eq) (readPartOr_same (h "options"))
    |>.seq (S := Eq) (readPartOr_same (h "fallback"))
    |>.seq (S := Eq) (readPartOr_same (h "derivedFrom"))
    |>.seq (S := Eq) (readPartOr_same (h "placeholder"))
    |>.seq (S := Eq) (readPartOr_same (h "helpText"))
    |>.seq (S := Eq) (readPartOr_same (h "sanitizer"))
  rintro _ _ rfl _ _ rfl _ _ rfl _ _ rfl _ _ hconstraints _ _ hcondition _ _ rfl _ _ rfl _ _ rfl
    _ _ rfl _ _ rfl _ _ rfl _ _ rfl
  exact ⟨hcondition, hconstraints, rfl⟩

/-- **Fields and their counterparts are read alike**, under one name of the form. -/
theorem readForm_alike (name : Value) {fields fields' : List Value}
    (h : List.Forall₂ (FieldRecords origin origin') fields fields') :
    Alike (fun f g => f.1 = g.1 ∧ List.Forall₂ (Field.Counterpart origin origin') f.2 g.2)
      (readForm name fields) (readForm name fields') := by
  refine .seq (.map (S := Eq) (fun _ _ hname _ _ hfields => ⟨hname, hfields⟩)
    (.refl (fun _ => rfl) _)) (.under rfl (readItems_alike (h.imp ?_)))
  exact fun _ _ hrecords => readField_alike hrecords

end Counterparts

end Intake
