import Intake.Form.Reconcile
import Intake.Proofs.Form.Record
import Intake.Proofs.Schema.Fingerprint

/-!
# A form and its counterpart

The predicates and tests that a form names are made afresh each time it is read, and are told apart
by their identities.  So data that is read twice gives two forms that are not the same; each is the
**counterpart** of the other.  But identities are only compared.  What a function says of a value
does not depend on its own identity, so a form and its counterpart treat all answers alike.

* `Callable.Counterpart` says which functions correspond to each other, `Field.Counterpart` and
  `Form.Counterpart` which fields and forms;
* `Callable.Counterpart.holds?_eq` says that they hold of the same values;
* `sanitize_eq_of_counterpart` says that counterparts clean answers alike;
* `validate?_eq_of_counterpart` says that they check answers alike, though they have different
  fingerprints.
-/

namespace Intake

variable {origin origin' : Origin}

/-! ## Counterparts -/

/-- A function made for a form of one origin and its **counterpart** for a form of another: they are
made alike, for the same place in the form.  All other functions are their own counterparts. -/
inductive Callable.Counterpart (origin origin' : Origin) :
    Callable Value → Callable Value → Prop where
  | same (f : Callable Value) : Counterpart origin origin' f f
  | predicate (p : Predicate Value) (field : Nat) (slot : Slot) :
      Counterpart origin origin' (.predicate p ⟨origin, field, slot⟩)
        (.predicate p ⟨origin', field, slot⟩)
  | test (t : RuleTest Value) (field : Nat) (slot : Slot) :
      Counterpart origin origin' (.test t ⟨origin, field, slot⟩) (.test t ⟨origin', field, slot⟩)

/-- A term of a clause and its counterpart: literals are their own. -/
inductive Value.Counterpart (origin origin' : Origin) : Value → Value → Prop where
  | same (v : Value) : Counterpart origin origin' v v
  | callable {f g : Callable Value} (h : f.Counterpart origin origin' g) :
      Counterpart origin origin' (.callable f) (.callable g)

/-- A clause and its counterpart. -/
structure Clause.Counterpart (origin origin' : Origin) (c c' : Clause) : Prop where
  field : c.field = c'.field
  expected : c.expected.Counterpart origin origin' c'.expected

/-- A condition and its counterpart. -/
structure Condition.Counterpart (origin origin' : Origin) (c c' : Condition) : Prop where
  clause : c.clause.Counterpart origin origin' c'.clause
  required : c.required = c'.required
  second : Option.Rel (Clause.Counterpart origin origin') c.second c'.second

/-- A form's own rule and its counterpart. -/
structure OwnRule.Counterpart (origin origin' : Origin) (r r' : OwnRule) : Prop where
  test : r.test.Counterpart origin origin' r'.test
  message : r.message = r'.message

/-- Constraints and their counterpart: only own rules differ. -/
structure Constraints.Counterpart (origin origin' : Origin) (c c' : Constraints) : Prop where
  own : Option.Rel (OwnRule.Counterpart origin origin') c.own c'.own
  others : c' = { c with own := c'.own }

/-- A field and its counterpart: only conditions and constraints differ. -/
structure Field.Counterpart (origin origin' : Origin) (d d' : Field) : Prop where
  condition : Option.Rel (Condition.Counterpart origin origin') d.condition d'.condition
  constraints : d.constraints.Counterpart origin origin' d'.constraints
  others : d' = { d with condition := d'.condition, constraints := d'.constraints }

/-- A form and its counterpart. -/
structure Form.Counterpart (origin origin' : Origin) (f f' : Form) : Prop where
  name : f.name = f'.name
  fields : List.Forall₂ (Field.Counterpart origin origin') f.fields f'.fields

theorem Clause.Counterpart.refl (c : Clause) : c.Counterpart origin origin' c :=
  ⟨rfl, .same c.expected⟩

theorem OwnRule.Counterpart.refl (r : OwnRule) : r.Counterpart origin origin' r :=
  ⟨.same r.test, rfl⟩

/-- What may be there or not corresponds to itself if everything does. -/
theorem rel_refl {α : Type} {R : α → α → Prop} (h : ∀ a, R a a) (o : Option α) :
    Option.Rel R o o := by
  cases o with
  | none => exact .none
  | some a => exact .some (h a)

/-- What corresponds in one way corresponds in every way that follows from it. -/
theorem rel_imp {α β : Type} {R S : α → β → Prop} {o : Option α} {o' : Option β}
    (h : Option.Rel R o o') (himp : ∀ a b, R a b → S a b) : Option.Rel S o o' := by
  cases h with
  | none => exact .none
  | some h => exact .some (himp _ _ h)

/-- What is the same corresponds by equality. -/
theorem rel_of_eq {α : Type} {o o' : Option α} (h : o = o') : Option.Rel Eq o o' :=
  h ▸ rel_refl (fun _ => rfl) o

theorem eq_of_rel {α : Type} {o o' : Option α} (h : Option.Rel Eq o o') : o = o' := by
  cases h with
  | none => rfl
  | some h => rw [h]

theorem Condition.Counterpart.refl (c : Condition) : c.Counterpart origin origin' c :=
  ⟨.refl c.clause, rfl, rel_refl Clause.Counterpart.refl c.second⟩

theorem Constraints.Counterpart.refl (c : Constraints) : c.Counterpart origin origin' c :=
  ⟨rel_refl OwnRule.Counterpart.refl c.own, rfl⟩

/-! ## Functions -/

/-- **A function and its counterpart hold of the same values.** -/
theorem Callable.Counterpart.holds?_eq {f g : Callable Value} (h : f.Counterpart origin origin' g)
    (host : Host) (value : Value) (answers : Answers) :
    f.holds? host value answers = g.holds? host value answers := by
  cases h <;> rfl

/-- A long integer lies in a function if one lies in its counterpart. -/
theorem Callable.Counterpart.hasLongInteger_iff {f g : Callable Value}
    (h : f.Counterpart origin origin' g) :
    (Value.callable f).HasLongInteger ↔ (Value.callable g).HasLongInteger := by
  cases h with
  | same => exact Iff.rfl
  | predicate p =>
    constructor
    · rintro (_ | _ | _ | _ | _ | _ | h | h)
      exacts [.equals h, .contains h]
    · rintro (_ | _ | _ | _ | _ | _ | h | h)
      exacts [.equals h, .contains h]
  | test t => exact iff_of_false nofun nofun

namespace Value.Counterpart

variable {v w : Value}

/-- A term and its counterpart hold alike. -/
theorem holdsAlike (h : v.Counterpart origin origin' w) : v.HoldsAlike w := by
  cases h with
  | same => exact fun _ _ _ => rfl
  | callable h =>
    intro host answers field
    simp only [Clause.holds?, h.holds?_eq]

theorem hasLongInteger_iff (h : v.Counterpart origin origin' w) :
    v.HasLongInteger ↔ w.HasLongInteger := by
  cases h with
  | same => exact Iff.rfl
  | callable h => exact h.hasLongInteger_iff

end Value.Counterpart

/-! ## Conditions -/

namespace Condition.Counterpart

variable {c c' : Condition}

/-- A condition and its counterpart hold for the same answers. -/
theorem holds?_eq (h : c.Counterpart origin origin' c') (host : Host) (answers : Answers) :
    c.holds? host answers = c'.holds? host answers := by
  have hclause : ∀ {s s' : Clause}, s.Counterpart origin origin' s' →
      s.holds? host answers = s'.holds? host answers := fun hs =>
    Clause.holds?_eq hs.field hs.expected.holdsAlike host answers
  unfold Condition.holds?
  rw [hclause h.clause]
  have hsecond := h.second
  generalize c.second = s at hsecond
  generalize c'.second = s' at hsecond
  cases hsecond with
  | none => rfl
  | some hs => rw [Clause.allHold?, Clause.allHold?, hclause hs]

end Condition.Counterpart

/-! ## Fields -/

namespace Field.Counterpart

variable {d d' : Field}

theorem name_eq (h : d.Counterpart origin origin' d') : d'.name = d.name :=
  (congrArg Field.name h.others).trans rfl

theorem type_eq (h : d.Counterpart origin origin' d') : d'.type = d.type :=
  (congrArg Field.type h.others).trans rfl

/-- A field and its counterpart have conditions together, are shown for the same answers, and are
required for the same. -/
theorem isShown?_eq (h : d.Counterpart origin origin' d') (host : Host) (answers : Answers) :
    d.condition.isSome = d'.condition.isSome ∧
      d.isShown? host answers = d'.isShown? host answers ∧
      d.isRequiredNow? host answers = d'.isRequiredNow? host answers := by
  unfold isShown? isRequiredNow?
  have hcondition := h.condition
  generalize d.condition = o at hcondition
  generalize d'.condition = o' at hcondition
  cases hcondition with
  | none => exact ⟨rfl, rfl, rfl⟩
  | some hc =>
    dsimp only
    rw [hc.holds?_eq, hc.required]
    exact ⟨rfl, rfl, rfl⟩

/-- They clean values alike: they have one type and one cleaner. -/
theorem clean?_eq (h : d.Counterpart origin origin' d') (host : Host) (v : Value) :
    d.clean? host v = d'.clean? host v := by
  rw [h.others]
  rfl

/-- The same is found of them. -/
theorem finding?_eq (h : d.Counterpart origin origin' d') (host : Host) (answers : Answers) :
    Schema.finding? host answers d.check = Schema.finding? host answers d'.check := by
  obtain ⟨hthere, hshown, hdemanded⟩ := h.isShown?_eq host answers
  have hrequired : d'.required = d.required := (congrArg Field.required h.others).trans rfl
  have hown : Option.Rel (fun r r' : OwnRule => r.message = r'.message ∧
      Value.HoldsAlike (.callable r.test) (.callable r'.test))
      d.constraints.own d'.constraints.own :=
    rel_imp h.constraints.own fun r r' hr =>
      ⟨hr.message, (Value.Counterpart.callable hr.test).holdsAlike⟩
  refine Field.finding?_congr h.name_eq.symm h.type_eq.symm hrequired.symm hthere hshown
    hdemanded ?_
  rw [Field.rules, Field.rules, h.type_eq]
  exact Constraints.firstBroken?_congr h.constraints.others hown _ host answers d.name

/-- They are settled alike. -/
theorem settle_eq (h : d.Counterpart origin origin' d') (host : Host) (answers : Answers) :
    d.settle host answers = d'.settle host answers := by
  obtain ⟨hthere, hshown, -⟩ := h.isShown?_eq host answers
  have hclean := h.clean?_eq host d.fallback
  have hnone : d.condition.isNone = d'.condition.isNone := by
    rw [← Option.not_isSome, ← Option.not_isSome, hthere]
  have hsettled : d.settled? host answers = d'.settled? host answers := by
    unfold Field.settled?
    rw [hshown, hclean, hnone, h.others]
    rfl
  rw [Field.settle, Field.settle, hsettled, h.name_eq]

end Field.Counterpart

/-! ## Long integers -/

/-- Where there may be something or not, a long integer lies in it if one lies in what corresponds
to it. -/
theorem hasLongInteger_ofOption_iff {α : Type} {R : α → α → Prop} {f : α → Value} {o o' : Option α}
    (h : Option.Rel R o o')
    (hR : ∀ a b, R a b → ((f a).HasLongInteger ↔ (f b).HasLongInteger)) :
    (Value.ofOption f o).HasLongInteger ↔ (Value.ofOption f o').HasLongInteger := by
  cases h with
  | none => exact Iff.rfl
  | some h => exact hR _ _ h

theorem Clause.Counterpart.hasLongInteger_iff {c c' : Clause}
    (h : c.Counterpart origin origin' c') :
    c.toValue.HasLongInteger ↔ c'.toValue.HasLongInteger := by
  simp only [Clause.toValue, Value.hasLongInteger_record, List.mem_cons, List.not_mem_nil, or_false,
    exists_eq_or_imp, exists_eq_left, h.field, h.expected.hasLongInteger_iff]

theorem Condition.Counterpart.hasLongInteger_iff {c c' : Condition}
    (h : c.Counterpart origin origin' c') :
    c.toValue.HasLongInteger ↔ c'.toValue.HasLongInteger := by
  have hsecond := hasLongInteger_ofOption_iff (f := Clause.toValue) h.second
    fun _ _ hs => hs.hasLongInteger_iff
  simp only [Condition.toValue, Value.hasLongInteger_record, List.mem_cons, List.not_mem_nil,
    or_false, exists_eq_or_imp, exists_eq_left, h.clause.field, h.required,
    h.clause.expected.hasLongInteger_iff, hsecond]

theorem OwnRule.Counterpart.hasLongInteger_iff {r r' : OwnRule}
    (h : r.Counterpart origin origin' r') :
    r.toValue.HasLongInteger ↔ r'.toValue.HasLongInteger := by
  simp only [OwnRule.toValue, Value.hasLongInteger_record, List.mem_cons, List.not_mem_nil,
    or_false, exists_eq_or_imp, exists_eq_left, h.message, h.test.hasLongInteger_iff]

theorem Constraints.Counterpart.hasLongInteger_iff {c c' : Constraints}
    (h : c.Counterpart origin origin' c') :
    c.toValue.HasLongInteger ↔ c'.toValue.HasLongInteger := by
  have hown := hasLongInteger_ofOption_iff (f := OwnRule.toValue) h.own
    fun _ _ hr => hr.hasLongInteger_iff
  rw [h.others]
  simp only [Constraints.toValue, Value.hasLongInteger_record, List.mem_cons, List.not_mem_nil,
    or_false, exists_eq_or_imp, exists_eq_left, hown]

/-- A long integer lies in a field if one lies in its counterpart. -/
theorem Field.Counterpart.hasLongInteger_iff {d d' : Field} (h : d.Counterpart origin origin' d') :
    d.toValue.HasLongInteger ↔ d'.toValue.HasLongInteger := by
  have hcondition := hasLongInteger_ofOption_iff (f := Condition.toValue) h.condition
    fun _ _ hc => hc.hasLongInteger_iff
  rw [h.others]
  simp only [Field.toValue, Value.hasLongInteger_record, List.mem_cons, List.not_mem_nil, or_false,
    exists_eq_or_imp, exists_eq_left, hcondition, h.constraints.hasLongInteger_iff]

/-! ## Forms -/

/-- What is said about answers by the schema of some fields. -/
def validate? (host : Host) (fields : List Field) (answers : Answers) :
    Except SchemaError Report := do
  let schema ← Schema.compile fields
  (schema.check? host answers).mapError .fault

section Forms

variable {fields fields' : List Field}

/-- Settling all fields in turn comes to the same. -/
theorem settlePass_eq_of_counterpart
    (h : List.Forall₂ (Field.Counterpart origin origin') fields fields') (host : Host)
    (answers : Answers) : settlePass host answers fields = settlePass host answers fields' := by
  induction h generalizing answers with
  | nil => rfl
  | cons hfirst _ ih => simp only [settlePass, hfirst.settle_eq, ih]

/-- So does settling them until nothing changes. -/
theorem settlePasses_eq_of_counterpart
    (h : List.Forall₂ (Field.Counterpart origin origin') fields fields') (host : Host)
    (passes : Nat) (answers : Answers) :
    settlePasses host fields passes answers = settlePasses host fields' passes answers := by
  induction passes generalizing answers with
  | zero => rfl
  | succ passes ih => simp only [settlePasses, settlePass_eq_of_counterpart h, ih]

/-- **Counterparts clean answers alike.** -/
theorem sanitize_eq_of_counterpart
    (h : List.Forall₂ (Field.Counterpart origin origin') fields fields') (host : Host)
    (answers : Answers) : sanitize host fields answers = sanitize host fields' answers := by
  have hentries : (fields.mapM fun d => do
        return (d.name, ← d.clean? host (answers.get d.name)) : Except Fault _) =
      fields'.mapM fun d => do return (d.name, ← d.clean? host (answers.get d.name)) := by
    refine mapM_eq_of_forall₂ (h.imp fun d d' hd => ?_)
    rw [hd.clean?_eq, hd.name_eq]
  simp only [sanitize, cleanAll, reconcile, hentries, h.length_eq,
    settlePasses_eq_of_counterpart h]

/-- Counterparts have the same names. -/
theorem fieldNames_eq_of_counterpart
    (h : List.Forall₂ (Field.Counterpart origin origin') fields fields') :
    fieldNames fields = fieldNames fields' :=
  map_eq_map_of_forall₂ (fun _ _ hd => hd.name_eq.symm) h

/-- **Counterparts check answers alike.**  Their schemas have different fingerprints, but both have
one or neither. -/
theorem validate?_eq_of_counterpart
    (h : List.Forall₂ (Field.Counterpart origin origin') fields fields') (host : Host)
    (answers : Answers) : validate? host fields answers = validate? host fields' answers := by
  have hfindings : (fields.map Field.check).mapM (Schema.finding? host answers) =
      (fields'.map Field.check).mapM (Schema.finding? host answers) := by
    rw [List.mapM_map, List.mapM_map]
    exact mapM_eq_of_forall₂ (h.imp fun d d' hd => hd.finding?_eq host answers)
  have hlong : (∃ d ∈ fields, d.toValue.HasLongInteger) ↔
      ∃ d ∈ fields', d.toValue.HasLongInteger := by
    constructor
    · rintro ⟨d, hd, hlong⟩
      obtain ⟨d', hd', hcounterpart⟩ := exists_of_mem_forall₂ h hd
      exact ⟨d', hd', hcounterpart.hasLongInteger_iff.mp hlong⟩
    · rintro ⟨d', hd', hlong⟩
      obtain ⟨d, hd, hcounterpart⟩ := exists_of_mem_forall₂ h.flip hd'
      exact ⟨d, hd, hcounterpart.hasLongInteger_iff.mpr hlong⟩
  have hnames : requireDistinct fields = requireDistinct fields' := by
    rw [requireDistinct, requireDistinct, fieldNames_eq_of_counterpart h]
  unfold validate? Schema.compile
  rw [hnames]
  cases requireDistinct fields' with
  | error m => rfl
  | ok _ =>
    by_cases hp : ∃ d ∈ fields, d.toValue.HasLongInteger
    · rw [(fingerprint?_failsIff fields).eq_error hp,
        (fingerprint?_failsIff fields').eq_error (hlong.mp hp)]
      rfl
    · obtain ⟨print, hprint⟩ := (fingerprint?_failsIff fields).returns hp
      obtain ⟨print', hprint'⟩ := (fingerprint?_failsIff fields').returns (mt hlong.mpr hp)
      rw [hprint, hprint']
      show (Schema.check? host ⟨fields.map Field.check, print⟩ answers).mapError _ =
        (Schema.check? host ⟨fields'.map Field.check, print'⟩ answers).mapError _
      rw [Schema.check?, Schema.check?, hfindings]

end Forms

end Intake
