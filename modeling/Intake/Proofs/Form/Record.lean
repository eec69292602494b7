import Intake.Proofs.Form.Showing
import Intake.Proofs.Value.Data
import Intake.Schema.Basic

/-!
# Fields that are written alike

The text of a field, spelled out as a value, tells all that its check depends on, but for the
**terms** of the field: the values its clauses expect, and the test of its own rule.  Of these it
tells only their texts.  So fields that are written alike are checked alike, if their terms hold
alike wherever they are written alike.

* `Value.HoldsAlike` says when two terms may stand for each other;
* `Value.IsData.holdsAlike` says that data that is written alike may;
* `OwnRule.passes?_eq` says that tests which hold alike pass alike;
* `Field.finding?_eq` is about fields, and `Schema.check?_eq` about lists of fields.
-/

namespace Intake

open Value (WrittenAlike)

namespace Value

/-- Two values hold alike if clauses that expect them hold for the same answers. -/
def HoldsAlike (v w : Value) : Prop :=
  ∀ (host : Host) (answers : Answers) (field : String),
    (⟨field, v⟩ : Clause).holds? host answers = (⟨field, w⟩ : Clause).holds? host answers

/-- A value that is no function is expected to be equal. -/
theorem holds?_of_isData {v : Value} (hv : v.IsData) (host : Host) (answers : Answers)
    (field : String) :
    (⟨field, v⟩ : Clause).holds? host answers = .ok ((answers.get field).strictEqv v) := by
  cases hv with
  | @scalar v hv =>
    cases v with
    | callable f => exact hv.elim
    | _ => rfl
  | list => rfl
  | record => rfl

/-- **Data that is written alike holds alike.** -/
theorem IsData.holdsAlike {v w : Value} (hv : v.IsData) (hw : w.IsData) (h : WrittenAlike v w) :
    HoldsAlike v w := by
  intro host answers field
  rw [holds?_of_isData hv, holds?_of_isData hw, hv.strictEqv_eq hw h]

/-- Texts are told apart by how they are written. -/
theorem WrittenAlike.text_inj {s t : String} (h : WrittenAlike (.text s) (.text t)) : s = t :=
  Value.text.inj (h.eq_of_isScalar trivial trivial)

/-- Truth values are told apart by how they are written. -/
theorem WrittenAlike.bool_inj {a b : Bool} (h : WrittenAlike (.bool a) (.bool b)) : a = b :=
  Value.bool.inj (h.eq_of_isScalar trivial trivial)

/-- Integers that may be there or not are told apart by how they are written. -/
theorem WrittenAlike.optionalInt_inj {o o' : Option Int}
    (h : WrittenAlike (ofOption .int o) (ofOption .int o')) : o = o' :=
  h.eq_of_ofOption (fun _ => trivial) (fun _ => nofun) fun _ _ => Value.int.inj

/-- Texts that may be there or not are told apart by how they are written. -/
theorem WrittenAlike.optionalText_inj {o o' : Option String}
    (h : WrittenAlike (ofOption .text o) (ofOption .text o')) : o = o' :=
  h.eq_of_ofOption (fun _ => trivial) (fun _ => nofun) fun _ _ => Value.text.inj

end Value

/-- A bound is a scalar. -/
theorem Bound.isScalar_toValue (b : Bound) : b.toValue.IsScalar := by
  cases b <;> trivial

/-- A bound is something. -/
theorem Bound.toValue_ne_null (b : Bound) : b.toValue ≠ .null := by
  cases b <;> nofun

/-- Bounds are told apart by their values. -/
theorem Bound.toValue_injective : Function.Injective Bound.toValue := by
  intro a b h
  cases a <;> cases b <;> cases h <;> rfl

/-- Patterns are told apart by what writes them. -/
theorem TextPattern.source_injective : Function.Injective TextPattern.source := by
  rintro ⟨source, node, hreads⟩ ⟨source', node', hreads'⟩ rfl
  cases hreads.symm.trans hreads'
  rfl

/-- Sorts of field are told apart by their names. -/
theorem FieldType.name_injective : Function.Injective FieldType.name := by
  intro a b
  cases a <;> cases b <;> decide

/-- What the text of a clause tells. -/
theorem Clause.parts_of_writtenAlike {c c' : Clause} (h : WrittenAlike c.toValue c'.toValue) :
    c.field = c'.field ∧ WrittenAlike c.expected c'.expected := by
  have hentries := WrittenAlike.entries (by rfl) (by simp) h
  simp only [List.forall₂_cons] at hentries
  obtain ⟨hfield, hexpected, -⟩ := hentries
  exact ⟨hfield.text_inj, hexpected⟩

/-- What the text of a form's own rule tells. -/
theorem OwnRule.parts_of_writtenAlike {r r' : OwnRule} (h : WrittenAlike r.toValue r'.toValue) :
    WrittenAlike (.callable r.test) (.callable r'.test) ∧ r.message = r'.message := by
  have hentries := WrittenAlike.entries (by rfl) (by simp) h
  simp only [List.forall₂_cons] at hentries
  obtain ⟨htest, hmessage, -⟩ := hentries
  exact ⟨htest, hmessage.text_inj⟩

/-- The text of constraints tells them all but for the form's own rule. -/
theorem Constraints.parts_of_writtenAlike {c c' : Constraints}
    (h : WrittenAlike c.toValue c'.toValue) :
    c' = { c with own := c'.own } ∧
      WrittenAlike (.ofOption OwnRule.toValue c.own) (.ofOption OwnRule.toValue c'.own) := by
  have hentries := WrittenAlike.entries (by rfl) (by simp) h
  simp only [List.forall₂_cons] at hentries
  obtain ⟨hminLength, hmaxLength, hminValue, hmaxValue, hpattern, hminItems, hmaxItems, hown,
    hmessage, -⟩ := hentries
  have hbound : ∀ {o o' : Option Bound},
      WrittenAlike (.ofOption Bound.toValue o) (.ofOption Bound.toValue o') → o = o' :=
    fun h => h.eq_of_ofOption Bound.isScalar_toValue Bound.toValue_ne_null Bound.toValue_injective
  have hpatterns : c.pattern = c'.pattern :=
    hpattern.eq_of_ofOption (fun _ => trivial) (fun _ => nofun)
      fun _ _ h => TextPattern.source_injective (Value.text.inj h)
  obtain ⟨minLength, maxLength, minValue, maxValue, pattern, minItems, maxItems, own, message⟩ := c
  obtain ⟨_, _, _, _, _, _, _, own', _⟩ := c'
  cases hminLength.optionalInt_inj
  cases hmaxLength.optionalInt_inj
  cases hbound hminValue
  cases hbound hmaxValue
  cases hpatterns
  cases hminItems.optionalInt_inj
  cases hmaxItems.optionalInt_inj
  cases hmessage.optionalText_inj
  exact ⟨rfl, hown⟩

/-- Nothing is written otherwise than a clause. -/
theorem Clause.not_writtenAlike_null (c : Clause) : ¬ WrittenAlike .null c.toValue :=
  Value.not_writtenAlike_null_record

/-- Nothing is written otherwise than a condition. -/
theorem Condition.not_writtenAlike_null (c : Condition) : ¬ WrittenAlike .null c.toValue :=
  Value.not_writtenAlike_null_record

/-- Nothing is written otherwise than a form's own rule. -/
theorem OwnRule.not_writtenAlike_null (r : OwnRule) : ¬ WrittenAlike .null r.toValue :=
  Value.not_writtenAlike_null_record

/-- What the clauses of a condition expect. -/
def Condition.terms (c : Condition) : List Value :=
  c.clause.expected :: c.second.toList.map Clause.expected

/-- The terms of a field: what its clauses expect, and the test of its own rule. -/
def Field.terms (d : Field) : List Value :=
  d.condition.toList.flatMap Condition.terms ++
    d.constraints.own.toList.map fun r => .callable r.test

/-- Clauses about one field whose terms hold alike hold for the same answers. -/
theorem Clause.holds?_eq {c c' : Clause} (hfield : c.field = c'.field)
    (hexpected : c.expected.HoldsAlike c'.expected) (host : Host) (answers : Answers) :
    c.holds? host answers = c'.holds? host answers := by
  obtain ⟨field, expected⟩ := c
  obtain ⟨field', expected'⟩ := c'
  obtain rfl : field = field' := hfield
  exact hexpected host answers field

/-- Conditions that are written alike hold for the same answers, if their terms do. -/
theorem Condition.holds?_eq {c c' : Condition} (h : WrittenAlike c.toValue c'.toValue)
    (hterms : ∀ v ∈ c.terms, ∀ w ∈ c'.terms, WrittenAlike v w → v.HoldsAlike w) :
    c.required = c'.required ∧
      ∀ host answers, c.holds? host answers = c'.holds? host answers := by
  have hentries := WrittenAlike.entries (by rfl) (by simp) h
  simp only [List.forall₂_cons] at hentries
  obtain ⟨hfield, hexpected, hrequired, hsecond, -⟩ := hentries
  refine ⟨hrequired.bool_inj, fun host answers => ?_⟩
  have hfirst : c.clause.holds? host answers = c'.clause.holds? host answers :=
    Clause.holds?_eq hfield.text_inj
      (hterms _ List.mem_cons_self _ List.mem_cons_self hexpected) host answers
  rw [Condition.holds?, Condition.holds?, hfirst]
  rcases hsecond.ofOption_cases Clause.not_writtenAlike_null with
    ⟨hnone, hnone'⟩ | ⟨s, s', hsome, hsome', hclause⟩
  · rw [hnone, hnone']
  · have hparts := Clause.parts_of_writtenAlike hclause
    have hlater : s.expected.HoldsAlike s'.expected :=
      hterms _ (by simp [terms, hsome]) _ (by simp [terms, hsome']) hparts.2
    rw [hsome, hsome', Clause.allHold?, Clause.allHold?, Clause.holds?_eq hparts.1 hlater]

/-- Is it a function of the host? -/
def Callable.IsOfHost (f : Callable Value) : Prop := ∃ name, f = .host name

/-- In a clause that asks a function of the engine the host has no say. -/
theorem Clause.holds?_of_not_isOfHost {f : Callable Value} (h : ¬ f.IsOfHost) (host host' : Host)
    (answers : Answers) (field : String) :
    (⟨field, .callable f⟩ : Clause).holds? host answers =
      (⟨field, .callable f⟩ : Clause).holds? host' answers := by
  cases f with
  | host name => exact absurd ⟨name, rfl⟩ h
  | _ => rfl

/-- A value passes a form's own rule where a clause holds that asks its test, if the test is a
function of the engine. -/
theorem OwnRule.passes?_of_not_isOfHost {r : OwnRule} (h : ¬ r.test.IsOfHost) (host : Host)
    (answers : Answers) (field : String) :
    r.passes? host (answers.get field) answers =
      (⟨field, .callable r.test⟩ : Clause).holds? host answers := by
  have hread : ∀ value b, r.test.read? host value answers b = .ok b := by
    intro value b
    unfold Callable.read?
    split
    · rename_i name hname
      exact absurd ⟨name, hname⟩ h
    · rfl
  have hholds : r.test.holds? host (answers.get field) answers =
      r.test.decide? host (answers.get field) answers := by
    rw [Callable.holds?]
    cases r.test.decide? host (answers.get field) answers with
    | error f => rfl
    | ok b => exact hread _ b
  rw [passes?, Clause.holds?]
  dsimp only
  rw [hholds]
  cases r.test.decide? host (answers.get field) answers with
  | error f => rfl
  | ok b => exact hread _ b

/-- The host whose decisions are yes for one name, and no for every other name. -/
def Host.naming (name : String) : Host where
  decide other _ _ := .ok (other = name)
  clean _ v := .ok v

/-- A function that holds like one of the host's is that one. -/
theorem Value.HoldsAlike.eq_of_host {f : Callable Value} {name : String}
    (h : HoldsAlike (.callable f) (.callable (.host name))) : f = .host name := by
  have hasked : ∀ other, (⟨"", .callable f⟩ : Clause).holds? (.naming other) (.ofEntries []) =
      .ok (decide (name = other)) := fun other => h (.naming other) (.ofEntries []) ""
  by_cases hhost : f.IsOfHost
  · obtain ⟨name', rfl⟩ := hhost
    have hsame : (Except.ok (decide (name' = name)) : Except Fault Bool) =
        .ok (decide (name = name)) :=
      hasked name
    rw [of_decide_eq_true ((Except.ok.inj hsame).trans (decide_eq_true rfl))]
  · -- What a function of the engine gives is the same for a host that says yes and another one.
    obtain ⟨other, hother⟩ := exists_ne name
    have hsame := (hasked name).symm.trans
      ((Clause.holds?_of_not_isOfHost hhost _ _ _ _).trans (hasked other))
    simp [hother.symm] at hsame

/-- Tests that hold alike pass alike. -/
theorem OwnRule.passes?_eq {r r' : OwnRule}
    (htest : Value.HoldsAlike (.callable r.test) (.callable r'.test)) (host : Host)
    (answers : Answers) (field : String) :
    r.passes? host (answers.get field) answers = r'.passes? host (answers.get field) answers := by
  have hflip : Value.HoldsAlike (.callable r'.test) (.callable r.test) :=
    fun host answers field => (htest host answers field).symm
  by_cases hhost : r.test.IsOfHost ∨ r'.test.IsOfHost
  · have hsame : r.test = r'.test := by
      rcases hhost with ⟨name, hname⟩ | ⟨name, hname⟩
      · rw [hname] at hflip ⊢
        exact hflip.eq_of_host.symm
      · rw [hname] at htest ⊢
        exact htest.eq_of_host
    rw [passes?, passes?, hsame]
  · obtain ⟨hfirst, hsecond⟩ := not_or.mp hhost
    rw [passes?_of_not_isOfHost hfirst, passes?_of_not_isOfHost hsecond, htest]

/-- Own rules that are written alike say the same against an answer, if their tests hold alike. -/
theorem OwnRule.check?_eq {r r' : OwnRule} (hmessage : r.message = r'.message)
    (htest : Value.HoldsAlike (.callable r.test) (.callable r'.test)) (host : Host)
    (answers : Answers) (field : String) :
    (Rule.own r).check? host (answers.get field) answers =
      (Rule.own r').check? host (answers.get field) answers := by
  unfold Rule.check?
  rw [Rule.obeyed?, Rule.obeyed?, OwnRule.passes?_eq htest, Rule.message?, Rule.message?, hmessage]

/-- Rules that say the same one by one say the same together. -/
theorem firstBroken?_eq_of_forall₂ {host : Host} {value : Value} {answers : Answers}
    {rules rules' : List Rule}
    (h : List.Forall₂ (fun r r' => r.check? host value answers = r'.check? host value answers)
      rules rules') :
    firstBroken? host value answers rules = firstBroken? host value answers rules' := by
  induction h with
  | nil => rfl
  | cons hfirst _ ih => rw [firstBroken?, firstBroken?, hfirst, ih]

/-- The rules of constraints are those without a rule of the form's own, and that rule. -/
theorem Constraints.rules_eq (c : Constraints) (own : Option OwnRule) (type : FieldType) :
    ({ c with own } : Constraints).rules type =
      ({ c with own := none } : Constraints).rules type ++ own.toList.map .own := by
  rw [rules, rules, Option.toList_none, List.map_nil, List.append_nil]
  rfl

/-- Constraints that differ in their own rules say the same against an answer, if those have the
same messages and their tests hold alike. -/
theorem Constraints.firstBroken?_congr {c c' : Constraints} (heq : c' = { c with own := c'.own })
    (hown : Option.Rel (fun r r' : OwnRule => r.message = r'.message ∧
      Value.HoldsAlike (.callable r.test) (.callable r'.test)) c.own c'.own)
    (type : FieldType) (host : Host) (answers : Answers) (field : String) :
    firstBroken? host (answers.get field) answers (c.rules type) =
      firstBroken? host (answers.get field) answers (c'.rules type) := by
  refine firstBroken?_eq_of_forall₂ ?_
  rw [heq, Constraints.rules_eq c c'.own,
    show c.rules type = _ from Constraints.rules_eq c c.own type]
  have hbase : ∀ rules, List.Forall₂ (fun r r' : Rule =>
      r.check? host (answers.get field) answers = r'.check? host (answers.get field) answers)
      rules rules := fun rules => List.forall₂_same.mpr fun _ _ => rfl
  refine List.rel_append (hbase _) ?_
  generalize c.own = o at hown
  generalize c'.own = o' at hown
  cases hown with
  | none => exact .nil
  | some h => exact .cons (OwnRule.check?_eq h.1 h.2 host answers field) .nil

/-- Constraints that are written alike say the same against an answer, if the tests of their own
rules hold alike. -/
theorem Constraints.firstBroken?_eq {c c' : Constraints} (h : WrittenAlike c.toValue c'.toValue)
    (hown : ∀ r ∈ c.own, ∀ r' ∈ c'.own, WrittenAlike (.callable r.test) (.callable r'.test) →
      Value.HoldsAlike (.callable r.test) (.callable r'.test))
    (type : FieldType) (host : Host) (answers : Answers) (field : String) :
    firstBroken? host (answers.get field) answers (c.rules type) =
      firstBroken? host (answers.get field) answers (c'.rules type) := by
  obtain ⟨heq, hrules⟩ := Constraints.parts_of_writtenAlike h
  refine Constraints.firstBroken?_congr heq ?_ type host answers field
  rcases hrules.ofOption_cases OwnRule.not_writtenAlike_null with
    ⟨hnone, hnone'⟩ | ⟨r, r', hsome, hsome', hrule⟩
  · rw [hnone, hnone']
    exact .none
  · obtain ⟨htest, hmessage⟩ := OwnRule.parts_of_writtenAlike hrule
    rw [hsome, hsome']
    exact .some ⟨hmessage, hown r hsome r' hsome' htest⟩

/-- Fields whose conditions are written alike and have terms that hold alike have conditions
together, are visible together, and are required together. -/
theorem Field.isShown?_eq {d d' : Field}
    (h : WrittenAlike (.ofOption Condition.toValue d.condition)
      (.ofOption Condition.toValue d'.condition))
    (hterms : ∀ v ∈ d.condition.toList.flatMap Condition.terms,
      ∀ w ∈ d'.condition.toList.flatMap Condition.terms, WrittenAlike v w → v.HoldsAlike w)
    (host : Host) (answers : Answers) :
    d.condition.isSome = d'.condition.isSome ∧
      d.isShown? host answers = d'.isShown? host answers ∧
      d.isRequiredNow? host answers = d'.isRequiredNow? host answers := by
  unfold isShown? isRequiredNow?
  rcases h.ofOption_cases Condition.not_writtenAlike_null with
    ⟨hnone, hnone'⟩ | ⟨c, c', hsome, hsome', hcondition⟩
  · rw [hnone, hnone']
    exact ⟨rfl, rfl, rfl⟩
  · rw [hsome, hsome'] at hterms ⊢
    simp only [Option.toList_some, List.flatMap_cons, List.flatMap_nil, List.append_nil] at hterms
    obtain ⟨hrequired, hholds⟩ := Condition.holds?_eq hcondition hterms
    dsimp only
    rw [hrequired, hholds]
    exact ⟨rfl, rfl, rfl⟩

/-- What the text of a field tells of what is demanded of it. -/
theorem Field.parts_of_writtenAlike {d d' : Field} (h : WrittenAlike d.toValue d'.toValue) :
    d.name = d'.name ∧ d.required = d'.required ∧ d.condition.isSome = d'.condition.isSome := by
  have hentries := WrittenAlike.entries (by rfl) (by simp) h
  simp only [List.forall₂_cons] at hentries
  obtain ⟨hname, -, -, hrequired, -, hcondition, -⟩ := hentries
  refine ⟨hname.text_inj, hrequired.bool_inj, ?_⟩
  rcases hcondition.ofOption_cases Condition.not_writtenAlike_null with
    ⟨hnone, hnone'⟩ | ⟨c, c', hsome, hsome', -⟩
  · rw [hnone, hnone']
  · rw [hsome, hsome']
    rfl

/-- Lists of fields are written alike field by field. -/
theorem Field.forall₂_of_writtenAlike {fields fields' : List Field}
    (h : WrittenAlike (.list (fields.map Field.toValue)) (.list (fields'.map Field.toValue))) :
    List.Forall₂ (fun d d' => WrittenAlike d.toValue d'.toValue) fields fields' := by
  have hall := h.forall₂
  rwa [List.forall₂_map_left_iff, List.forall₂_map_right_iff] at hall

/-- What is found of a field depends on its name and sort, on what is demanded of it when, and on
what its rules say. -/
theorem Field.finding?_congr {d d' : Field} {host : Host} {answers : Answers}
    (hname : d.name = d'.name) (htype : d.type = d'.type) (hrequired : d.required = d'.required)
    (hthere : d.condition.isSome = d'.condition.isSome)
    (hshown : d.isShown? host answers = d'.isShown? host answers)
    (hdemanded : d.isRequiredNow? host answers = d'.isRequiredNow? host answers)
    (hrules : firstBroken? host (answers.get d.name) answers d.rules =
      firstBroken? host (answers.get d.name) answers d'.rules) :
    Schema.finding? host answers d.check = Schema.finding? host answers d'.check := by
  have hdemand : FieldCheck.demand? host answers d = FieldCheck.demand? host answers d' := by
    rw [FieldCheck.demand?, FieldCheck.demand?, hthere, hdemanded, hrequired]
  have hrun : d.check.run? host (answers.get d.name) answers =
      d'.check.run? host (answers.get d.name) answers := by
    rw [FieldCheck.run?, FieldCheck.run?, Field.check, Field.check, hshown, hdemand, htype, hrules]
  have hfinding : ∀ e : Field, Schema.finding? host answers e.check =
      (e.check.run? host (answers.get e.name) answers).map fun message =>
        message.map fun m => { field := e.name, message := m } := fun _ => rfl
  rw [hfinding, hfinding, hrun, hname]

/-- **Fields that are written alike are checked alike**, if their terms hold alike wherever they
are written alike. -/
theorem Field.finding?_eq {d d' : Field} (h : WrittenAlike d.toValue d'.toValue)
    (hterms : ∀ v ∈ d.terms, ∀ w ∈ d'.terms, WrittenAlike v w → v.HoldsAlike w) (host : Host)
    (answers : Answers) :
    Schema.finding? host answers d.check = Schema.finding? host answers d'.check := by
  have hentries := WrittenAlike.entries (by rfl) (by simp) h
  simp only [List.forall₂_cons] at hentries
  obtain ⟨hname, htype, -, hrequired, hconstraints, hcondition, -⟩ := hentries
  have hnames : d.name = d'.name := hname.text_inj
  have htypes : d.type = d'.type := FieldType.name_injective htype.text_inj
  obtain ⟨hthere, hshown, hdemanded⟩ := Field.isShown?_eq hcondition
    (fun v hv w hw => hterms v (List.mem_append_left _ hv) w (List.mem_append_left _ hw))
    host answers
  have hrules : firstBroken? host (answers.get d.name) answers d.rules =
      firstBroken? host (answers.get d.name) answers d'.rules := by
    rw [Field.rules, Field.rules, htypes]
    refine Constraints.firstBroken?_eq hconstraints (fun r hr r' hr' => ?_) _ host answers d.name
    exact hterms _ (by simp [Field.terms, Option.mem_def.mp hr]) _
      (by simp [Field.terms, Option.mem_def.mp hr'])
  exact Field.finding?_congr hnames htypes hrequired.bool_inj hthere hshown hdemanded hrules

/-- **Lists of fields that are written alike are checked alike**, if their terms hold alike
wherever they are written alike. -/
theorem Schema.check?_eq {fields fields' : List Field} {print print' : String}
    (h : WrittenAlike (.list (fields.map Field.toValue)) (.list (fields'.map Field.toValue)))
    (hterms : ∀ d ∈ fields, ∀ v ∈ d.terms, ∀ d' ∈ fields', ∀ w ∈ d'.terms,
      WrittenAlike v w → v.HoldsAlike w) (host : Host) (answers : Answers) :
    (⟨fields.map Field.check, print⟩ : Schema).check? host answers =
      (⟨fields'.map Field.check, print'⟩ : Schema).check? host answers := by
  have hfields := Field.forall₂_of_writtenAlike h
  have hfindings : (fields.map Field.check).mapM (finding? host answers) =
      (fields'.map Field.check).mapM (finding? host answers) := by
    rw [List.mapM_map, List.mapM_map]
    refine mapM_eq_of_forall₂ (forall₂_imp_of_mem hfields fun d hd d' hd' halike => ?_)
    exact Field.finding?_eq halike (fun v hv w hw => hterms d hd v hv d' hd' w hw) host answers
  unfold check?
  rw [hfindings]

end Intake
