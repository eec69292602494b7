import Intake.Proofs.Form.Invariant
import Intake.Proofs.Schema.Checking
import Mathlib.Data.Set.Basic

/-!
# Unrelated fields do not influence each other

A field is cleaned by itself, and settled and checked by looking at the names that it mentions:
those of its condition, that of its derivation and that of its own rule.  A set of names is
**closed** if it has, with every field, the names that the field mentions.  Such a set is a form
within the form: answers outside of it have no influence on what comes of those inside.

There is one way in which they might.  All fields are settled in one loop, which goes on while any
of them changes, so that answers outside decide how often the fields inside are settled.  But as
long as those inside change the loop does not stop, and once they do not change nothing comes of
going on.

* `Answers.AgreeOn` compares two sets of answers on some names;
* `Answers.AgreeOn.settle` is about settling one field, in both at once; `AgreeOn.settlePass` and
  `AgreeOn.runPasses` are about passes;
* `Field.run?_congr` says that the check of a field depends on what the field mentions;
* `results_agreeOn` is the conclusion.
-/

namespace Intake

/-! ## What a field mentions -/

/-- The names that a test reads. -/
def RuleTest.reads : RuleTest Value → List String
  | .notMoreThan (.text name) | .atLeastItemsOf (.text name) => [name]
  | _ => []

/-- The names that a form's own rule reads. -/
def OwnRule.reads (r : OwnRule) : List String :=
  match r.test with
  | .test t _ => t.reads
  | _ => []

/-- The names that a field mentions: those it reads, and those that its own rule reads. -/
def Field.mentions (d : Field) : List String :=
  d.reads ++ d.constraints.own.toList.flatMap OwnRule.reads

/-- All that a rule looks at, beside the value, are the answers that it reads. -/
def OwnRule.IsLocal (host : Host) (r : OwnRule) : Prop :=
  ∀ (value : Value) (a b : Answers), (∀ name ∈ r.reads, a.get name = b.get name) →
    r.passes? host value a = r.passes? host value b

/-- What stands under a value is the answer under it, if it is a name. -/
theorem Answers.at?_congr {a b : Answers} {field : Value}
    (h : ∀ name, field = .text name → a.get name = b.get name) : a.at? field = b.at? field := by
  cases field with
  | text name => exact congrArg Except.ok (h name rfl)
  | _ => rfl

/-- A rule with a test of the engine is local. -/
theorem OwnRule.isLocal_of_test {host : Host} {r : OwnRule} {t : RuleTest Value}
    {identity : Identity} (htest : r.test = .test t identity) : r.IsLocal host := by
  intro value a b hreads
  have htests : t.passes? value a = t.passes? value b := by
    cases t with
    | notMoreThan field | atLeastItemsOf field =>
      have hsame : a.at? field = b.at? field := by
        refine Answers.at?_congr ?_
        rintro name rfl
        exact hreads name (by simp [reads, htest, RuleTest.reads])
      rw [RuleTest.passes?, hsame, RuleTest.passes?]
    | _ => rfl
  simp only [passes?, htest, Callable.decide?, htests]
  rfl

/-- A field **keeps to itself** if its functions look at nothing but what it mentions. -/
structure Field.KeepsToItself (host : Host) (d : Field) : Prop where
  isLocal : d.IsLocal host
  rule : ∀ r ∈ d.constraints.own, r.IsLocal host

/-- A set of names is **closed** if it has, with every field, the names that the field mentions. -/
def IsClosed (fields : List Field) (names : Set String) : Prop :=
  ∀ d ∈ fields, d.name ∈ names → ∀ name ∈ d.mentions, name ∈ names

/-! ## Answers that agree -/

/-- Two sets of answers **agree** on some names if they read alike under each. -/
def Answers.AgreeOn (names : Set String) (a b : Answers) : Prop :=
  ∀ name ∈ names, a.get name = b.get name

section Agree

variable {host : Host} {fields : List Field} {names : Set String} {a b a' b' : Answers}

/-- **One field settled in both.**  Answers that agree on a closed set of names agree on it when a
field has been settled. -/
theorem Answers.AgreeOn.settle {d : Field} {changed changed' : Bool} (h : a.AgreeOn names b)
    (hlocal : d.name ∈ names → d.IsLocal host)
    (hclosed : d.name ∈ names → ∀ name ∈ d.reads, name ∈ names)
    (ha : d.settle host a = .ok (a', changed)) (hb : d.settle host b = .ok (b', changed')) :
    a'.AgreeOn names b' := by
  intro name hname
  by_cases hown : name = d.name
  · subst hown
    obtain ⟨o, ho, ha'⟩ := Field.get_of_settle ha
    obtain ⟨o', ho', hb'⟩ := Field.get_of_settle hb
    have hreads : ∀ source ∈ d.reads, a.get source = b.get source :=
      fun source hread => h source (hclosed hname source hread)
    have hsettled := Field.settled?_congr (hlocal hname) hreads (h _ hname)
    obtain rfl : o = o' := Except.ok.inj (ho.symm.trans (hsettled.trans ho'))
    rw [ha', hb', h _ hname]
  · rw [Field.settle_get_of_ne ha hown, Field.settle_get_of_ne hb hown]
    exact h name hname

/-- Answers that agree on a closed set of names agree on it after a pass over some fields. -/
theorem Answers.AgreeOn.settlePass {todo : List Field} {changed changed' : Bool}
    (h : a.AgreeOn names b) (hlocal : ∀ d ∈ todo, d.name ∈ names → d.IsLocal host)
    (hclosed : ∀ d ∈ todo, d.name ∈ names → ∀ name ∈ d.reads, name ∈ names)
    (ha : settlePass host a todo = .ok (a', changed))
    (hb : settlePass host b todo = .ok (b', changed')) : a'.AgreeOn names b' := by
  induction todo generalizing a b changed changed' with
  | nil =>
    cases ha
    cases hb
    exact h
  | cons d rest ih =>
    obtain ⟨between, first, later, hfirst, hlater, -⟩ := settlePass_cons ha
    obtain ⟨between', first', later', hfirst', hlater', -⟩ := settlePass_cons hb
    obtain ⟨hd, hrest⟩ := List.forall_mem_cons.mp hlocal
    obtain ⟨hdclosed, hrestclosed⟩ := List.forall_mem_cons.mp hclosed
    exact ih (h.settle hd hdclosed hfirst hfirst') hrest hrestclosed hlater hlater'

/-- Answers that agree on a closed set of names agree on it after the same number of passes. -/
theorem Answers.AgreeOn.runPasses {rounds : Nat} (h : a.AgreeOn names b)
    (hlocal : ∀ d ∈ fields, d.name ∈ names → d.IsLocal host)
    (hclosed : ∀ d ∈ fields, d.name ∈ names → ∀ name ∈ d.reads, name ∈ names)
    (ha : runPasses host fields rounds a = .ok a')
    (hb : runPasses host fields rounds b = .ok b') : a'.AgreeOn names b' := by
  induction rounds generalizing a b with
  | zero =>
    cases ha
    cases hb
    exact h
  | succ rounds ih =>
    obtain ⟨between, _, hpass, hlater⟩ := runPasses_succ ha
    obtain ⟨between', _, hpass', hlater'⟩ := runPasses_succ hb
    exact ih (h.settlePass hlocal hclosed hpass hpass') hlater hlater'

/-- Answers that agree on some names agree on them once they are cleaned. -/
theorem Answers.AgreeOn.cleanAll (h : a.AgreeOn names b) (hnames : (fieldNames fields).Nodup)
    (ha : cleanAll host a fields = .ok a') (hb : cleanAll host b fields = .ok b') :
    a'.AgreeOn names b' := by
  obtain ⟨hkeys, hcleaned⟩ := meets_clean?_of_cleanAll hnames ha
  obtain ⟨hkeys', hcleaned'⟩ := meets_clean?_of_cleanAll hnames hb
  intro name hname
  by_cases hfield : name ∈ fieldNames fields
  · obtain ⟨d, hd, rfl⟩ := List.mem_map.mp hfield
    have hsame := hcleaned d hd
    rw [h _ hname, hcleaned' d hd] at hsame
    exact (Except.ok.inj hsame).symm
  · rw [Answers.get_of_not_mem (hkeys ▸ hfield), Answers.get_of_not_mem (hkeys' ▸ hfield)]

end Agree

/-! ## Checking -/

section Check

variable {host : Host} {a b : Answers} {d : Field}

/-- A field is required now if its condition makes it required and it is shown. -/
theorem Field.isRequiredNow?_eq (host : Host) (a : Answers) (d : Field) :
    d.isRequiredNow? host a =
      if d.condition.any Condition.required then d.isShown? host a else .ok false := by
  unfold isRequiredNow? isShown?
  cases d.condition <;> rfl

/-- A rule that is local is obeyed alike where the answers that it reads are the same. -/
theorem Rule.obeyed?_congr {r : Rule} {value : Value}
    (h : ∀ own, r = .own own → own.IsLocal host ∧ ∀ name ∈ own.reads, a.get name = b.get name) :
    r.obeyed? host value a = r.obeyed? host value b := by
  cases r with
  | own own =>
    obtain ⟨hlocal, hreads⟩ := h own rfl
    exact hlocal value a b hreads
  | _ => rfl

/-- **The check of a field depends on what the field mentions.** -/
theorem Field.run?_congr (hitself : d.KeepsToItself host)
    (h : ∀ name ∈ d.mentions, a.get name = b.get name) (value : Value) :
    d.check.run? host value a = d.check.run? host value b := by
  have hreads : ∀ source ∈ d.reads, a.get source = b.get source :=
    fun source hread => h source (List.mem_append_left _ hread)
  have hshown := isShown?_congr hitself.isLocal hreads
  have hdemand : FieldCheck.demand? host a d = FieldCheck.demand? host b d := by
    unfold FieldCheck.demand?
    rw [isRequiredNow?_eq, isRequiredNow?_eq, hshown]
  have hrules : firstBroken? host value a d.rules = firstBroken? host value b d.rules := by
    rw [← firstBrokenBy?_eq (fun _ _ => rfl)]
    refine firstBrokenBy?_eq fun r hr => ?_
    have hobeyed : r.obeyed? host value a = r.obeyed? host value b := by
      refine Rule.obeyed?_congr ?_
      rintro own rfl
      cases Constraints.isOf_of_mem_rules hr with
      | own hown =>
        refine ⟨hitself.rule own hown, fun name hname => h name (List.mem_append_right _ ?_)⟩
        exact List.mem_flatMap.mpr ⟨own, Option.mem_toList.mpr hown, hname⟩
    rw [Rule.check?, Rule.check?, hobeyed]
  unfold FieldCheck.run? Field.check
  dsimp only
  rw [hshown, hdemand, hrules]

end Check

/-- **Unrelated fields do not influence each other.**  Where raw answers agree on a closed set of
names, and the fields of it keep to themselves, the sanitized answers agree on it, and what the
schema of the form finds in them is the same for the fields of it: whatever the raw answers are
outside of it, however the fields there hang together, and whether or not the fields inside come to
rest.  There are reports on both if all fields are steady, as they are with functions of the engine.
-/
theorem results_agreeOn {host : Host} {fields : List Field} {names : Set String}
    (hnames : (fieldNames fields).Nodup) (hclosed : IsClosed fields names)
    (hitself : ∀ d ∈ fields, d.name ∈ names → d.KeepsToItself host) {raw raw' s s' : Answers}
    (hraw : raw.AgreeOn names raw') (h : sanitize host fields raw = .ok s)
    (h' : sanitize host fields raw' = .ok s') :
    s.keys = s'.keys ∧ s.AgreeOn names s' ∧
    ∀ schema, Schema.compile fields = .ok schema →
      (∀ name ∈ names, schema.checkField? host name s = schema.checkField? host name s') ∧
      ((∀ d ∈ fields, d.IsSteady host) → ∃ report report',
        schema.check? host s = .ok report ∧ schema.check? host s' = .ok report') ∧
      ∀ report report', schema.check? host s = .ok report → schema.check? host s' = .ok report' →
        (∀ f, f.field ∈ names → (f ∈ report.findings ↔ f ∈ report'.findings)) ∧
        ∀ name ∈ names, report.messageFor? name = report'.messageFor? name := by
  have hreads : ∀ d ∈ fields, d.name ∈ names → ∀ name ∈ d.reads, name ∈ names :=
    fun d hd hname source hread => hclosed d hd hname source (List.mem_append_left _ hread)
  have hagree : s.AgreeOn names s' := by
    obtain ⟨cleaned, hcleaned, hreconcile⟩ := exists_of_bind_eq_ok h
    obtain ⟨cleaned', hcleaned', hreconcile'⟩ := exists_of_bind_eq_ok h'
    rw [reconcile, settlePasses_eq_runPasses] at hreconcile hreconcile'
    exact (hraw.cleanAll hnames hcleaned hcleaned').runPasses
      (fun d hd hname => (hitself d hd hname).isLocal) hreads hreconcile hreconcile'
  have hrun : ∀ d ∈ fields, d.name ∈ names →
      d.check.run? host (s.get d.name) s = d.check.run? host (s'.get d.name) s' := by
    intro d hd hname
    rw [hagree _ hname]
    exact Field.run?_congr (hitself d hd hname)
      (fun source hsource => hagree source (hclosed d hd hname source hsource)) _
  refine ⟨(keys_of_sanitize hnames h).trans (keys_of_sanitize hnames h').symm, hagree,
    fun schema hschema => ?_⟩
  obtain ⟨hsame, hchecks⟩ := Schema.names_of_compile hschema
  have hfield : ∀ name ∈ names,
      schema.checkField? host name s = schema.checkField? host name s' := by
    intro name hname
    by_cases hmem : name ∈ fieldNames fields
    · obtain ⟨d, hd, rfl⟩ := List.mem_map.mp hmem
      rw [Schema.checkField?_eq_run? hschema hd, Schema.checkField?_eq_run? hschema hd,
        hrun d hd hname]
    · have hnone : name ∉ schema.names := hsame ▸ hmem
      rw [Schema.checkField?_of_not_mem hnone, Schema.checkField?_of_not_mem hnone]
  refine ⟨hfield, fun hsteady => ?_, fun report report' hreport hreport' =>
    ⟨fun f hf => ?_, fun name hname => ?_⟩⟩
  · obtain ⟨report, hreport⟩ := Schema.exists_check? hschema hsteady s
    obtain ⟨report', hreport'⟩ := Schema.exists_check? hschema hsteady s'
    exact ⟨report, report', hreport, hreport'⟩
  · rw [Schema.mem_findings hreport, Schema.mem_findings hreport']
    refine exists_congr fun c => and_congr_right fun hc => and_congr_left fun hfound => ?_
    obtain ⟨d, hd, rfl⟩ := (hchecks c).mp hc
    have hname : d.name ∈ names := by
      rw [hfound] at hf
      exact hf
    exact Eq.congr_left (hrun d hd hname)
  · have hdistinct := Schema.nodup_names_of_compile hschema
    have hsides := hfield name hname
    rw [Schema.checkField?_eq hdistinct hreport, Schema.checkField?_eq hdistinct hreport'] at hsides
    exact Except.ok.inj hsides

/-- A form with guests and the seats for them, two boxes, each asked for while the other has the
right answer, and a box that is asked for while the last one is ticked. -/
def guestForm : List Field :=
  [{ name := "guests", type := .multiValue },
   { name := "late", type := .checkbox, fallback := .bool true,
     condition := some ⟨⟨"open", .bool true⟩, true, none⟩ },
   { name := "seats", type := .number, constraints :=
       { own := some ⟨.test (.atLeastItemsOf (.text "guests")) ⟨.builtin "guests", 2, .rule⟩,
           "Too few seats"⟩ } },
   { name := "first", type := .checkbox, fallback := .bool true,
     condition := some ⟨⟨"second", .bool false⟩, false, none⟩ },
   { name := "second", type := .checkbox, fallback := .bool true,
     condition := some ⟨⟨"first", .bool true⟩, false, none⟩ },
   { name := "open", type := .checkbox }]

/-- The fields of the form with guests keep to themselves. -/
theorem keepsToItself_guestForm : ∀ d ∈ guestForm, d.KeepsToItself Host.none := by
  intro d hd
  simp only [guestForm, List.mem_cons, List.not_mem_nil, or_false] at hd
  constructor
  · intro c hc
    rcases hd with rfl | rfl | rfl | rfl | rfl | rfl <;> cases hc <;>
      exact ⟨Clause.isLocal_of_literal (by simp), by simp⟩
  · intro r hr
    rcases hd with rfl | rfl | rfl | rfl | rfl | rfl <;> cases hr
    exact OwnRule.isLocal_of_test rfl

/-- In the form with guests, the boxes that go round in a circle end alike and the seats are found
to be too few, whether the last box is ticked or not. -/
theorem agreeOn_guestForm :
    ∃ s s' schema, sanitize Host.none guestForm (.ofEntries [("guests", .list [.text "a"])]) =
        .ok s ∧
      sanitize Host.none guestForm (.ofEntries
        [("unknown", .int 1), ("open", .bool true), ("guests", .list [.text "a"])]) = .ok s' ∧
      s.get "late" = .bool false ∧ s'.get "late" = .bool true ∧
      s.AgreeOn { name | name ∉ ["unknown", "late", "open"] } s' ∧
      Schema.compile guestForm = .ok schema ∧
      schema.checkField? Host.none "seats" s = .ok (some "Too few seats") ∧
      schema.checkField? Host.none "seats" s' = .ok (some "Too few seats") := by
  have h : sanitize Host.none guestForm (.ofEntries [("guests", .list [.text "a"])]) =
      .ok (.ofEntries [("guests", .list [.text "a"]), ("late", .bool false), ("seats", .int 0),
        ("first", .bool true), ("second", .bool true), ("open", .bool false)]) := by cbv
  have h' : sanitize Host.none guestForm (.ofEntries
      [("unknown", .int 1), ("open", .bool true), ("guests", .list [.text "a"])]) =
        .ok (.ofEntries [("guests", .list [.text "a"]), ("late", .bool true), ("seats", .int 0),
          ("first", .bool true), ("second", .bool true), ("open", .bool true)]) := by cbv
  have hclosed : IsClosed guestForm { name | name ∉ ["unknown", "late", "open"] } := by
    show ∀ d ∈ guestForm, d.name ∉ ["unknown", "late", "open"] →
      ∀ name ∈ d.mentions, name ∉ ["unknown", "late", "open"]
    decide
  have hraw : (Answers.ofEntries [("guests", .list [.text "a"])]).AgreeOn
      { name | name ∉ ["unknown", "late", "open"] } (.ofEntries
        [("unknown", .int 1), ("open", .bool true), ("guests", .list [.text "a"])]) := by
    intro name hname
    simp only [Set.mem_ofPred_eq, List.mem_cons, List.not_mem_nil, or_false, not_or] at hname
    obtain ⟨hunknown, -, hopen⟩ := hname
    show (Answers.empty.set "guests" _).get name =
      (((Answers.empty.set "unknown" _).set "open" _).set "guests" _).get name
    rw [Answers.get_set, Answers.get_set, Answers.get_set, if_neg (Ne.symm hopen), Answers.get_set,
      if_neg (Ne.symm hunknown)]
  obtain ⟨t, ht⟩ : ∃ t, payload? guestForm = .ok t := by
    refine exists_payload? fun d hd => ?_
    simp only [guestForm, List.mem_cons, List.not_mem_nil, or_false] at hd
    rcases hd with rfl | rfl | rfl | rfl | rfl | rfl <;> exact ⟨_, rfl⟩
  have hnames : (fieldNames guestForm).Nodup := by decide
  have hschema := Schema.compile_eq_ok hnames ht
  obtain ⟨-, hagree, hchecked⟩ := results_agreeOn hnames hclosed
    (fun d hd _ => keepsToItself_guestForm d hd) hraw h h'
  obtain ⟨hfields, -⟩ := hchecked _ hschema
  have hseats : ∀ print, (⟨guestForm.map Field.check, print⟩ : Schema).checkField? Host.none "seats"
      (.ofEntries [("guests", .list [.text "a"]), ("late", .bool false), ("seats", .int 0),
        ("first", .bool true), ("second", .bool true), ("open", .bool false)]) =
          .ok (some "Too few seats") := by
    intro print
    cbv
  refine ⟨_, _, _, h, h', rfl, rfl, hagree, hschema, hseats _, ?_⟩
  exact (hfields "seats" (by decide)).symm.trans (hseats _)

end Intake
