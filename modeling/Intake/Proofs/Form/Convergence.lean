import Intake.Proofs.Form.Settling

/-!
# Settling fields pass by pass

A pass settles every field in turn, in the order of the list, each under the answers as the
fields before left them.  So a field may be settled on answers that are about to change, and
has to be settled again.  The number of passes for this is bounded: each pass brings at least one
more grounded field to rest for good, namely one that reads nothing but fields at rest.

* `settlePass_cons` takes a pass apart, `settlePass_false` says what a pass without a change
  means;
* `Calm` is the invariant: some grounded fields are at rest, and read no field but these;
* `Calm.step` says that a pass keeps calm fields as they are and calms one more, whatever the
  order of the list;
* `Calm.run` is its conclusion for a number of passes, and `atRest_of_reconcile` that for as
  many as `reconcile` allows for;
* `reconcile_comes_to_rest` says that `reconcile` ends in answers that no pass changes.
-/

namespace Intake

variable {host : Host} {fields : List Field}

/-- A pass over a list settles its first field, then the others. -/
theorem settlePass_cons {d : Field} {rest : List Field} {a b : Answers} {changed : Bool}
    (h : settlePass host a (d :: rest) = .ok (b, changed)) :
    ∃ between first later, d.settle host a = .ok (between, first) ∧
      settlePass host between rest = .ok (b, later) ∧ changed = (first || later) := by
  obtain ⟨⟨between, first⟩, hfirst, h⟩ := exists_of_bind_eq_ok h
  obtain ⟨⟨last, later⟩, hlater, h⟩ := exists_of_bind_eq_ok h
  cases h
  exact ⟨between, first, later, hfirst, hlater, rfl⟩

/-- Where the first field can be settled, and then the others, so can the list. -/
theorem settlePass_of_cons {d : Field} {rest : List Field} {a between b : Answers}
    {first later : Bool} (hfirst : d.settle host a = .ok (between, first))
    (hlater : settlePass host between rest = .ok (b, later)) :
    settlePass host a (d :: rest) = .ok (b, first || later) := by
  simp [settlePass, hfirst, hlater, bind, Except.bind, pure, Except.pure]

/-- A pass changes no answer but those of its fields. -/
theorem settlePass_get {todo : List Field} {a b : Answers} {changed : Bool}
    (h : settlePass host a todo = .ok (b, changed)) {name : String}
    (hname : name ∉ fieldNames todo) : b.get name = a.get name := by
  induction todo generalizing a changed with
  | nil =>
    cases h
    rfl
  | cons d rest ih =>
    obtain ⟨between, first, later, hfirst, hlater, -⟩ := settlePass_cons h
    simp only [fieldNames, List.map_cons, List.mem_cons, not_or] at hname
    calc b.get name = between.get name := ih hlater hname.2
      _ = a.get name := Field.settle_get_of_ne hfirst hname.1

/-- **A pass without a change** leaves all answers as they are and finds every field at rest. -/
theorem settlePass_false {todo : List Field} {a b : Answers}
    (h : settlePass host a todo = .ok (b, false)) :
    b = a ∧ ∀ d ∈ todo, d.AtRest host a := by
  induction todo generalizing a with
  | nil =>
    cases h
    exact ⟨rfl, by simp⟩
  | cons d rest ih =>
    obtain ⟨between, first, later, hfirst, hlater, hchanged⟩ := settlePass_cons h
    obtain ⟨rfl, rfl⟩ : first = false ∧ later = false := by simpa using hchanged.symm
    rcases Field.settle_cases hfirst with ⟨rfl, -, hrest⟩ | ⟨-, -, -, -, htrue⟩
    · obtain ⟨rfl, hothers⟩ := ih hlater
      exact ⟨rfl, List.forall_mem_cons.mpr ⟨hrest, hothers⟩⟩
    · cases htrue

/-- A pass over fields at rest changes nothing. -/
theorem settlePass_of_atRest {todo : List Field} {a : Answers}
    (h : ∀ d ∈ todo, d.AtRest host a) : settlePass host a todo = .ok (a, false) := by
  induction todo with
  | nil => rfl
  | cons d rest ih =>
    obtain ⟨hd, hrest⟩ := List.forall_mem_cons.mp h
    exact settlePass_of_cons (Field.atRest_iff_settle.mp hd) (ih hrest)

/-- Some fields are **calm**: they are grounded and at rest, and read no other field but calm
ones. -/
structure Calm (host : Host) (fields : List Field) (calm : List String) (a : Answers) :
    Prop where
  grounded : ∀ name ∈ calm, Grounded host fields name
  atRest : ∀ d ∈ fields, d.name ∈ calm → d.AtRest host a
  closed : ∀ d ∈ fields, d.name ∈ calm → d.IsReady fields calm

/-- No field need be calm. -/
theorem Calm.nil (a : Answers) : Calm host fields [] a :=
  ⟨by simp, by simp, by simp⟩

/-- What a ready field reads is not changed when another field that is not calm is settled. -/
theorem Field.IsReady.ne_of_mem {calm : List String} {d e : Field}
    (hready : d.IsReady fields calm) (he : e ∈ fields) (hopen : e.name ∉ calm)
    {source : String} (hread : source ∈ d.reads) : source ≠ e.name := by
  rintro rfl
  exact hopen (hready _ hread (List.mem_map_of_mem he))

/-- Settling any field keeps calm ones calm, with the answers that they hold. -/
theorem Calm.settle {calm : List String} {a b : Answers} {d : Field} {changed : Bool}
    (hcalm : Calm host fields calm a) (hd : d ∈ fields)
    (h : d.settle host a = .ok (b, changed)) :
    Calm host fields calm b ∧ ∀ name, name ∈ calm ∨ name ∉ fieldNames fields →
      b.get name = a.get name := by
  by_cases hmem : d.name ∈ calm
  · have hsame := Field.atRest_iff_settle.mp (hcalm.atRest d hd hmem)
    rw [hsame] at h
    cases h
    exact ⟨hcalm, fun _ _ => rfl⟩
  · have hkeep : ∀ {name}, name ≠ d.name → b.get name = a.get name := Field.settle_get_of_ne h
    refine ⟨⟨hcalm.grounded, ?_, hcalm.closed⟩, ?_⟩
    · intro e he hecalm
      have hready := hcalm.closed e he hecalm
      have hlocal := (hcalm.grounded e.name hecalm).isLocal he
      exact Field.atRest_congr hlocal
        (fun source hread => (hkeep (hready.ne_of_mem hd hmem hread)).symm)
        (hkeep (fun heq => hmem (heq ▸ hecalm))).symm (hcalm.atRest e he hecalm)
    · rintro name (hname | hname)
      · exact hkeep (fun heq => hmem (heq ▸ hname))
      · exact hkeep (fun heq => hname (heq ▸ List.mem_map_of_mem hd))

/-- A pass over some fields keeps calm ones calm, with the answers that they hold. -/
theorem Calm.settlePass {calm : List String} {todo : List Field} {a b : Answers}
    {changed : Bool} (hcalm : Calm host fields calm a) (htodo : ∀ d ∈ todo, d ∈ fields)
    (h : settlePass host a todo = .ok (b, changed)) :
    Calm host fields calm b ∧ ∀ name, name ∈ calm ∨ name ∉ fieldNames fields →
      b.get name = a.get name := by
  induction todo generalizing a changed with
  | nil =>
    cases h
    exact ⟨hcalm, fun _ _ => rfl⟩
  | cons d rest ih =>
    obtain ⟨between, first, later, hfirst, hlater, -⟩ := settlePass_cons h
    obtain ⟨hbetween, hkeep⟩ := hcalm.settle (htodo d (by simp)) hfirst
    obtain ⟨hend, hkeepLater⟩ := ih hbetween (fun e he => htodo e (by simp [he])) hlater
    exact ⟨hend, fun name hname => (hkeepLater name hname).trans (hkeep name hname)⟩

/-- **A pass calms.**  A pass over some fields brings those grounded ones to rest that read
nothing but calm ones. -/
theorem Calm.atRest_of_ready {calm : List String} {todo : List Field} {a b : Answers}
    {changed : Bool} (hcalm : Calm host fields calm a) (htodo : ∀ d ∈ todo, d ∈ fields)
    (hnames : (fieldNames todo).Nodup) (h : Intake.settlePass host a todo = .ok (b, changed)) :
    ∀ d ∈ todo, Grounded host fields d.name → d.IsReady fields calm → d.AtRest host b := by
  induction todo generalizing a changed with
  | nil => simp
  | cons d rest ih =>
    obtain ⟨between, first, later, hfirst, hlater, -⟩ := settlePass_cons h
    have hd := htodo d (by simp)
    have hrest : ∀ e ∈ rest, e ∈ fields := fun e he => htodo e (by simp [he])
    obtain ⟨hunique, hnames⟩ := List.nodup_cons.mp hnames
    obtain ⟨hbetween, -⟩ := hcalm.settle hd hfirst
    refine List.forall_mem_cons.mpr ⟨?_, ih hbetween hrest hnames hlater⟩
    intro hgrounded hready
    have hlocal := hgrounded.isLocal hd
    have hsettled : d.AtRest host between :=
      Field.atRest_of_settle hlocal (hgrounded.not_mem_reads hd) hfirst
    -- the rest of the pass writes neither this field nor what it reads
    have hreads : ∀ source ∈ d.reads, between.get source = b.get source := by
      intro source hread
      have hfixed : source ∈ calm ∨ source ∉ fieldNames fields := by
        by_cases hsource : source ∈ fieldNames fields
        · exact .inl (hready source hread hsource)
        · exact .inr hsource
      exact ((hbetween.settlePass hrest hlater).2 source hfixed).symm
    exact Field.atRest_congr hlocal hreads (settlePass_get hlater hunique).symm hsettled

/-- **One pass further.**  Unless all grounded fields are calm, a pass calms one more. -/
theorem Calm.step {calm : List String} {a b : Answers} {changed : Bool}
    (hcalm : Calm host fields calm a) (hnames : (fieldNames fields).Nodup)
    (h : Intake.settlePass host a fields = .ok (b, changed)) :
    Calm host fields calm b ∧
      ((∃ name ∈ fieldNames fields, Grounded host fields name ∧ name ∉ calm) →
        ∃ d ∈ fields, d.name ∉ calm ∧ Calm host fields (d.name :: calm) b) := by
  obtain ⟨hkept, -⟩ := hcalm.settlePass (fun _ he => he) h
  refine ⟨hkept, fun hopen => ?_⟩
  obtain ⟨d, hd, hgrounded, hdopen, hready⟩ := exists_ready hopen
  have hrest := hcalm.atRest_of_ready (fun _ he => he) hnames h d hd hgrounded hready
  refine ⟨d, hd, hdopen, List.forall_mem_cons.mpr ⟨hgrounded, hkept.grounded⟩, ?_, ?_⟩
  · intro e he hmem
    rcases List.mem_cons.mp hmem with hname | hmem
    · rwa [List.inj_on_of_nodup_map hnames he hd hname]
    · exact hkept.atRest e he hmem
  · intro e he hmem source hread hsource
    rcases List.mem_cons.mp hmem with hname | hmem
    · rw [List.inj_on_of_nodup_map hnames he hd hname] at hread
      exact List.mem_cons_of_mem _ (hready source hread hsource)
    · exact List.mem_cons_of_mem _ (hcalm.closed e he hmem source hread hsource)

/-- Goes through the fields a number of times, whether anything changes or not. -/
def runPasses (host : Host) (fields : List Field) : Nat → Answers → Except Fault Answers
  | 0, answers => .ok answers
  | rounds + 1, answers => do
    let (answers, _) ← settlePass host answers fields
    runPasses host fields rounds answers

/-- A run of passes is a first pass and the others. -/
theorem runPasses_succ {rounds : Nat} {a b : Answers}
    (h : runPasses host fields (rounds + 1) a = .ok b) :
    ∃ between changed, settlePass host a fields = .ok (between, changed) ∧
      runPasses host fields rounds between = .ok b := by
  obtain ⟨⟨between, changed⟩, hpass, hlater⟩ := exists_of_bind_eq_ok h
  exact ⟨between, changed, hpass, hlater⟩

/-- **After each pass one more is calm.**  After a number of passes either all grounded fields
are calm, or as many fields more as there were passes. -/
theorem Calm.run {rounds : Nat} {calm : List String} {a b : Answers}
    (hcalm : Calm host fields calm a) (hcalmNames : calm.Nodup)
    (hcalmFields : calm ⊆ fieldNames fields) (hnames : (fieldNames fields).Nodup)
    (h : runPasses host fields rounds a = .ok b) :
    ∃ calm', calm'.Nodup ∧ calm' ⊆ fieldNames fields ∧ calm ⊆ calm' ∧
      Calm host fields calm' b ∧
      ((∀ name ∈ fieldNames fields, Grounded host fields name → name ∈ calm') ∨
        calm.length + rounds ≤ calm'.length) := by
  induction rounds generalizing calm a with
  | zero =>
    cases h
    exact ⟨calm, hcalmNames, hcalmFields, fun _ hname => hname, hcalm, .inr (by simp)⟩
  | succ rounds ih =>
    obtain ⟨between, changed, hpass, hlater⟩ := runPasses_succ h
    obtain ⟨hkept, hmore⟩ := hcalm.step hnames hpass
    by_cases hopen : ∃ name ∈ fieldNames fields, Grounded host fields name ∧ name ∉ calm
    · obtain ⟨d, hd, hdopen, hcalmer⟩ := hmore hopen
      obtain ⟨calm', hnodup, hfields, hgrows, hend, hsize⟩ := ih hcalmer
        (List.nodup_cons.mpr ⟨hdopen, hcalmNames⟩)
        (List.cons_subset.mpr ⟨List.mem_map_of_mem hd, hcalmFields⟩) hlater
      rw [List.length_cons] at hsize
      exact ⟨calm', hnodup, hfields, (List.cons_subset.mp hgrows).2, hend,
        hsize.imp_right (by omega)⟩
    · obtain ⟨calm', hnodup, hfields, hgrows, hend, -⟩ := ih hkept hcalmNames hcalmFields hlater
      refine ⟨calm', hnodup, hfields, hgrows, hend, .inl ?_⟩
      intro name hname hgrounded
      by_contra hout
      exact hopen ⟨name, hname, hgrounded, fun hmem => hout (hgrows hmem)⟩

/-- **Passes enough.**  After at least as many passes as there are fields, every grounded field
is at rest. -/
theorem atRest_of_runPasses {rounds : Nat} {a b : Answers}
    (hnames : (fieldNames fields).Nodup) (hrounds : fields.length ≤ rounds)
    (h : runPasses host fields rounds a = .ok b) :
    ∀ d ∈ fields, Grounded host fields d.name → d.AtRest host b := by
  obtain ⟨calm, hnodup, hfields, -, hcalm, hall⟩ :=
    (Calm.nil a).run List.nodup_nil (List.nil_subset _) hnames h
  intro d hd hgrounded
  have hname : d.name ∈ fieldNames fields := List.mem_map_of_mem hd
  rcases hall with hall | hsize
  · exact hcalm.atRest d hd (hall _ hname hgrounded)
  · have hlength : (fieldNames fields).length ≤ calm.length := by
      rw [fieldNames, List.length_map]
      exact hrounds.trans (by simpa using hsize)
    have hperm := (hnodup.subperm hfields).perm_of_length_le hlength
    exact hcalm.atRest d hd (hperm.symm.subset hname)

/-- Passes over fields at rest change nothing, however many there are. -/
theorem runPasses_of_pass {a : Answers} (h : settlePass host a fields = .ok (a, false))
    (rounds : Nat) : runPasses host fields rounds a = .ok a := by
  induction rounds with
  | zero => rfl
  | succ rounds ih => rw [runPasses, h]; exact ih

/-- Stopping at the first pass without a change gives what all the passes give. -/
theorem settlePasses_eq_runPasses (rounds : Nat) (a : Answers) :
    settlePasses host fields rounds a = runPasses host fields rounds a := by
  induction rounds generalizing a with
  | zero => rfl
  | succ rounds ih =>
    rw [settlePasses, runPasses]
    cases hpass : settlePass host a fields with
    | error fault => rfl
    | ok r =>
      obtain ⟨b, changed⟩ := r
      cases changed with
      | true => exact ih b
      | false =>
        obtain ⟨rfl, hrest⟩ := settlePass_false hpass
        exact (runPasses_of_pass hpass rounds).symm

/-- Reconciling is a run of one pass more than there are fields. -/
theorem reconcile_eq_runPasses (a : Answers) :
    reconcile host fields a = runPasses host fields (fields.length + 1) a :=
  settlePasses_eq_runPasses _ a

/-- A run of passes is also the first passes and a last one. -/
theorem runPasses_last {rounds : Nat} {a b : Answers}
    (h : runPasses host fields (rounds + 1) a = .ok b) :
    ∃ before changed, runPasses host fields rounds a = .ok before ∧
      settlePass host before fields = .ok (b, changed) := by
  induction rounds generalizing a with
  | zero =>
    obtain ⟨between, changed, hpass, hnone⟩ := runPasses_succ h
    cases hnone
    exact ⟨a, changed, rfl, hpass⟩
  | succ rounds ih =>
    obtain ⟨between, changed, hpass, hlater⟩ := runPasses_succ h
    obtain ⟨before, last, hrun, hlast⟩ := ih hlater
    refine ⟨before, last, ?_, hlast⟩
    rw [runPasses, hpass]
    exact hrun

/-- **Reconciled answers are at rest** in every grounded field, whatever goes on in the
others. -/
theorem atRest_of_reconcile {a b : Answers} (hnames : (fieldNames fields).Nodup)
    (h : reconcile host fields a = .ok b) :
    ∀ d ∈ fields, Grounded host fields d.name → d.AtRest host b := by
  rw [reconcile_eq_runPasses] at h
  exact atRest_of_runPasses hnames (Nat.le_succ _) h

/-- On an acyclic form the last of the passes that `reconcile` allows for changes nothing. -/
theorem settlePass_of_reconcile {a b : Answers} (hacyclic : Acyclic fields)
    (hlocal : ∀ e ∈ fields, e.IsLocal host) (hnames : (fieldNames fields).Nodup)
    (h : reconcile host fields a = .ok b) :
    runPasses host fields fields.length a = .ok b ∧
      settlePass host b fields = .ok (b, false) := by
  rw [reconcile_eq_runPasses] at h
  obtain ⟨before, changed, hrun, hlast⟩ := runPasses_last h
  have hrest := settlePass_of_atRest fun d hd =>
    atRest_of_runPasses hnames le_rfl hrun d hd (hacyclic.grounded hlocal d.name)
  obtain rfl : before = b := by
    rw [hrest] at hlast
    cases hlast
    rfl
  exact ⟨hrun, hrest⟩

/-- A field that words its faults and whose fallback can be cleaned can be settled. -/
theorem Field.exists_settle {d : Field} (hworded : d.IsWorded host)
    (hfallback : d.hasFallback = true → ∃ v, d.clean? host d.fallback = .ok v) (a : Answers) :
    ∃ b changed, d.settle host a = .ok (b, changed) := by
  have hsettled : ∃ o, d.Settlement host a o := by
    cases hderivation : d.derivation with
    | some derivation => exact ⟨_, .counted hderivation⟩
    | none =>
      obtain ⟨shown, hshown⟩ := Field.exists_isShown? hworded a
      cases shown with
      | false =>
        exact ⟨_, .hidden hderivation (isSome_of_hidden (isShown_of_eq_ok hshown)) hshown⟩
      | true =>
        by_cases hlacks : d.condition.isSome = true ∧
          (d.hasFallback && d.isUnset (a.get d.name)) = true
        · obtain ⟨v, hv⟩ := hfallback (Bool.and_eq_true_iff.mp hlacks.2).1
          exact ⟨_, .filled hderivation hlacks.1 hshown hlacks.2 hv⟩
        · exact ⟨_, .left hderivation hshown fun hcond => by simpa [hcond] using hlacks⟩
  obtain ⟨o, ho⟩ := hsettled
  exact exists_settle_of_settled? (settled?_eq_ok_iff.mpr ho)

/-- Where all faults are worded and all fallbacks can be cleaned, a pass succeeds. -/
theorem exists_settlePass {todo : List Field} (hworded : ∀ d ∈ todo, d.IsWorded host)
    (hfallback : ∀ d ∈ todo, d.hasFallback = true → ∃ v, d.clean? host d.fallback = .ok v)
    (a : Answers) : ∃ r, settlePass host a todo = .ok r := by
  induction todo generalizing a with
  | nil => exact ⟨_, rfl⟩
  | cons d rest ih =>
    obtain ⟨hd, hrest⟩ := List.forall_mem_cons.mp hfallback
    obtain ⟨hwords, hothers⟩ := List.forall_mem_cons.mp hworded
    obtain ⟨between, first, hfirst⟩ := Field.exists_settle hwords hd a
    obtain ⟨⟨b, later⟩, hlater⟩ := ih hothers hrest between
    exact ⟨_, settlePass_of_cons hfirst hlater⟩

/-- Where all faults are worded and all fallbacks can be cleaned, any number of passes succeeds. -/
theorem exists_runPasses (hworded : ∀ d ∈ fields, d.IsWorded host)
    (hfallback : ∀ d ∈ fields, d.hasFallback = true → ∃ v, d.clean? host d.fallback = .ok v)
    (rounds : Nat) (a : Answers) : ∃ b, runPasses host fields rounds a = .ok b := by
  induction rounds generalizing a with
  | zero => exact ⟨a, rfl⟩
  | succ rounds ih =>
    obtain ⟨⟨between, changed⟩, hpass⟩ := exists_settlePass hworded hfallback a
    obtain ⟨b, hlater⟩ := ih between
    refine ⟨b, ?_⟩
    rw [runPasses, hpass]
    exact hlater

/-- **Reconciling comes to rest.**  On an acyclic form of local fields with distinct names, whose
conditions word their faults, whatever the order of the fields and the answers to start from, one of
the passes that `reconcile` allows for changes nothing, so that it ends there; and no number of
further passes changes what it gives. -/
theorem reconcile_comes_to_rest (hnames : (fieldNames fields).Nodup)
    (hacyclic : Acyclic fields) (hlocal : ∀ d ∈ fields, d.IsLocal host)
    (hworded : ∀ d ∈ fields, d.IsWorded host)
    (hfallback : ∀ d ∈ fields, d.hasFallback = true → ∃ v, d.clean? host d.fallback = .ok v)
    (answers : Answers) :
    ∃ rounds < fields.length + 1, ∃ rested,
      runPasses host fields rounds answers = .ok rested ∧
      settlePass host rested fields = .ok (rested, false) ∧
      reconcile host fields answers = .ok rested ∧
      ∀ further, runPasses host fields further rested = .ok rested ∧
        settlePasses host fields further rested = .ok rested := by
  obtain ⟨rested, hreconcile⟩ := exists_runPasses hworded hfallback (fields.length + 1) answers
  rw [← settlePasses_eq_runPasses] at hreconcile
  obtain ⟨hrun, hrest⟩ := settlePass_of_reconcile hacyclic hlocal hnames hreconcile
  refine ⟨fields.length, Nat.lt_succ_self _, rested, hrun, hrest, hreconcile, fun further => ?_⟩
  have hfurther := runPasses_of_pass hrest further
  exact ⟨hfurther, by rw [settlePasses_eq_runPasses, hfurther]⟩

/-- A form listed backwards: a remark on a count, the count of a list, the list that is asked
for while a box is ticked, and the box. -/
def backwardForm : List Field :=
  [{ name := "remark", type := .text, fallback := .text "none",
     condition := some ⟨⟨"count", .int 0⟩, false, none⟩ },
   { name := "count", type := .number, derivation := some ⟨"items"⟩ },
   { name := "items", type := .multiSelect,
     condition := some ⟨⟨"listed", .callable (.predicate .isTruthy ⟨.read 0, 2, .condition⟩)⟩,
       false, none⟩ },
   { name := "listed", type := .checkbox }]

/-- The fields of the form listed backwards depend on those after them. -/
theorem acyclic_backwardForm : Acyclic backwardForm := by
  refine acyclic_of_rank
    (fun name => if name = "remark" then 3 else if name = "count" then 2
      else if name = "items" then 1 else 0) ?_
  decide

/-- The fields of the form listed backwards are local. -/
theorem isLocal_backwardForm : ∀ d ∈ backwardForm, d.IsLocal Host.none := by
  intro d hd c hc
  simp only [backwardForm, List.mem_cons, List.not_mem_nil, or_false] at hd
  rcases hd with rfl | rfl | rfl | rfl <;> cases hc
  · exact ⟨Clause.isLocal_of_literal (by simp), by simp⟩
  · exact ⟨Clause.isLocal_of_predicate rfl, by simp⟩

/-- The form listed backwards comes to rest, here from answers that it takes three passes for. -/
theorem reconcile_backwardForm_comes_to_rest :
    ∃ rounds < backwardForm.length + 1, ∃ rested,
      runPasses Host.none backwardForm rounds
        (Answers.ofEntries [("remark", .text ""), ("count", .int 1),
          ("items", .list [.text "a"]), ("listed", .bool false)]) = .ok rested ∧
      settlePass Host.none rested backwardForm = .ok (rested, false) ∧
      reconcile Host.none backwardForm
        (Answers.ofEntries [("remark", .text ""), ("count", .int 1),
          ("items", .list [.text "a"]), ("listed", .bool false)]) = .ok rested ∧
      ∀ further, runPasses Host.none backwardForm further rested = .ok rested ∧
        settlePasses Host.none backwardForm further rested = .ok rested := by
  refine reconcile_comes_to_rest (by decide) acyclic_backwardForm isLocal_backwardForm ?_ ?_ _
  · intro d hd c hc
    simp only [backwardForm, List.mem_cons, List.not_mem_nil, or_false] at hd
    rcases hd with rfl | rfl | rfl | rfl <;> cases hc
    · exact ⟨Clause.isWorded_of_literal (by simp), by simp⟩
    · exact ⟨Clause.isWorded_of_predicate rfl, by simp⟩
  · intro d hd hfallback
    simp only [backwardForm, List.mem_cons, List.not_mem_nil, or_false] at hd
    rcases hd with rfl | rfl | rfl | rfl
    · exact ⟨.text "none", by rfl⟩
    all_goals cases hfallback

end Intake
