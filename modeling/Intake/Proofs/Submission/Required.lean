import Intake.Proofs.Form.Blank
import Intake.Proofs.Form.Invariant
import Intake.Proofs.Schema.Checking
import Intake.Proofs.Submission.Desk
import Intake.Proofs.Submission.Office

/-!
# Required fields that were left blank

A required field that depends on no other is asked for once its answers have been cleaned.  What
counts is therefore not what was entered but what cleaning has made of it: nothing may be made of
it, and then the answers are rejected, or a value may, and then they are not.  A value is made of it
for numbers and boxes, for which zero and an empty box are answers, and by a cleaner of the host
that does not leave blanks.

The schema that asks for the field may come from a cache, and then it may be that of other fields,
whose functions differ.  But what is demanded of a field can be told from the text of the fields.

* `Office.exists_alike_of_of?` says what the schema of an office was made of;
* `Office.fieldErrors?_of_required` says that such an office asks for the field;
* `submit_of_blank` is the conclusion, and `blank_handed_over` shows what it leaves out.
-/

namespace Intake

/-! ## What a schema says of a required field -/

section Check

variable {host : Host} {answers : Answers} {value : Value} {d : Field}

/-- Rules that can be tried say something exactly if one is broken. -/
theorem exists_firstBroken?_iff {rules : List Rule}
    (h : ∃ result, firstBroken? host value answers rules = .ok result) :
    (∃ message, firstBroken? host value answers rules = .ok (some message)) ↔
      ∃ r ∈ rules, r.obeyed host value answers = false := by
  obtain ⟨result, hresult⟩ := h
  have hobeyed : result = none ↔ ∀ r ∈ rules, r.obeyed host value answers = true := by
    rw [← firstBroken?_eq_none_iff, hresult, Except.ok.injEq]
  rw [hresult]
  cases result with
  | none =>
    refine iff_of_false (by rintro ⟨message, h⟩; cases h) ?_
    rintro ⟨r, hr, hbroken⟩
    rw [hobeyed.mp rfl r hr] at hbroken
    cases hbroken
  | some message =>
    refine iff_of_true ⟨message, rfl⟩ ?_
    by_contra hnone
    push Not at hnone
    cases hobeyed.mpr fun r hr => Bool.eq_true_of_not_eq_false (hnone r hr)

/-- The empty value of a number or a box is a value that fits its sort. -/
theorem FieldType.accepts_emptyValue {type : FieldType}
    (htype : type = .number ∨ type = .checkbox) :
    type.emptyValue.isEmpty = false ∧ type.accepts type.emptyValue = true := by
  rcases htype with rfl | rfl
  · exact ⟨rfl, rfl⟩
  · exact ⟨rfl, rfl⟩

end Check

/-! ## What an office says of it -/

section Office

variable {host : Host} {settings : Settings} {limit : Nat} {calls : List CacheCall}
  {cache : SchemaCache} {fields : List Field} {office : Office} {problems : List LintProblem}

/-- The schema of an office was made of fields that are written like those of the office, if none
that the cache was asked for collide with them. -/
theorem Office.exists_alike_of_of?
    (h : Office.of? host settings ((SchemaCache.empty limit).run calls) fields =
      (.ok (office, problems), cache))
    (hcalls : ∀ earlier, .get earlier ∈ calls → ¬ Collide earlier fields) :
    (fieldNames fields).Nodup ∧ office.host = host ∧ office.fields = fields ∧
      ∃ made, Schema.compile made = .ok office.schema ∧
        List.Forall₂ (fun d d' => Value.WrittenAlike d.toValue d'.toValue) made fields := by
  obtain ⟨hnames, e, he, rfl⟩ := Office.of_of? h
  obtain ⟨made, hmade, halike⟩ := SchemaCache.exists_alike_of_get hnames hcalls he
  exact ⟨hnames, rfl, rfl, made, hmade, Field.forall₂_of_writtenAlike halike⟩

/-- The check across fields finds nothing of a field without a condition. -/
theorem not_mem_crossCheck {answers : Answers} (hnames : (fieldNames fields).Nodup) {d : Field}
    (hd : d ∈ fields) (hcond : d.condition = none) (message : String) :
    (d.name, message) ∉ crossCheck host fields answers := by
  intro hmem
  obtain ⟨-, e, he, hname, hrequired, -⟩ := mem_crossCheck.mp hmem
  rw [List.inj_on_of_nodup_map hnames he hd hname, Field.isRequiredNow_eq, hcond] at hrequired
  cases hrequired

/-- An office whose schema checks answers like one of some fields says of such a field what its
check says, unless the check across fields says something of it. -/
theorem Office.mem_fieldErrors? {s : Schema} (hs : Schema.compile fields = .ok s)
    {payload : Answers} {errors : List (String × String)}
    (hsame : office.schema.check? office.host payload = s.check? office.host payload)
    (herrors : office.fieldErrors? payload = .ok errors) {d : Field} (hd : d ∈ fields)
    (hacross : ∀ message, (d.name, message) ∉ crossCheck office.host office.fields payload) :
    ∃ said, d.check.run? office.host (payload.get d.name) payload = .ok said ∧
      ∀ message, (d.name, message) ∈ errors ↔ said = some message := by
  have hnames := Schema.nodup_of_compile hs
  obtain ⟨hschema, hchecks⟩ := Schema.names_of_compile hs
  unfold fieldErrors? at herrors
  obtain ⟨report, hreport, herrors⟩ := exists_of_bind_eq_ok herrors
  obtain ⟨missing, hmissing, herrors⟩ := exists_of_bind_eq_ok herrors
  obtain ⟨-, rfl⟩ := crossCheck?_eq_ok_iff.mp hmissing
  cases herrors
  rw [hsame] at hreport
  have hdistinct : (report.findings.map Finding.field).Nodup :=
    (Schema.names_findings hreport).nodup (hschema ▸ hnames)
  have hrun : d.check.run? office.host (payload.get d.name) payload =
      .ok (report.messageFor? d.name) := by
    rw [← Schema.checkField?_eq_run? hs hd]
    exact Schema.checkField?_eq (Schema.nodup_names_of_compile hs) hreport d.name
  refine ⟨_, hrun, fun message => ?_⟩
  rw [List.mem_append, or_iff_left (mt List.mem_of_mem_filter (hacross message)),
    Report.byField_eq hdistinct, List.mem_map]
  constructor
  · rintro ⟨f, hf, heq⟩
    obtain ⟨c, hc, hfound, hfield⟩ := (Schema.mem_findings hreport).mp hf
    obtain ⟨e, he, rfl⟩ := (hchecks c).mp hc
    obtain ⟨hname, rfl⟩ := Prod.mk.inj heq
    rw [hfield] at hname
    obtain rfl := List.inj_on_of_nodup_map hnames he hd hname
    exact Except.ok.inj (hrun.symm.trans hfound)
  · intro hsaid
    exact ⟨⟨d.name, message, .field⟩, (Schema.mem_findings hreport).mpr
      ⟨d.check, (hchecks _).mpr ⟨d, hd, rfl⟩, hrun.trans (congrArg Except.ok hsaid), rfl⟩, rfl⟩

/-- An office whose schema is told apart has messages for all answers, if its fields are steady. -/
theorem Office.exists_fieldErrors? {s : Schema} (hs : Schema.compile fields = .ok s)
    (hcalls : ∀ earlier, .get earlier ∈ calls → ToldApart earlier fields)
    (h : Office.of? host settings ((SchemaCache.empty limit).run calls) fields =
      (.ok (office, problems), cache))
    (hsteady : ∀ d ∈ fields, d.IsSteady host) (payload : Answers) :
    ∃ errors, office.fieldErrors? payload = .ok errors := by
  obtain ⟨rfl, rfl, hsame⟩ := Office.check?_of_of? hs hcalls h
  obtain ⟨report, hreport⟩ := Schema.exists_check? hs hsteady payload
  exact ⟨report.byField, by rw [Office.fieldErrors?_eq_check? hs (hsame payload), hreport]; rfl⟩

/-- **An office asks for a required field** without a condition that has no value. -/
theorem Office.fieldErrors?_of_required {made : List Field}
    (hmade : Schema.compile made = .ok office.schema)
    (halike : List.Forall₂ (fun d d' => Value.WrittenAlike d.toValue d'.toValue) made office.fields)
    (hnames : (fieldNames office.fields).Nodup) {d : Field} (hd : d ∈ office.fields)
    (hrequired : d.required = true) (hcond : d.condition = none) {payload : Answers}
    (hempty : (payload.get d.name).isEmpty = true) {errors : List (String × String)}
    (herrors : office.fieldErrors? payload = .ok errors) : (d.name, Wording.required) ∈ errors := by
  -- the field that the schema asks for is written like the one that is required
  obtain ⟨d', hd', hwritten⟩ := exists_of_mem_forall₂ halike.flip hd
  obtain ⟨hname, hdemand, hcondition⟩ := Field.parts_of_writtenAlike hwritten
  have hcond' : d'.condition = none := by
    rw [hcond] at hcondition
    simpa using hcondition
  have hrun : d'.check.run? office.host (payload.get d'.name) payload =
      .ok (some Wording.required) :=
    Field.run?_of_required (hdemand.trans hrequired) hcond' (hname ▸ hempty)
  obtain ⟨said, hsaid, hmem⟩ := Office.mem_fieldErrors? hmade rfl herrors hd'
    (hname ▸ not_mem_crossCheck hnames hd hcond)
  exact hname ▸ (hmem _).mpr (Except.ok.inj (hsaid.symm.trans hrun))

end Office

/-! ## Submitting blank answers -/

section Submit

variable {host : Host} {settings : Settings} {limit : Nat} {calls : List CacheCall}
  {cache : SchemaCache} {fields : List Field} {office : Office} {problems : List LintProblem}

/-- **A required field that was left blank is asked for.**  At a desk that is ready, and whose
office got its schema from a cache that was asked for no fields that collide with its own, let a
required field be left blank that depends on no other one and leaves blanks.

* If it is not a number or a box, nothing is handed over, and the submission fails unless the desk
  hangs on the answers; where they can be cleaned and checked they are rejected with a message for
  the field.
* If it is a number or a box, zero or an empty box is submitted in its place, and where the answers
  can be checked there is a message for the field just if a rule of the field is broken by that, as
  long as the cache told the fields apart. -/
theorem submit_of_blank
    (hoffice : Office.of? host settings ((SchemaCache.empty limit).run calls) fields =
      (.ok (office, problems), cache))
    (hcalls : ∀ earlier, .get earlier ∈ calls → ¬ Collide earlier fields) {d : Field}
    (hd : d ∈ fields) (hrequired : d.required = true) (hcond : d.condition = none)
    (hderivation : d.derivation = none) (hleaves : d.LeavesBlanks host) {raw : Answers}
    (hempty : (raw.get d.name).isEmpty = true)
    (hpassword : d.type = .password → raw.get d.name = .null ∨ ∃ s, raw.get d.name = .text s)
    {desk : Desk} (hready : desk.stage.isReady = true) :
    (d.type ≠ .number → d.type ≠ .checkbox →
      (∀ payload, (desk.submit office raw).2 ≠ .handedOver payload) ∧
      (¬ office.HangsOn raw → (desk.submit office raw).1.stage = .failed) ∧
      ∀ payload errors, sanitize host fields raw = .ok payload →
        office.fieldErrors? payload = .ok errors →
        (desk.submit office raw).1.stage = .failed ∧
        (desk.submit office raw).2 = .settled (.rejected payload errors) ∧
          (d.name, Wording.required) ∈ errors) ∧
    (d.type = .number ∨ d.type = .checkbox →
      ∀ payload, sanitize host fields raw = .ok payload →
        payload.get d.name = d.type.emptyValue ∧
        ((∀ earlier, .get earlier ∈ calls → ToldApart earlier fields) →
          ∀ errors, office.fieldErrors? payload = .ok errors →
          (desk.submit office raw).2 =
            (if errors = [] then .handedOver payload else .settled (.rejected payload errors)) ∧
          ((∃ message, (d.name, message) ∈ errors) ↔
            ∃ r ∈ d.rules, r.obeyed host d.type.emptyValue payload = false))) := by
  obtain ⟨hnames, hhost, hfields, made, hmade, halike⟩ := Office.exists_alike_of_of? hoffice hcalls
  have hblank : ∀ {payload}, sanitize host fields raw = .ok payload →
      d.type.IsBlank (payload.get d.name) ∧
        (d.type ≠ .date → payload.get d.name = d.type.emptyValue) := fun hpayload =>
    Field.isBlank_of_clean? hleaves ⟨.inl hempty, hpassword⟩
      (Field.clean?_get_of_sanitize hnames hd hcond hderivation hpayload)
  subst hhost hfields
  constructor
  · intro hnumber hcheckbox
    have hmessage : ∀ payload errors, sanitize office.host office.fields raw = .ok payload →
        office.fieldErrors? payload = .ok errors → (d.name, Wording.required) ∈ errors := by
      intro payload errors hpayload herrors
      exact Office.fieldErrors?_of_required hmade halike hnames hd hrequired hcond
        ((hblank hpayload).1.isEmpty hnumber hcheckbox) herrors
    have hkept : ∀ payload, (desk.submit office raw).2 ≠ .handedOver payload := by
      intro payload hhanded
      obtain ⟨hclean, hcheck⟩ := Desk.of_handedOver hhanded
      cases hmessage payload [] hclean hcheck
    have hfailed : ¬ office.HangsOn raw → (desk.submit office raw).1.stage = .failed :=
      fun hworded => Desk.failed_of_not_handedOver hready hworded hkept
    refine ⟨hkept, hfailed, fun payload errors hpayload herrors => ⟨hfailed ?_, ?_, ?_⟩⟩
    · exact Office.not_hangsOn hpayload herrors
    · exact Desk.rejected_of_isReady hready hpayload herrors
        (List.ne_nil_of_mem (hmessage _ _ hpayload herrors))
    · exact hmessage _ _ hpayload herrors
  · intro htype payload hpayload
    have hzero : payload.get d.name = d.type.emptyValue := by
      refine (hblank hpayload).2 ?_
      rcases htype with h | h <;> simp [h]
    refine ⟨hzero, fun hapart errors herrors => ⟨?_, ?_⟩⟩
    · by_cases hnone : errors = []
      · rw [if_pos hnone]
        exact Desk.handedOver_of_isReady hready hpayload (hnone ▸ herrors)
      · rw [if_neg hnone]
        exact Desk.rejected_of_isReady hready hpayload herrors hnone
    · obtain ⟨-, e, he, -⟩ := Office.of_of? hoffice
      obtain ⟨s, hs⟩ := SchemaCache.exists_compile_of_get hnames he
      obtain ⟨-, -, hsame⟩ := Office.check?_of_of? hs hapart hoffice
      obtain ⟨said, hsaid, hmem⟩ := Office.mem_fieldErrors? hs (hsame payload) herrors hd
        (not_mem_crossCheck hnames hd hcond)
      obtain ⟨hfull, haccepts⟩ := FieldType.accepts_emptyValue htype
      rw [hzero, Field.run?_of_accepts hcond hfull haccepts] at hsaid
      rw [← exists_firstBroken?_iff ⟨said, hsaid⟩]
      simp only [hmem, hsaid, Except.ok.injEq]

end Submit

/-- A form that asks for a name and for a number of guests, at least one. -/
def bookingForm : List Field :=
  [{ name := "name", type := .text, required := true },
   { name := "guests", type := .number, required := true,
     constraints := { minValue := some (.int 1) } }]

/-- Where only blanks are entered for the name in a booking, it is asked for, and so is a number of
guests, as zero is not enough. -/
theorem submit_bookingForm :
    ∃ office cache payload errors,
      Office.of? Host.none .usual (SchemaCache.empty 1) bookingForm = (.ok (office, []), cache) ∧
      (Desk.fresh.submit office (.ofEntries [("name", .text " ")])).2 =
        .settled (.rejected payload errors) ∧
      ("name", Wording.required) ∈ errors ∧ payload.get "guests" = .int 0 ∧
      ∃ message, ("guests", message) ∈ errors := by
  obtain ⟨t, ht⟩ : ∃ t, payload? bookingForm = .ok t := ⟨_, rfl⟩
  have hnames : (fieldNames bookingForm).Nodup := by decide
  have hs := Schema.compile_eq_ok hnames ht
  obtain ⟨office, cache, hoffice⟩ := Office.exists_of? Host.none 1 [] hnames hs nofun
    (show Office.inspect .usual bookingForm = .ok [] by rfl)
  have hsanitize : sanitize Host.none bookingForm (.ofEntries [("name", .text " ")]) =
      .ok (.ofEntries [("name", .text ""), ("guests", .int 0)]) := by rfl
  have hready : Desk.fresh.stage.isReady = true := rfl
  have hblank : ∀ name ∈ ["name", "guests"],
      ((Answers.ofEntries [("name", .text " ")]).get name).isEmpty = true := by decide
  obtain ⟨hname, -⟩ := submit_of_blank hoffice nofun (.head _) rfl rfl rfl nofun
    (hblank "name" (by decide)) nofun hready
  obtain ⟨-, hguests⟩ := submit_of_blank hoffice nofun (.tail _ (.head _)) rfl rfl rfl nofun
    (hblank "guests" (by decide)) nofun hready
  -- the fields have no functions, so nothing is in the way of checking their answers
  have hsteady : ∀ d ∈ bookingForm, d.IsSteady Host.none := by
    intro d hd
    simp only [bookingForm, List.mem_cons, List.not_mem_nil, or_false] at hd
    rcases hd with rfl | rfl <;> exact Field.isSteady_of_none rfl rfl
  have hnone : ∀ earlier, .get earlier ∈ ([] : List CacheCall) → ToldApart earlier bookingForm :=
    nofun
  obtain ⟨errors, herrors⟩ := Office.exists_fieldErrors? hs hnone hoffice hsteady
    (.ofEntries [("name", .text ""), ("guests", .int 0)])
  obtain ⟨-, -, hname⟩ := hname nofun nofun
  obtain ⟨-, hrejected, hasked⟩ := hname _ _ hsanitize herrors
  obtain ⟨hzero, hbroken⟩ := hguests (.inl rfl) _ hsanitize
  obtain ⟨-, hmessage⟩ := hbroken nofun _ herrors
  exact ⟨office, cache, _, errors, hoffice, hrejected, hasked, hzero,
    hmessage.mpr ⟨.minValue (.int 1), .head _, by rfl⟩⟩

/-- A host that makes a guest of whoever gives no name. -/
def guestHost : Host := { Host.none with clean := fun _ _ => .ok (.text "?") }

/-- A form that asks for a name, which the host cleans, for a key, for a number and for a
consent. -/
def arrivalForm : List Field :=
  [{ name := "name", type := .text, required := true, cleaner := some (.host "guest") },
   { name := "key", type := .password, required := true },
   { name := "nights", type := .number, required := true },
   { name := "consent", type := .checkbox, required := true }]

/-- **Blank answers can be handed over**: in the form for arrivals all fields are required and
depend on no other, and where nothing is entered but an empty list for the key the answers are
handed over all the same, with zero for the number, an empty box for the consent, whatever the host
has made of the name, and the text of the list for the key. -/
theorem blank_handed_over :
    (∀ d ∈ arrivalForm, d.required = true ∧ d.condition = none ∧ d.derivation = none ∧
      ((Answers.ofEntries [("key", .list [])]).get d.name).isEmpty = true) ∧
    ∃ office cache payload,
      Office.of? guestHost .usual (SchemaCache.empty 1) arrivalForm = (.ok (office, []), cache) ∧
      (Desk.fresh.submit office (.ofEntries [("key", .list [])])).2 = .handedOver payload ∧
      payload.get "name" = .text "?" ∧ payload.get "key" = .text "[]" ∧
      payload.get "nights" = .int 0 ∧ payload.get "consent" = .bool false := by
  obtain ⟨t, ht⟩ : ∃ t, payload? arrivalForm = .ok t := ⟨_, rfl⟩
  have hnames : (fieldNames arrivalForm).Nodup := by decide
  have hs := Schema.compile_eq_ok hnames ht
  obtain ⟨office, cache, hoffice⟩ := Office.exists_of? guestHost 1 [] hnames hs nofun
    (show Office.inspect .usual arrivalForm = .ok [] by rfl)
  have hnone : ∀ earlier, .get earlier ∈ ([] : List CacheCall) → ToldApart earlier arrivalForm :=
    nofun
  obtain ⟨hhost, hfields, hsame⟩ := Office.check?_of_of? hs hnone hoffice
  have hsanitize : sanitize guestHost arrivalForm (.ofEntries [("key", .list [])]) =
      .ok (.ofEntries [("name", .text "?"), ("key", .text "[]"), ("nights", .int 0),
        ("consent", .bool false)]) := by rfl
  have hcheck : ∀ print, (⟨arrivalForm.map Field.check, print⟩ : Schema).check? guestHost
      (.ofEntries [("name", .text "?"), ("key", .text "[]"), ("nights", .int 0),
        ("consent", .bool false)]) = .ok ⟨[]⟩ := by
    intro print
    cbv
  have hhanded : (Desk.fresh.submit office (.ofEntries [("key", .list [])])).2 = .handedOver
      (.ofEntries [("name", .text "?"), ("key", .text "[]"), ("nights", .int 0),
        ("consent", .bool false)]) := by
    refine Desk.handedOver_of_isReady rfl (by rw [hhost, hfields, hsanitize]) ?_
    refine Office.fieldErrors?_eq_nil_iff.mpr ⟨?_, ?_⟩
    · rw [hhost, hsame, hcheck]
    · rw [hhost, hfields]
      rfl
  exact ⟨by decide, office, cache, _, hoffice, hhanded, rfl, rfl, rfl, rfl⟩

end Intake
