import Intake.Proofs.Schema.Checking
import Intake.Submission.Basic

/-!
# The messages for the fields of a submission

Answers that are submitted are checked twice: by the schema, field by field, and across fields for
what is required by a condition and missing.  Both checks, and whoever shows the form, ask the same
condition, each in its own way; so the second check can find nothing that the first has not found,
and neither finds anything about a field that is not shown.

There are two exceptions.  The second check and whoever shows the form do not ask all that the first
one asks, so where a fault comes up in the first they may have an answer.  And the schema of an
office may be one that was kept in a cache for other fields.

* `Office.fieldErrors?_eq_nil_iff` says when there is no message for any field;
* `Office.fieldErrors?_eq` says that the messages are those of the schema, where the schema has
  found all that the check across fields finds;
* `passes_agree` says that it has, and `passes_part` shows the two exceptions.
-/

namespace Intake

namespace Office

/-- An office that was readied has fields of distinct names, and the schema that the cache gave out
for them. -/
theorem of_of? {host : Host} {settings : Settings} {cache cache' : SchemaCache}
    {fields : List Field} {office : Office} {problems : List LintProblem}
    (h : Office.of? host settings cache fields = (.ok (office, problems), cache')) :
    (fieldNames fields).Nodup ∧ ∃ e, (cache.get fields).1 = .ok e ∧
      office = ⟨host, fields, e.schema, settings⟩ := by
  unfold Office.of? requireDistinct at h
  cases hnames : repeatedNames (fieldNames fields) with
  | cons name names =>
    rw [hnames] at h
    cases h
  | nil =>
    refine ⟨(repeatedNames_eq_nil_iff _).mp hnames, ?_⟩
    rw [hnames] at h
    dsimp only at h
    cases hinspect : inspect settings fields with
    | error m =>
      rw [hinspect] at h
      cases h
    | ok found =>
      rw [hinspect] at h
      dsimp only at h
      cases hget : cache.get fields with
      | mk result after =>
        rw [hget] at h
        cases result with
        | error e => cases h
        | ok e =>
          cases h
          exact ⟨e, rfl, rfl⟩

/-- There is no message for any field exactly if the schema and the check across fields have
nothing to say. -/
theorem fieldErrors?_eq_nil_iff {office : Office} {payload : Answers} :
    office.fieldErrors? payload = .ok [] ↔
      office.schema.check? office.host payload = .ok ⟨[]⟩ ∧
        crossCheck? office.host office.fields payload = .ok [] := by
  unfold fieldErrors?
  cases hcheck : office.schema.check? office.host payload with
  | error f => exact ⟨nofun, fun h => nomatch h.1⟩
  | ok report =>
    cases hcross : crossCheck? office.host office.fields payload with
    | error f => exact ⟨nofun, fun h => nomatch h.2⟩
    | ok missing =>
      show Except.ok (report.byField ++ _) = .ok [] ↔ _
      rw [Except.ok.injEq, List.append_eq_nil_iff, Report.byField_eq_nil_iff]
      constructor
      · rintro ⟨hfound, hacross⟩
        obtain ⟨findings⟩ := report
        obtain rfl : findings = [] := hfound
        exact ⟨rfl, congrArg Except.ok (by simpa [Report.byField] using hacross)⟩
      · rintro ⟨hreport, hacross⟩
        cases hreport
        cases hacross
        exact ⟨rfl, rfl⟩

/-- The messages for fields are those of the schema, if it has one for every field that the check
across fields finds, and that check comes to an end where the first one does. -/
theorem fieldErrors?_eq {office : Office} {payload : Answers}
    (h : ∀ report, office.schema.check? office.host payload = .ok report → ∃ missing,
      crossCheck? office.host office.fields payload = .ok missing ∧
        ∀ e ∈ missing, report.messageFor? e.1 = some e.2) :
    office.fieldErrors? payload =
      (office.schema.check? office.host payload).map Report.byField := by
  unfold fieldErrors?
  cases hcheck : office.schema.check? office.host payload with
  | error f => rfl
  | ok report =>
    obtain ⟨missing, hmissing, hfound⟩ := h report hcheck
    have hnone : missing.filter (fun e => !report.byField.any fun f => f.1 == e.1) = [] := by
      rw [List.filter_eq_nil_iff]
      intro e he
      have hmem := mem_of_lookup_eq_some (hfound e he)
      have hany : report.byField.any (fun f => f.1 == e.1) = true :=
        List.any_eq_true.mpr ⟨_, hmem, beq_self_eq_true e.1⟩
      rw [hany]
      decide
    rw [hmissing]
    show Except.ok (report.byField ++ missing.filter _) = .ok report.byField
    rw [hnone, List.append_nil]

end Office

section Passes

variable {host : Host} {fields : List Field} {s : Schema} {answers : Answers}

/-- The schema says of a conditional field without a value what the check across fields says, if it
can be told whether the field is visible. -/
theorem checkField?_eq_crossCheck (hs : Schema.compile fields = .ok s) {d : Field} (hd : d ∈ fields)
    (hcond : d.condition.isSome = true) (hempty : (answers.get d.name).isEmpty = true)
    {shown : Bool} (hshown : d.isShown? host answers = .ok shown) :
    s.checkField? host d.name answers =
      .ok ((crossCheck host fields answers).lookup d.name) := by
  rw [Schema.checkField?_eq_run? hs hd, Field.run?_of_isEmpty hcond hempty hshown,
    lookup_crossCheck_of_mem (Schema.nodup_of_compile hs) hd hempty]

/-- Where there is a report, it is known of every field whether it is visible. -/
theorem isShown?_of_check? (hs : Schema.compile fields = .ok s) {report : Report}
    (h : s.check? host answers = .ok report) {d : Field} (hd : d ∈ fields) :
    d.isShown? host answers = .ok (d.isShown host answers) := by
  have hchecked := Schema.checkField?_eq (Schema.nodup_names_of_compile hs) h d.name
  rw [Schema.checkField?_eq_run? hs hd] at hchecked
  exact Field.isShown?_of_run? hchecked

/-- So the check across fields comes to an end there. -/
theorem crossCheck?_of_check? (hs : Schema.compile fields = .ok s) {report : Report}
    (h : s.check? host answers = .ok report) :
    crossCheck? host fields answers = .ok (crossCheck host fields answers) :=
  crossCheck?_eq_ok_iff.mpr
    ⟨fun _ hd => ⟨_, Field.isRequiredNow?_of_isShown? (isShown?_of_check? hs h hd)⟩, rfl⟩

/-- And so it is known which fields are visible. -/
theorem visibleNames?_of_check? (hs : Schema.compile fields = .ok s) {report : Report}
    (h : s.check? host answers = .ok report) :
    visibleNames? host fields answers = .ok (visibleNames host fields answers) :=
  congrArg (Except.map fieldNames)
    (chosen?_eq_ok_iff.mpr ⟨fun _ hd => ⟨_, isShown?_of_check? hs h hd⟩, rfl⟩)

/-- The names that are known to be visible are those of the fields that come out as visible. -/
theorem eq_visibleNames {shown : List String} (h : visibleNames? host fields answers = .ok shown) :
    shown = visibleNames host fields answers := by
  obtain ⟨chosen, hchosen, rfl⟩ := exists_of_map_eq_ok h
  rw [(chosen?_eq_ok_iff.mp hchosen).2]
  rfl

/-- Whatever the check across fields finds, the schema reports too, with the same message. -/
theorem messageFor?_of_mem_crossCheck (hs : Schema.compile fields = .ok s) {report : Report}
    (h : s.check? host answers = .ok report) {e : String × String}
    (he : e ∈ crossCheck host fields answers) : report.messageFor? e.1 = some e.2 := by
  obtain ⟨name, message⟩ := e
  obtain ⟨-, d, hd, rfl, hrequired, hempty⟩ := mem_crossCheck.mp he
  have hcond : d.condition.isSome = true := by
    cases hc : d.condition with
    | some c => rfl
    | none =>
      rw [Field.isRequiredNow_eq, hc] at hrequired
      cases hrequired
  have hchecked := Schema.checkField?_eq (Schema.nodup_names_of_compile hs) h d.name
  rw [checkField?_eq_crossCheck hs hd hcond hempty (isShown?_of_check? hs h hd),
    lookup_crossCheck.mpr he] at hchecked
  exact (Except.ok.inj hchecked).symm

/-- A field that the schema says something of is visible. -/
theorem mem_visibleNames_of_checkField? (hs : Schema.compile fields = .ok s) {name message : String}
    (h : s.checkField? host name answers = .ok (some message)) :
    name ∈ visibleNames host fields answers := by
  by_cases hname : name ∈ fieldNames fields
  · obtain ⟨d, hd, rfl⟩ := List.mem_map.mp hname
    rw [Schema.checkField?_eq_run? hs hd] at h
    exact List.mem_map_of_mem (List.mem_filter.mpr ⟨hd, Field.isShown_of_run? h⟩)
  · rw [Schema.checkField?_of_not_mem ((Schema.names_of_compile hs).1 ▸ hname)] at h
    cases h

/-- A field that the check across fields finds is visible. -/
theorem mem_visibleNames_of_mem_crossCheck {e : String × String}
    (he : e ∈ crossCheck host fields answers) : e.1 ∈ visibleNames host fields answers := by
  obtain ⟨-, d, hd, hname, hrequired, -⟩ := mem_crossCheck.mp he
  rw [← hname]
  exact List.mem_map_of_mem (List.mem_filter.mpr ⟨hd, Field.isShown_of_isRequiredNow hrequired⟩)

/-- The check across fields finds nothing of a field with a value. -/
theorem lookup_crossCheck_of_full {name : String} (hfull : (answers.get name).isEmpty = false) :
    (crossCheck host fields answers).lookup name = none := by
  refine lookup_eq_none_of_not_mem fun hmem => ?_
  obtain ⟨message, hpair⟩ := exists_of_mem_map_fst hmem
  obtain ⟨-, d, -, -, -, hempty⟩ := mem_crossCheck.mp hpair
  rw [hfull] at hempty
  cases hempty

/-- The messages of an office that checks answers like the schema of its fields are those of that
schema. -/
theorem Office.fieldErrors?_eq_check? {office : Office}
    (hs : Schema.compile office.fields = .ok s)
    (hsame : office.schema.check? office.host answers = s.check? office.host answers) :
    office.fieldErrors? answers = (s.check? office.host answers).map Report.byField := by
  rw [Office.fieldErrors?_eq, hsame]
  intro report hreport
  rw [hsame] at hreport
  exact ⟨_, crossCheck?_of_check? hs hreport,
    fun e he => messageFor?_of_mem_crossCheck hs hreport he⟩

/-- An office that was readied with a cache checks answers like the schema of its fields, if all
fields that the cache was asked for are told apart from them. -/
theorem Office.check?_of_of? {settings : Settings} {limit : Nat} {calls : List CacheCall}
    {cache : SchemaCache} {office : Office} {problems : List LintProblem}
    (hs : Schema.compile fields = .ok s)
    (hcalls : ∀ earlier, .get earlier ∈ calls → ToldApart earlier fields)
    (h : Office.of? host settings ((SchemaCache.empty limit).run calls) fields =
      (.ok (office, problems), cache)) :
    office.host = host ∧ office.fields = fields ∧
      ∀ payload, office.schema.check? host payload = s.check? host payload := by
  obtain ⟨-, e, he, rfl⟩ := Office.of_of? h
  obtain ⟨e', he', hsame⟩ := SchemaCache.exists_get hs hcalls
  rw [he] at he'
  cases he'
  exact ⟨rfl, rfl, hsame host⟩

/-- An office is readied with what the cache gives out for its fields, if they pass inspection. -/
theorem Office.of?_of_get {settings : Settings} {problems : List LintProblem} (host : Host)
    {cache : SchemaCache} {e : CacheEntry} (hnames : (fieldNames fields).Nodup)
    (hget : (cache.get fields).1 = .ok e)
    (hinspect : Office.inspect settings fields = .ok problems) :
    Office.of? host settings cache fields =
      (.ok (⟨host, fields, e.schema, settings⟩, problems), (cache.get fields).2) := by
  rw [Office.of?, requireDistinct, (repeatedNames_eq_nil_iff _).mpr hnames]
  dsimp only
  rw [hinspect]
  dsimp only
  generalize cache.get fields = got at hget ⊢
  obtain ⟨result, cache⟩ := got
  obtain rfl : result = .ok e := hget
  rfl

/-- So one can be readied with a cache that told its fields apart from all that it was asked for. -/
theorem Office.exists_of? {settings : Settings} {problems : List LintProblem} (host : Host)
    (limit : Nat) (calls : List CacheCall) (hnames : (fieldNames fields).Nodup)
    (hs : Schema.compile fields = .ok s)
    (hcalls : ∀ earlier, .get earlier ∈ calls → ToldApart earlier fields)
    (hinspect : Office.inspect settings fields = .ok problems) :
    ∃ office cache, Office.of? host settings ((SchemaCache.empty limit).run calls) fields =
      (.ok (office, problems), cache) :=
  have ⟨_, hget, _⟩ := @SchemaCache.exists_get limit _ _ _ hs hcalls
  ⟨_, _, Office.of?_of_get host hnames hget hinspect⟩

end Passes

/-- **When the schema, the check across fields and what is shown agree.**  Let some fields have
distinct names.

* Where their schema has a report, the check across fields comes to an end too, and it is known what
  is shown.  The report has what the schema says of each field, which is what the check across
  fields says of a conditional field without a value, and it has all that this check finds, with the
  same message; and all fields that it has are shown.
* Where the check across fields comes to an end, the schema says of a conditional field without a
  value what it says, or it faults as it cannot be told whether that field is visible.
* So an office with the schema of its fields has no messages but those of the schema.  This is the
  schema it gets from a cache, provided that the cache told its fields apart from any others that it
  was asked for: it may have another one otherwise.
* Of a field with a value the check across fields says nothing, and all that it finds is shown. -/
theorem passes_agree (host : Host) (fields : List Field) (answers : Answers) :
    (∀ s, Schema.compile fields = .ok s →
      (∀ report, s.check? host answers = .ok report → ∃ missing shown,
        crossCheck? host fields answers = .ok missing ∧
        visibleNames? host fields answers = .ok shown ∧
        (∀ name, s.checkField? host name answers = .ok (report.messageFor? name)) ∧
        (∀ d ∈ fields, d.condition.isSome = true → (answers.get d.name).isEmpty = true →
          report.messageFor? d.name = missing.lookup d.name) ∧
        (∀ e ∈ missing, report.messageFor? e.1 = some e.2) ∧
        ∀ name, report.messageFor? name ≠ none → name ∈ shown) ∧
      (∀ missing, crossCheck? host fields answers = .ok missing →
        ∀ d ∈ fields, d.condition.isSome = true → (answers.get d.name).isEmpty = true →
          s.checkField? host d.name answers = .ok (missing.lookup d.name) ∨
            ∃ f, d.isShown? host answers = .error f ∧
              s.checkField? host d.name answers = .error f) ∧
      (∀ settings, Office.fieldErrors? ⟨host, fields, s, settings⟩ answers =
        (s.check? host answers).map Report.byField) ∧
      (∀ limit calls settings office problems cache,
        (∀ earlier, .get earlier ∈ calls → ToldApart earlier fields) →
        Office.of? host settings ((SchemaCache.empty limit).run calls) fields =
          (.ok (office, problems), cache) →
        office.fieldErrors? answers = (s.check? host answers).map Report.byField) ∧
      ∀ shown, visibleNames? host fields answers = .ok shown → ∀ name message,
        s.checkField? host name answers = .ok (some message) → name ∈ shown) ∧
    ∀ missing, crossCheck? host fields answers = .ok missing →
      (∀ name, (answers.get name).isEmpty = false → missing.lookup name = none) ∧
      ∀ shown, visibleNames? host fields answers = .ok shown → ∀ e ∈ missing, e.1 ∈ shown := by
  refine ⟨fun s hs => ⟨fun report hreport => ?_, ?_, fun settings => ?_, ?_, ?_⟩,
    fun missing hmissing => ?_⟩
  · have hagree := Schema.checkField?_eq (Schema.nodup_names_of_compile hs) hreport
    refine ⟨_, _, crossCheck?_of_check? hs hreport, visibleNames?_of_check? hs hreport, hagree, ?_,
      fun e he => messageFor?_of_mem_crossCheck hs hreport he, fun name hsaid => ?_⟩
    · intro d hd hcond hempty
      have hshown := isShown?_of_check? hs hreport hd
      have hchecked := checkField?_eq_crossCheck hs hd hcond hempty hshown
      exact Except.ok.inj ((hagree d.name).symm.trans hchecked)
    · obtain ⟨message, hmessage⟩ := Option.ne_none_iff_exists'.mp hsaid
      exact mem_visibleNames_of_checkField? hs ((hagree name).trans (congrArg Except.ok hmessage))
  · intro missing hmissing d hd hcond hempty
    obtain ⟨-, rfl⟩ := crossCheck?_eq_ok_iff.mp hmissing
    cases hshown : d.isShown? host answers with
    | ok shown => exact .inl (checkField?_eq_crossCheck hs hd hcond hempty hshown)
    | error f =>
      refine .inr ⟨f, rfl, ?_⟩
      rw [Schema.checkField?_eq_run? hs hd, FieldCheck.run?, Field.check, hshown]
      rfl
  · exact Office.fieldErrors?_eq_check? hs rfl
  · intro limit calls settings office problems cache hcalls hoffice
    obtain ⟨rfl, rfl, hsame⟩ := Office.check?_of_of? hs hcalls hoffice
    exact Office.fieldErrors?_eq_check? hs (hsame answers)
  · intro shown hshown name message h
    rw [eq_visibleNames hshown]
    exact mem_visibleNames_of_checkField? hs h
  · obtain ⟨-, rfl⟩ := crossCheck?_eq_ok_iff.mp hmissing
    refine ⟨fun name hfull => lookup_crossCheck_of_full hfull, fun shown hshown e he => ?_⟩
    rw [eq_visibleNames hshown]
    exact mem_visibleNames_of_mem_crossCheck he

/-- A form that asks for a reason if the kind is another one, and for details of the reason if a
function of the host says so. -/
def reasonForm : List Field :=
  [{ name := "kind", type := .select },
   { name := "reason", type := .text, condition := some ⟨⟨"kind", .text "other"⟩, true, none⟩ },
   { name := "details", type := .text,
     condition := some ⟨⟨"reason", .callable (.host "long")⟩, true, none⟩ }]

/-- Answers that say that the kind is another one, with a blank for the reason. -/
def blankReason : Answers := .ofEntries [("kind", .text "other"), ("reason", .text " ")]

/-- The reason is all that is found to be missing, where the host has no such function. -/
theorem check?_reasonForm (print : String) :
    (⟨reasonForm.map Field.check, print⟩ : Schema).check? Host.none blankReason =
      .ok ⟨[{ field := "reason", message := Wording.requiredNow }]⟩ := by
  have hkind : Schema.finding? Host.none blankReason
      (Field.check { name := "kind", type := .select }) = .ok none := rfl
  have hreason : Schema.finding? Host.none blankReason
      (Field.check { name := "reason", type := .text,
                     condition := some ⟨⟨"kind", .text "other"⟩, true, none⟩ }) =
        .ok (some { field := "reason", message := Wording.requiredNow }) := by cbv
  have hdetails : Schema.finding? Host.none blankReason
      (Field.check { name := "details", type := .text,
                     condition := some ⟨⟨"reason", .callable (.host "long")⟩, true, none⟩ }) =
        .ok none := rfl
  simp only [Schema.check?, reasonForm, List.map_cons, List.map_nil, List.mapM_cons, List.mapM_nil,
    hkind, hreason, hdetails]
  rfl

/-- The form that asks for a reason has a schema, which is the one of an office that was readied
with a new cache; where the reason is blank, and the host has no such function, the schema, the
check across fields and the office say the same of the reason, and the reason is shown. -/
theorem agree_on_reasonForm :
    ∃ s office cache report, Schema.compile reasonForm = .ok s ∧
      Office.of? Host.none .usual (SchemaCache.empty 1) reasonForm = (.ok (office, []), cache) ∧
      s.check? Host.none blankReason = .ok report ∧
      report.messageFor? "reason" = some Wording.requiredNow ∧
      office.fieldErrors? blankReason = .ok report.byField ∧
      "reason" ∈ visibleNames Host.none reasonForm blankReason := by
  obtain ⟨t, ht⟩ : ∃ t, payload? reasonForm = .ok t := ⟨_, rfl⟩
  have hnames : (fieldNames reasonForm).Nodup := by decide
  have hs := Schema.compile_eq_ok hnames ht
  obtain ⟨office, cache, hoffice⟩ := Office.exists_of? Host.none 1 [] hnames hs nofun
    (show Office.inspect .usual reasonForm = .ok [] by rfl)
  obtain ⟨hschema, -⟩ := passes_agree Host.none reasonForm blankReason
  obtain ⟨hreport, -, -, hmessages, -⟩ := hschema _ hs
  obtain ⟨missing, shown, -, hshown, -, -, -, hvisible⟩ := hreport _ (check?_reasonForm _)
  refine ⟨_, office, cache, _, hs, hoffice, check?_reasonForm _, rfl, ?_, ?_⟩
  · rw [hmessages 1 [] .usual office [] cache nofun hoffice, check?_reasonForm]
    rfl
  · rw [← eq_visibleNames hshown]
    exact hvisible "reason" nofun

/-- **When they part.**  An office has the schema of a form that is written like its own, and finds
nothing where the check across fields finds that an answer is missing.  And where a function of the
host faults on a number that cannot be said, so does the schema, while the check across fields finds
nothing: it does not ask whether a field that need not be given is shown. -/
theorem passes_part :
    (∃ office cache s, Office.of? Host.none .usual
          ((SchemaCache.empty 32).run [.get (pickForm (.tuple [.text "x"]))])
          (pickForm (.list [.text "x"])) = (.ok (office, []), cache) ∧
        Schema.compile office.fields = .ok s ∧
        s.check? Host.none (Answers.ofEntries [("a", .list [.text "x"])]) =
          .ok ⟨[{ field := "b", message := Wording.requiredNow }]⟩ ∧
        office.schema.check? Host.none (Answers.ofEntries [("a", .list [.text "x"])]) = .ok ⟨[]⟩ ∧
        office.fieldErrors? (Answers.ofEntries [("a", .list [.text "x"])]) =
          .ok [("b", Wording.requiredNow)]) ∧
      ∃ s, Schema.compile listedForm = .ok s ∧
        s.check? tableHost longAnswers = .error .tooManyDigits ∧
        crossCheck? tableHost listedForm longAnswers = .ok [] := by
  constructor
  · obtain ⟨t, htuple, hlist⟩ := payload?_pickForm
    have hfirst := Schema.compile_eq_ok (by decide) htuple
    have hget := @get_after_get 32 (by decide) _ _ _ hfirst (hlist.trans htuple.symm)
    have hnames : (fieldNames (pickForm (.list [.text "x"]))).Nodup := by decide
    have hnone := check?_pickForm (Text.digest t) holds?_pickForm.1
    refine ⟨_, _, _, Office.of?_of_get Host.none hnames hget (by rfl),
      Schema.compile_eq_ok hnames hlist, check?_pickForm _ holds?_pickForm.2, hnone, ?_⟩
    rw [Office.fieldErrors?]
    dsimp only
    rw [hnone]
    cbv
  · obtain ⟨print, hs⟩ := exists_compile_listedForm
    exact ⟨_, hs, check?_listedForm print, rfl⟩

end Intake
