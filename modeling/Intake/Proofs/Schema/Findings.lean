import Intake.Proofs.Answers
import Intake.Proofs.Form.Showing
import Intake.Proofs.Lookup
import Intake.Schema.Basic

/-!
# What a schema finds

A schema goes through its fields one by one, and a report holds what was found, in their order.
So where names are distinct, what the report says of a field is what the check of that field
alone says, and the report read field by field is the list of its findings.

* `Schema.mem_findings` says what is found, `Schema.names_findings` of which fields;
* `Report.byField_eq` says that a report of distinct names has nothing to pass over;
* `Schema.checkField?_eq` says that a report tells of every field what the check of that field
  tells;
* `Field.run?_of_isEmpty` is about a conditional field without a value, and
  `crossCheck?_eq_ok_iff` about the check across fields.
-/

namespace Intake

namespace Report

/-- The first message of every field, where some have been noted already. -/
def note (noted : List (String × String)) (findings : List Finding) : List (String × String) :=
  findings.foldl (fun found f =>
    if found.any fun e => e.1 == f.field then found else found ++ [(f.field, f.message)]) noted

/-- What has been noted stays. -/
theorem prefix_note (noted : List (String × String)) (findings : List Finding) :
    noted <+: note noted findings := by
  induction findings generalizing noted with
  | nil => exact List.prefix_refl noted
  | cons f rest ih =>
    rw [note, List.foldl_cons]
    split
    · exact ih noted
    · exact (List.prefix_append noted _).trans (ih _)

/-- Findings of new and distinct fields are all noted, in their order. -/
theorem note_eq {noted : List (String × String)} {findings : List Finding}
    (h : (noted.map Prod.fst ++ findings.map Finding.field).Nodup) :
    note noted findings = noted ++ findings.map fun f => (f.field, f.message) := by
  induction findings generalizing noted with
  | nil => exact (List.append_nil noted).symm
  | cons f rest ih =>
    have hnew : noted.any (fun e => e.1 == f.field) = false := by
      rw [List.any_eq_false]
      intro e he heq
      have hmem : e.1 ∈ noted.map Prod.fst := List.mem_map_of_mem he
      exact (List.nodup_append.mp h).2.2 _ hmem f.field (by simp) (by simpa using heq)
    have hrest : ((noted ++ [(f.field, f.message)]).map Prod.fst ++
        rest.map Finding.field).Nodup := by
      simpa using h
    calc note noted (f :: rest) = note (noted ++ [(f.field, f.message)]) rest := by
          rw [note, List.foldl_cons, hnew]
          rfl
      _ = (noted ++ [(f.field, f.message)]) ++ rest.map fun f => (f.field, f.message) := ih hrest
      _ = noted ++ (f :: rest).map fun f => (f.field, f.message) := by simp

/-- **A report of distinct fields** is read field by field as it stands. -/
theorem byField_eq {r : Report} (h : (r.findings.map Finding.field).Nodup) :
    r.byField = r.findings.map fun f => (f.field, f.message) :=
  note_eq h

/-- A report has a message for some field unless nothing was found. -/
theorem byField_eq_nil_iff (r : Report) : r.byField = [] ↔ r.findings = [] := by
  constructor
  · intro h
    cases hfindings : r.findings with
    | nil => rfl
    | cons f rest =>
      have hfirst : [(f.field, f.message)] <+: r.byField := by
        rw [byField, hfindings]
        exact prefix_note [(f.field, f.message)] rest
      rw [h] at hfirst
      cases List.prefix_nil.mp hfirst
  · intro h
    rw [byField, h]
    rfl

end Report

namespace Schema

variable {host : Host} {s : Schema} {answers : Answers} {report : Report}

/-- A report is what the checks of the fields found, one after the other. -/
theorem findings_of_check? (h : s.check? host answers = .ok report) :
    ∃ found : List (Option Finding),
      List.Forall₂ (fun c o => finding? host answers c = .ok o) s.checks found ∧
        report.findings = found.filterMap id := by
  obtain ⟨found, hfound, hreport⟩ := exists_of_bind_eq_ok h
  cases hreport
  exact ⟨found, forall₂_of_mapM_eq_ok hfound, rfl⟩

/-- The finding for a field is what the check of the field says, under the name of the field. -/
theorem finding?_eq_ok_iff {c : FieldCheck} {o : Option Finding} :
    finding? host answers c = .ok o ↔ ∃ message,
      c.run? host (answers.get c.field.name) answers = .ok message ∧
        o = message.map fun m => { field := c.field.name, message := m } := by
  unfold finding?
  cases c.run? host (answers.get c.field.name) answers with
  | error f => exact ⟨nofun, nofun⟩
  | ok message =>
    constructor
    · intro h
      cases h
      exact ⟨message, rfl, rfl⟩
    · rintro ⟨_, h, rfl⟩
      cases h
      rfl

/-- **What is found** is what the checks of the fields say. -/
theorem mem_findings (h : s.check? host answers = .ok report) {f : Finding} :
    f ∈ report.findings ↔ ∃ c ∈ s.checks,
      c.run? host (answers.get c.field.name) answers = .ok (some f.message) ∧
        f = { field := c.field.name, message := f.message } := by
  obtain ⟨found, hfound, hreport⟩ := findings_of_check? h
  rw [hreport, List.mem_filterMap]
  constructor
  · rintro ⟨o, ho, hf⟩
    obtain rfl : o = some f := hf
    obtain ⟨c, hc, hfinding⟩ := exists_of_mem_forall₂ hfound.flip ho
    obtain ⟨message, hrun, heq⟩ := finding?_eq_ok_iff.mp hfinding
    cases message with
    | none => cases heq
    | some m =>
      cases heq
      exact ⟨c, hc, hrun, rfl⟩
  · rintro ⟨c, hc, hrun, heq⟩
    obtain ⟨o, ho, hfinding⟩ := exists_of_mem_forall₂ hfound hc
    obtain ⟨message, hrun', rfl⟩ := finding?_eq_ok_iff.mp hfinding
    rw [hrun] at hrun'
    cases hrun'
    exact ⟨_, ho, congrArg some heq.symm⟩

/-- Every field is found once at most, in the order of the fields. -/
theorem names_findings (h : s.check? host answers = .ok report) :
    (report.findings.map Finding.field).Sublist s.names := by
  have hsub : ∀ {checks : List FieldCheck} {found : List (Option Finding)},
      List.Forall₂ (fun c o => finding? host answers c = .ok o) checks found →
        ((found.filterMap id).map Finding.field).Sublist (checks.map fun c => c.field.name) := by
    intro checks found hfound
    induction hfound with
    | nil => exact List.Sublist.refl _
    | @cons c o _ _ hfirst _ ih =>
      obtain ⟨message, -, rfl⟩ := finding?_eq_ok_iff.mp hfirst
      cases message with
      | none => exact ih.cons c.field.name
      | some m => exact ih.cons_cons c.field.name
  obtain ⟨found, hfound, hreport⟩ := findings_of_check? h
  rw [hreport, names]
  exact hsub hfound

/-- The check of one field is that of the field with its name. -/
theorem checkField?_of_mem (hnames : s.names.Nodup) {c : FieldCheck} (hc : c ∈ s.checks) :
    s.checkField? host c.field.name answers =
      c.run? host (answers.get c.field.name) answers := by
  have hfind : s.checks.find? (fun e => decide (e.field.name = c.field.name)) = some c := by
    cases hfound : s.checks.find? fun e => decide (e.field.name = c.field.name) with
    | none =>
      have hnot := List.find?_eq_none.mp hfound c hc
      simp at hnot
    | some e =>
      have hname : e.field.name = c.field.name := by simpa using List.find?_some hfound
      rw [List.inj_on_of_nodup_map hnames (List.mem_of_find?_eq_some hfound) hc hname]
  rw [checkField?, hfind]

/-- No field of the name, nothing to check. -/
theorem checkField?_of_not_mem {name : String} (hname : name ∉ s.names) :
    s.checkField? host name answers = .ok none := by
  have hfind : s.checks.find? (fun c => decide (c.field.name = name)) = none := by
    rw [List.find?_eq_none]
    intro c hc heq
    have hmem : c.field.name ∈ s.names := List.mem_map_of_mem hc
    rw [of_decide_eq_true heq] at hmem
    exact hname hmem
  rw [checkField?, hfind]

/-- A report by fields has a field at most once. -/
theorem nodup_byField (hnames : s.names.Nodup) (h : s.check? host answers = .ok report) :
    (report.byField.map Prod.fst).Nodup := by
  have hnodup := (names_findings h).nodup hnames
  rw [Report.byField_eq hnodup]
  simpa [List.map_map, Function.comp_def] using hnodup

/-- A report by fields has the findings of the checks of fields. -/
theorem mem_byField (hnames : s.names.Nodup) (h : s.check? host answers = .ok report)
    {name message : String} :
    (name, message) ∈ report.byField ↔ ⟨name, message, .field⟩ ∈ report.findings := by
  rw [Report.byField_eq ((names_findings h).nodup hnames), List.mem_map]
  constructor
  · rintro ⟨f, hf, heq⟩
    cases heq
    obtain ⟨c, -, -, hfield⟩ := (mem_findings h).mp hf
    rw [hfield] at hf ⊢
    exact hf
  · exact fun hf => ⟨_, hf, rfl⟩

/-- **A report tells of every field what its own check tells**, under whatever name. -/
theorem checkField?_eq (hnames : s.names.Nodup) (h : s.check? host answers = .ok report)
    (name : String) : s.checkField? host name answers = .ok (report.messageFor? name) := by
  have hsub := names_findings h
  have hnodup := nodup_byField hnames h
  by_cases hname : name ∈ s.names
  · obtain ⟨c, hc, rfl⟩ := List.mem_map.mp hname
    rw [checkField?_of_mem hnames hc]
    obtain ⟨found, hfound, -⟩ := findings_of_check? h
    obtain ⟨o, -, hfinding⟩ := exists_of_mem_forall₂ hfound hc
    obtain ⟨message, hrun, -⟩ := finding?_eq_ok_iff.mp hfinding
    rw [hrun, Report.messageFor?]
    cases message with
    | some m =>
      have hmem := (mem_byField hnames h).mpr ((mem_findings h).mpr ⟨c, hc, hrun, rfl⟩)
      rw [lookup_eq_some_of_mem hnodup hmem]
    | none =>
      cases hlookup : report.byField.lookup c.field.name with
      | none => rfl
      | some m =>
        -- the message would be that of the field's own check, which has none
        have hmem := (mem_byField hnames h).mp (mem_of_lookup_eq_some hlookup)
        obtain ⟨e, he, hrun', heq⟩ := (mem_findings h).mp hmem
        have hsame : e.field.name = c.field.name := (congrArg Finding.field heq).symm
        rw [List.inj_on_of_nodup_map hnames he hc hsame, hrun] at hrun'
        cases hrun'
  · rw [checkField?_of_not_mem hname, Report.messageFor?, lookup_eq_none_of_not_mem]
    intro hmem
    obtain ⟨message, hpair⟩ := exists_of_mem_map_fst hmem
    have hfield : name ∈ report.findings.map Finding.field :=
      List.mem_map.mpr ⟨_, (mem_byField hnames h).mp hpair, rfl⟩
    exact hname (hsub.subset hfield)

end Schema

section Conditional

variable {host : Host} {answers : Answers} {d : Field} {fields : List Field}

/-- What is required now is visible. -/
theorem Field.isShown_of_isRequiredNow (h : d.isRequiredNow host answers = true) :
    d.isShown host answers = true := by
  rw [isRequiredNow_eq] at h
  rw [isShown_eq]
  cases hcond : d.condition with
  | none => rfl
  | some c =>
    rw [hcond, Option.any_some, Bool.and_eq_true] at h
    exact h.2

/-- A field that is checked is known to be visible or not. -/
theorem Field.isShown?_of_run? {v : Value} {message : Option String}
    (h : d.check.run? host v answers = .ok message) :
    d.isShown? host answers = .ok (d.isShown host answers) := by
  obtain ⟨b, hshown, -⟩ := exists_of_bind_eq_ok h
  exact hshown.trans (congrArg Except.ok (isShown_of_eq_ok hshown).symm)

/-- Nothing is said of a hidden field. -/
theorem Field.run?_of_hidden (h : d.isShown? host answers = .ok false) (v : Value) :
    d.check.run? host v answers = .ok none := by
  rw [FieldCheck.run?, Field.check, h]
  rfl

/-- What is said of a field is said of a visible one. -/
theorem Field.isShown_of_run? {v : Value} {message : String}
    (h : d.check.run? host v answers = .ok (some message)) : d.isShown host answers = true := by
  have hshown := isShown?_of_run? h
  cases hvisible : d.isShown host answers with
  | true => rfl
  | false =>
    rw [hvisible] at hshown
    rw [run?_of_hidden hshown] at h
    cases h

/-- **A conditional field without a value** is asked for one if it is required now, and nothing
else is said of it. -/
theorem Field.run?_of_isEmpty (hcond : d.condition.isSome = true) {v : Value}
    (hempty : v.isEmpty = true) {b : Bool} (hshown : d.isShown? host answers = .ok b) :
    d.check.run? host v answers =
      .ok (if d.isRequiredNow host answers then some Wording.requiredNow else none) := by
  cases b with
  | true =>
    simp only [FieldCheck.run?, FieldCheck.demand?, Field.check, hshown,
      isRequiredNow?_of_isShown? hshown, hempty, hcond, if_true]
    rfl
  | false =>
    have hidle : d.isRequiredNow host answers = false := by
      cases hrequired : d.isRequiredNow host answers with
      | false => rfl
      | true =>
        have hvisible := isShown_of_isRequiredNow hrequired
        rw [isShown_of_eq_ok hshown] at hvisible
        cases hvisible
    rw [run?_of_hidden hshown, hidle]
    rfl

/-- **What comes of the check across fields**, if it can be told of every field whether it is
required now. -/
theorem crossCheck?_eq_ok_iff {missing : List (String × String)} :
    crossCheck? host fields answers = .ok missing ↔
      (∀ d ∈ fields, ∃ b, d.isRequiredNow? host answers = .ok b) ∧
        missing = crossCheck host fields answers := by
  have hasked : ∀ d : Field, (∃ b, d.isMissing? host answers = .ok b) ↔
      ∃ b, d.isRequiredNow? host answers = .ok b := by
    intro d
    rw [Field.isMissing?]
    cases d.isRequiredNow? host answers with
    | error f => exact ⟨nofun, nofun⟩
    | ok b => exact ⟨fun _ => ⟨b, rfl⟩, fun _ => ⟨_, rfl⟩⟩
  have hsaid : ∀ d : Field, saidYes (d.isMissing? host answers) =
      (d.isRequiredNow host answers && (answers.get d.name).isEmpty) := by
    intro d
    rw [Field.isMissing?, Field.isRequiredNow]
    cases d.isRequiredNow? host answers <;> rfl
  have hchosen : ∀ chosen, chosen? (Field.isMissing? host answers) fields = .ok chosen ↔
      (∀ d ∈ fields, ∃ b, d.isRequiredNow? host answers = .ok b) ∧ chosen = fields.filter fun d =>
        d.isRequiredNow host answers && (answers.get d.name).isEmpty := by
    intro chosen
    simp only [chosen?_eq_ok_iff, hasked, hsaid]
  unfold crossCheck? crossCheck
  cases hfields : chosen? (Field.isMissing? host answers) fields with
  | error f =>
    refine ⟨nofun, fun h => ?_⟩
    rw [(hchosen _).mpr ⟨h.1, rfl⟩] at hfields
    cases hfields
  | ok chosen =>
    obtain ⟨htold, rfl⟩ := (hchosen chosen).mp hfields
    exact ⟨fun h => ⟨htold, (Except.ok.inj h).symm⟩, fun h => congrArg Except.ok h.2.symm⟩

/-- **What the check across fields finds**: the fields that are required now and have no value. -/
theorem mem_crossCheck {name message : String} :
    (name, message) ∈ crossCheck host fields answers ↔ message = Wording.requiredNow ∧
      ∃ d ∈ fields, d.name = name ∧ d.isRequiredNow host answers = true ∧
        (answers.get name).isEmpty = true := by
  unfold crossCheck demands
  simp only [List.mem_map, List.mem_eraseDups, fieldNames, List.mem_filter, Bool.and_eq_true,
    Prod.mk.injEq]
  constructor
  · rintro ⟨_, ⟨d, ⟨hd, hrequired, hempty⟩, rfl⟩, rfl, rfl⟩
    exact ⟨rfl, d, hd, rfl, hrequired, hempty⟩
  · rintro ⟨rfl, d, hd, rfl, hrequired, hempty⟩
    exact ⟨d.name, ⟨d, ⟨hd, hrequired, hempty⟩, rfl⟩, rfl, rfl⟩

/-- What the check across fields finds under a name is there. -/
theorem lookup_crossCheck {name message : String} :
    (crossCheck host fields answers).lookup name = some message ↔
      (name, message) ∈ crossCheck host fields answers := by
  refine ⟨mem_of_lookup_eq_some, fun h => ?_⟩
  cases hlookup : (crossCheck host fields answers).lookup name with
  | none =>
    have hnone := List.lookup_eq_none_iff.mp hlookup _ h
    simp at hnone
  | some found =>
    obtain ⟨rfl, -⟩ := mem_crossCheck.mp (mem_of_lookup_eq_some hlookup)
    obtain ⟨rfl, -⟩ := mem_crossCheck.mp h
    rfl

/-- What the check across fields says of a field without a value, where names are distinct. -/
theorem lookup_crossCheck_of_mem (hnames : (fieldNames fields).Nodup) (hd : d ∈ fields)
    (hempty : (answers.get d.name).isEmpty = true) :
    (crossCheck host fields answers).lookup d.name =
      if d.isRequiredNow host answers then some Wording.requiredNow else none := by
  cases hrequired : d.isRequiredNow host answers with
  | true =>
    exact lookup_crossCheck.mpr (mem_crossCheck.mpr ⟨rfl, d, hd, rfl, hrequired, hempty⟩)
  | false =>
    refine lookup_eq_none_of_not_mem fun hmem => ?_
    obtain ⟨message, hpair⟩ := exists_of_mem_map_fst hmem
    obtain ⟨-, e, he, hname, hrequired', -⟩ := mem_crossCheck.mp hpair
    rw [List.inj_on_of_nodup_map hnames he hd hname, hrequired] at hrequired'
    cases hrequired'

end Conditional

end Intake
