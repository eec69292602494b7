import Intake.Definition.Form
import Intake.Proofs.Definition.Reading
import Intake.Proofs.Definition.Sites
import Mathlib.Tactic

/-!
# What data escapes refusal

Data that describes no form should be refused.  It is, but for two ways to escape.  While names are
resolved, what is written at a site may trip loading.  And once all names are resolved, a field may
bring reading to a halt.  In both cases it can be said by the data alone: resolving changes nothing
that reading halts at.

* `SameBut` says that resolving replaces the entry under one key;
* `fieldSites` lists the sites of a field, and `goesThrough_field` says that resolving goes through
  them;
* `haltsReading_of_resolveField?` says that a resolved field halts reading if it did before;
* `escapes_ofData?` says exactly which data escapes, and `ofData?_ends_iff` which makes a form or is
  refused.
-/

namespace Intake

/-! ## Entries -/

section Entries

variable {record r : List (Value × Value)} {key : String}

/-- Only a text equals a text. -/
theorem Value.eqv_text {v : Value} {s : String} : v.eqv (.text s) = true ↔ v = .text s := by
  cases v <;> simp [eqv, eqvInt, eqvFloat]

theorem Value.lookupEntry_cons (name k v : Value) (rest : List (Value × Value)) :
    lookupEntry name ((k, v) :: rest) = if k.eqv name then some v else lookupEntry name rest := by
  unfold lookupEntry
  rw [List.find?_cons]
  cases k.eqv name <;> rfl

/-- Under every key but the replaced one a record is as it was. -/
theorem lookupEntry_withEntry (other : String) (v : Value) :
    Value.lookupEntry (.text other) (withEntry key v record) =
      if key = other then some v else Value.lookupEntry (.text other) record := by
  unfold withEntry
  induction record with
  | nil => rw [Value.setEntry, Value.lookupEntry_cons]; simp [Value.eqv_text]
  | cons e rest ih =>
    obtain ⟨k, w⟩ := e
    rw [Value.setEntry, Value.lookupEntry_cons]
    by_cases hk : k = .text key
    · subst hk
      rw [if_pos (Value.eqv_text.mpr rfl), Value.lookupEntry_cons]
      by_cases hother : key = other <;> simp [Value.eqv_text, hother]
    · rw [if_neg (mt Value.eqv_text.mp hk), Value.lookupEntry_cons, ih]
      by_cases hother : key = other
      · subst hother
        simp [Value.eqv_text, hk]
      · simp [hother]

/-- Two records are the **same but for** what stands under a key. -/
def SameBut (key : String) (r record : List (Value × Value)) : Prop :=
  ∀ other, other ≠ key → Value.lookupEntry (.text other) r = Value.lookupEntry (.text other) record

theorem SameBut.refl : SameBut key record record := fun _ _ => rfl

theorem sameBut_withEntry (v : Value) : SameBut key (withEntry key v record) record :=
  fun other h => (lookupEntry_withEntry other v).trans (if_neg h.symm)

/-- Records in a record are the same under all other keys, too. -/
theorem SameBut.recordAt? (h : SameBut key r record) {other : String} (hne : other ≠ key) :
    recordAt? other r = recordAt? other record := by
  rw [Intake.recordAt?, h other hne]
  rfl

/-- Where a record in a record is resolved, loading goes through that record. -/
theorem goesThrough_part {f : List (Value × Value) → Load (List (Value × Value))}
    {sites : List (Value × Value) → List Site} (h : ∀ part, GoesThrough (f part) (sites part)) :
    GoesThrough (match recordAt? key record with
      | none => .ok record
      | some part => f part >>= fun part => pure (withEntry key (.dict part) record))
      ((recordAt? key record).toList.flatMap sites) := by
  cases recordAt? key record with
  | none => exact .ok record
  | some part => simpa using (h part).map fun part => withEntry key (.dict part) record

/-- Only that record changes. -/
theorem sameBut_part {f : List (Value × Value) → Load (List (Value × Value))}
    (h : (match recordAt? key record with
      | none => .ok record
      | some part => f part >>= fun part => pure (withEntry key (.dict part) record) :
        Load (List (Value × Value))) = .ok r) :
    SameBut key r record := by
  cases hpart : recordAt? key record with
  | none =>
    rw [hpart] at h
    cases h
    exact .refl
  | some part =>
    rw [hpart] at h
    obtain ⟨resolved, -, h⟩ := exists_of_bind_eq_ok h
    cases h
    exact sameBut_withEntry _

end Entries

/-! ## Fields -/

/-- The clauses of a condition, in the order in which they are resolved. -/
def conditionSites (condition : List (Value × Value)) : List Site :=
  .clause condition :: ((recordAt? "and" condition).toList.map .clause ++
    (recordAt? "and_" condition).toList.map .clause)

/-- The rule that the record of a field names. -/
def ruleSites (record : List (Value × Value)) : List Site :=
  (((recordAt? "validation" record).bind (recordAt? "custom")).toList).map .rule

/-- The cleaner that the record of a field names. -/
def cleanerSites (record : List (Value × Value)) : List Site :=
  match Value.lookupEntry (.text "sanitizer") record with
  | some (.text name) => [.cleaner name]
  | _ => []

/-- What is looked up and written out in the data of a field, in order. -/
def fieldSites : Value → List Site
  | .dict record =>
    .name ((Value.lookupEntry (.text "name") record).getD (.text "?")) ::
      ((recordAt? "conditional" record).toList.flatMap conditionSites ++
        (ruleSites record ++ cleanerSites record))
  | _ => [.noRecord]

section Fields

variable {record r : List (Value × Value)}

/-- A resolved clause differs from the clause in its value alone. -/
theorem sameBut_of_resolveClause? {identity : Identity} {place : String}
    {clause : List (Value × Value)} (h : resolveClause? identity place clause = .ok r) :
    SameBut "value" r clause := by
  unfold resolveClause? at h
  split at h
  · cases h
    exact .refl
  split at h
  · cases h
    exact .refl
  · obtain ⟨p, -, h⟩ := exists_of_bind_eq_ok h
    obtain ⟨written, -, h⟩ := exists_of_bind_eq_ok h
    cases h
    exact sameBut_withEntry _

/-- **Resolving a condition** goes through its clauses. -/
theorem goesThrough_condition (origin : Origin) (index : Nat) (place : String)
    (condition : List (Value × Value)) :
    GoesThrough (resolveCondition? origin index place condition) (conditionSites condition) := by
  have hsecond : ∀ key resolved, recordAt? key resolved = recordAt? key condition →
      GoesThrough (match recordAt? key resolved with
        | none => .ok resolved
        | some second =>
          resolveClause? ⟨origin, index, .second⟩ (place ++ ".and") second >>= fun second =>
            pure (withEntry key (.dict second) resolved))
        ((recordAt? key condition).toList.map .clause) := by
    intro key resolved hsame
    rw [← hsame, List.map_eq_flatMap]
    exact goesThrough_part fun second => goesThrough_clause _ _ second
  unfold resolveCondition?
  refine (goesThrough_clause _ place condition).bind fun resolved hresolved => ?_
  have hsame := sameBut_of_resolveClause? hresolved
  rw [List.foldlM_cons]
  refine (hsecond "and" resolved (hsame.recordAt? (by decide))).bind fun both hboth => ?_
  rw [List.foldlM_cons]
  simp only [List.foldlM_nil, bind_pure]
  refine hsecond "and_" both (((sameBut_part hboth).recordAt? (by decide)).trans ?_)
  exact hsame.recordAt? (by decide)

/-- Resolving the condition of a field goes through the condition, if there is one. -/
theorem goesThrough_fieldCondition (origin : Origin) (index : Nat) (place : String) :
    GoesThrough (resolveFieldCondition? origin index place record)
      ((recordAt? "conditional" record).toList.flatMap conditionSites) :=
  goesThrough_part fun condition => goesThrough_condition origin index _ condition

/-- Making the rule of a field goes through the record that names it, if there is one. -/
theorem goesThrough_fieldRule (origin : Origin) (index : Nat) (place : String) :
    GoesThrough (resolveFieldRule? origin index place record) (ruleSites record) := by
  unfold resolveFieldRule? ruleSites
  cases hconstraints : recordAt? "validation" record with
  | none => exact .ok record
  | some constraints =>
    cases hnamed : recordAt? "custom" constraints with
    | none => simpa [hnamed, pure, Except.pure] using GoesThrough.ok record
    | some named => simpa [hnamed] using (goesThrough_rule _ _ named).map _

/-- Finding the cleaner of a field goes through its name, if there is one. -/
theorem goesThrough_fieldCleaner (place : String) :
    GoesThrough (resolveFieldCleaner? place record) (cleanerSites record) := by
  unfold resolveFieldCleaner? cleanerSites
  cases Value.lookupEntry (.text "sanitizer") record with
  | none => exact .ok record
  | some v =>
    cases v with
    | text name =>
      have hnot : ¬ (Site.cleaner name).Trips := id
      dsimp only
      cases hfound : Cleaner.ofName? name with
      | none => exact .refused _ _ (by simp [Site.Passes, hfound]) hnot
      | some c => exact .passed _ ⟨c, hfound⟩ hnot
    | _ => exact .ok record

/-- What halts reading stands under two keys. -/
theorem SameBut.haltsReading_iff {key : String} (h : SameBut key r record)
    (hvalidation : "validation" ≠ key) (hoptions : "options" ≠ key) :
    HaltsReading r ↔ HaltsReading record := by
  rw [HaltsReading, HaltsByPattern, HaltsByChoices, h _ hvalidation, h _ hoptions]
  rfl

/-- A record in a record stands there. -/
theorem recordAt?_eq_some {key : String} {part : List (Value × Value)}
    (h : recordAt? key record = some part) :
    Value.lookupEntry (.text key) record = some (.dict part) := by
  unfold recordAt? at h
  split at h
  · rename_i hlookup
    cases h
    exact hlookup
  · cases h

/-- Making the rule of a field changes nothing, or puts a rule among the constraints. -/
theorem resolveFieldRule?_cases {origin : Origin} {index : Nat} {place : String}
    (h : resolveFieldRule? origin index place record = .ok r) :
    r = record ∨ ∃ constraints rule,
      Value.lookupEntry (.text "validation") record = some (.dict constraints) ∧
      r = withEntry "validation" (.dict (withEntry "custom" rule constraints)) record := by
  unfold resolveFieldRule? at h
  cases hconstraints : recordAt? "validation" record with
  | none =>
    rw [hconstraints] at h
    cases h
    exact .inl rfl
  | some constraints =>
    simp only [hconstraints] at h
    cases hnamed : recordAt? "custom" constraints with
    | none =>
      rw [hnamed] at h
      cases h
      exact .inl rfl
    | some named =>
      rw [hnamed] at h
      obtain ⟨rule, -, h⟩ := exists_of_bind_eq_ok h
      cases h
      exact .inr ⟨constraints, rule, recordAt?_eq_some hconstraints, rfl⟩

/-- A made rule changes neither the pattern nor the choices. -/
theorem haltsReading_of_resolveFieldRule? {origin : Origin} {index : Nat} {place : String}
    (h : resolveFieldRule? origin index place record = .ok r) :
    HaltsReading r ↔ HaltsReading record := by
  rcases resolveFieldRule?_cases h with rfl | ⟨constraints, rule, hconstraints, rfl⟩
  · rfl
  refine or_congr ?_ ?_
  · rw [HaltsByPattern, HaltsByPattern, lookupEntry_withEntry, if_pos rfl, hconstraints]
    have hpattern : Value.lookupEntry (.text "pattern") (withEntry "custom" rule constraints) =
        Value.lookupEntry (.text "pattern") constraints :=
      sameBut_withEntry rule "pattern" (by decide)
    simp [hpattern]
  · rw [HaltsByChoices, sameBut_withEntry _ "options" (by decide)]
    rfl

/-- Finding the cleaner of a field changes the name of the cleaner alone. -/
theorem sameBut_of_resolveFieldCleaner? {place : String}
    (h : resolveFieldCleaner? place record = .ok r) : SameBut "sanitizer" r record := by
  unfold resolveFieldCleaner? at h
  split at h
  · split at h
    · cases h
      exact sameBut_withEntry _
    · cases h
  · cases h
    exact .refl

/-- **Resolving a field** goes through what is looked up and written out in its data. -/
theorem goesThrough_field (origin : Origin) (index : Nat) (data : Value) :
    GoesThrough (resolveField? origin index data) (fieldSites data) := by
  cases data with
  | dict record =>
    refine (goesThrough_name _).bind fun name _ => ?_
    refine (goesThrough_fieldCondition origin index _).bind fun r hr => ?_
    have hsame : SameBut "conditional" r record := sameBut_part hr
    have hrule : ruleSites record = ruleSites r := by
      rw [ruleSites, ruleSites, hsame.recordAt? (by decide)]
    rw [hrule]
    refine (goesThrough_fieldRule origin index _).bind fun r' hr' => ?_
    have hcleaner : cleanerSites record = cleanerSites r' := by
      have hwas : cleanerSites record = cleanerSites r := by
        rw [cleanerSites, cleanerSites, hsame _ (by decide)]
      rw [hwas, cleanerSites, cleanerSites]
      rcases resolveFieldRule?_cases hr' with rfl | ⟨constraints, rule, -, rfl⟩
      · rfl
      · rw [sameBut_withEntry _ "sanitizer" (by decide)]
    rw [hcleaner]
    exact (goesThrough_fieldCleaner _).map _
  | _ => exact .refused _ _ id id

/-- A resolved field is a record, and halts its reading if it did before. -/
theorem haltsReading_of_resolveField? {origin : Origin} {index : Nat} {data resolved : Value}
    (h : resolveField? origin index data = .ok resolved) :
    ∃ record r, data = .dict record ∧ resolved = .dict r ∧
      (HaltsReading r ↔ HaltsReading record) := by
  cases data with
  | dict record =>
    obtain ⟨name, -, h⟩ := exists_of_bind_eq_ok h
    obtain ⟨first, hfirst, h⟩ := exists_of_bind_eq_ok h
    obtain ⟨second, hsecond, h⟩ := exists_of_bind_eq_ok h
    obtain ⟨third, hthird, h⟩ := exists_of_bind_eq_ok h
    cases h
    refine ⟨record, third, rfl, rfl, ?_⟩
    calc HaltsReading third
        ↔ HaltsReading second :=
          (sameBut_of_resolveFieldCleaner? hthird).haltsReading_iff (by decide) (by decide)
      _ ↔ HaltsReading first := haltsReading_of_resolveFieldRule? hsecond
      _ ↔ HaltsReading record :=
          SameBut.haltsReading_iff (sameBut_part hfirst) (by decide) (by decide)
  | _ => cases h

end Fields

/-! ## Forms -/

section Forms

variable {items fields : List Value}

/-- **Resolving fields** goes through what is looked up and written out in their data. -/
theorem goesThrough_fields (origin : Origin) (items : List Value) :
    GoesThrough (items.zipIdx.mapM fun (item, i) => resolveField? origin i item)
      (items.flatMap fieldSites) := by
  have hsites : items.flatMap fieldSites = items.zipIdx.flatMap fun e => fieldSites e.1 := by
    conv_lhs => rw [← List.zipIdx_map_fst 0 items, List.flatMap_map]
  rw [hsites]
  exact .mapM fun e _ => goesThrough_field origin e.2 e.1

/-- Resolved fields halt reading if one of the fields does. -/
theorem exists_haltsReading_iff {origin : Origin}
    (h : (items.zipIdx.mapM fun (item, i) => resolveField? origin i item) = .ok fields) :
    (∃ r, .dict r ∈ fields ∧ HaltsReading r) ↔
      ∃ field, .dict field ∈ items ∧ HaltsReading field := by
  constructor
  · rintro ⟨r, hr, hhalts⟩
    obtain ⟨⟨item, i⟩, hitem, hresolved⟩ := exists_of_mem_mapM h hr
    obtain ⟨field, r', rfl, hr', hsame⟩ := haltsReading_of_resolveField? hresolved
    cases hr'
    exact ⟨field, List.fst_mem_of_mem_zipIdx hitem, hsame.mp hhalts⟩
  · rintro ⟨field, hfield, hhalts⟩
    rw [← List.zipIdx_map_fst 0 items] at hfield
    obtain ⟨⟨item, i⟩, hitem, rfl⟩ := List.mem_map.mp hfield
    obtain ⟨resolved, hmem, hresolved⟩ := exists_of_mem_forall₂ (forall₂_of_mapM_eq_ok h) hitem
    obtain ⟨field', r, hfield', rfl, hsame⟩ := haltsReading_of_resolveField? hresolved
    cases hfield'
    exact ⟨r, hmem, hsame.mpr hhalts⟩

/-- Once the fields are resolved loading escapes exactly if one of them halts reading. -/
theorem escapes_readForm (source : String) (name : Value) :
    Escapes (match readForm name fields with
      | .error f => .error (.fault f)
      | .ok (.error issues) => .error (.refused (.invalid source) issues)
      | .ok (.ok (name, fields)) =>
        match Form.of? name fields with
        | .ok form => .ok form
        | .error m => refuse (.misfit source m) : Load Form) ↔
      ∃ r, .dict r ∈ fields ∧ HaltsReading r := by
  have hreads : (readForm name fields).Halts ↔ _ := halts_readForm
  rw [← hreads]
  rcases readForm name fields with f | issues | ⟨name, fields⟩
  · exact iff_of_true (escapes_fault f) ⟨f, rfl⟩
  · exact iff_of_false (not_escapes_refused _ _) nofun
  · refine iff_of_false ?_ nofun
    dsimp only
    split
    · exact not_escapes_ok _
    · exact not_escapes_refused _ _

/-- What does not escape gives a result or is refused. -/
theorem not_escapes_iff {α : Type} {x : Load α} :
    ¬ Escapes x ↔ (∃ a, x = .ok a) ∨ ∃ d issues, x = .error (.refused d issues) := by
  cases x with
  | ok a => exact iff_of_true (not_escapes_ok a) (.inl ⟨a, rfl⟩)
  | error e =>
    constructor
    · intro h
      obtain ⟨d, issues, rfl⟩ := exists_refused_of_not_escapes h
      exact .inr ⟨d, issues, rfl⟩
    · rintro (⟨_, h⟩ | ⟨d, issues, h⟩)
      · cases h
      · cases h
        exact not_escapes_refused d issues

/-- Data that is no record with a list of fields is refused. -/
theorem not_escapes_of_no_fields {origin : Origin} {source : String} {data : Value}
    (h : ∀ record items, data = .dict record →
      Value.lookupEntry (.text "fields") record ≠ some (.list items)) :
    ¬ Escapes (Form.ofData? origin source data) := by
  cases data with
  | dict record =>
    unfold Form.ofData?
    dsimp only
    cases hfields : Value.lookupEntry (.text "fields") record with
    | none => exact not_escapes_refused _ _
    | some v =>
      cases v with
      | list items => exact absurd hfields (h record items rfl)
      | _ => exact not_escapes_refused _ _
  | _ => exact not_escapes_refused _ _

/-- A record with a list of fields escapes while they are resolved, or while they are read. -/
theorem escapes_of_fields {origin : Origin} {source : String} {record : List (Value × Value)}
    (hfields : Value.lookupEntry (.text "fields") record = some (.list items)) :
    Escapes (Form.ofData? origin source (.dict record)) ↔
      Site.FirstTrips (items.flatMap fieldSites) ∨
        (∀ site ∈ items.flatMap fieldSites, site.Passes) ∧
          ∃ field, .dict field ∈ items ∧ HaltsReading field := by
  have hthrough := goesThrough_fields origin items
  unfold Form.ofData?
  dsimp only
  rw [hfields]
  show Escapes (_ >>= _) ↔ _
  rw [escapes_bind, hthrough.escapes, ← hthrough.returns]
  refine or_congr_right ⟨?_, ?_⟩
  · rintro ⟨fields, hresolved, h⟩
    exact ⟨⟨fields, hresolved⟩, (exists_haltsReading_iff hresolved).mp
      ((escapes_readForm source _).mp h)⟩
  · rintro ⟨⟨fields, hresolved⟩, h⟩
    exact ⟨fields, hresolved, (escapes_readForm source _).mpr
      ((exists_haltsReading_iff hresolved).mpr h)⟩

/-- **Loading escapes** exactly if the first thing in its fields that is not passed trips it, or all
are passed and a field halts reading. -/
theorem escapes_ofData? (origin : Origin) (source : String) (data : Value) :
    Escapes (Form.ofData? origin source data) ↔
      ∃ record items, data = .dict record ∧
        Value.lookupEntry (.text "fields") record = some (.list items) ∧
        (Site.FirstTrips (items.flatMap fieldSites) ∨
          (∀ site ∈ items.flatMap fieldSites, site.Passes) ∧
            ∃ field, .dict field ∈ items ∧ HaltsReading field) := by
  constructor
  · intro h
    by_contra hnone
    refine not_escapes_of_no_fields (fun record items hrecord hfields => hnone ?_) h
    rw [hrecord] at h
    exact ⟨record, items, hrecord, hfields, (escapes_of_fields hfields).mp h⟩
  · rintro ⟨record, items, rfl, hfields, h⟩
    exact (escapes_of_fields hfields).mpr h

end Forms

/-- **What data makes a form or is refused**: all but that in which the first thing in the fields
that is looked up or written out in vain trips loading, or there is none and a field halts
reading. -/
theorem ofData?_ends_iff (origin : Origin) (source : String) (data : Value) :
    ((∃ form, Form.ofData? origin source data = .ok form) ∨
      ∃ d issues, Form.ofData? origin source data = .error (.refused d issues)) ↔
    ¬ ∃ record items, data = .dict record ∧
      Value.lookupEntry (.text "fields") record = some (.list items) ∧
      (Site.FirstTrips (items.flatMap fieldSites) ∨
        (∀ site ∈ items.flatMap fieldSites, site.Passes) ∧
          ∃ field, .dict field ∈ items ∧ HaltsReading field) := by
  rw [← not_escapes_iff, escapes_ofData?]

/-- The record of a field for a text, with what else is written in it. -/
def noteRecord (entries : List (Value × Value)) : List (Value × Value) :=
  (.text "name", .text "note") :: (.text "type", .text "text") :: entries

/-- The data of a form that has this field alone. -/
def noteData (entries : List (Value × Value)) : Value :=
  .dict [(.text "name", .text "f"), (.text "fields", .list [.dict (noteRecord entries)])]

/-- The data of such a form with a rule of its own. -/
def ruleData (named : List (Value × Value)) : Value :=
  noteData [(.text "validation", .dict [(.text "custom", .dict named)])]

/-- Choices that are a number escape, and so do a list in the place of the name of a rule or a
predicate, and numbers in the place of a domain or a message. -/
theorem noteData_escapes :
    (¬ ((∃ form, Form.ofData? (.read 0) "<data>" (noteData [(.text "options", .int 5)]) =
          .ok form) ∨
        ∃ d issues, Form.ofData? (.read 0) "<data>" (noteData [(.text "options", .int 5)]) =
          .error (.refused d issues))) ∧
    Form.ofData? (.read 0) "<data>" (noteData [(.text "conditional", .dict
        [(.text "field", .text "note"), (.text "value", .dict [(.text "predicate", .list [])])])]) =
      .error (.fault (.unhashable .list)) ∧
    Form.ofData? (.read 0) "<data>" (ruleData [(.text "rule", .list [.text "unique_items"])]) =
      .error (.fault (.unhashable .list)) ∧
    Form.ofData? (.read 0) "<data>" (ruleData [(.text "rule", .text "email_domain"),
        (.text "params", .dict [(.text "domain", .int 5)])]) =
      .error (.fault (.noMember .int "lower")) ∧
    Form.ofData? (.read 0) "<data>" (ruleData [(.text "rule", .text "unique_items"),
        (.text "message", .int 5)]) =
      .error (.issues [⟨[.key "message"], .notText⟩]) := by
  refine ⟨?_, by cbv, by cbv, by cbv, by cbv⟩
  rw [← not_escapes_iff, not_not, escapes_ofData?]
  have hsites : [Value.dict (noteRecord [(.text "options", .int 5)])].flatMap fieldSites =
      [.name (.text "note")] := by cbv
  refine ⟨_, [.dict (noteRecord [(.text "options", .int 5)])], rfl, by cbv, .inr ⟨?_, _,
    List.mem_cons_self, .inr ⟨.int 5, by cbv, by simp, _, rfl⟩⟩⟩
  rw [hsites]
  intro site hsite
  cases List.mem_singleton.mp hsite
  have hshort : ¬ (Value.text "note").HasLongInteger := by
    intro hlong
    cases hlong
  exact hshort

end Intake
