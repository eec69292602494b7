import Intake.Proofs.Schema.Checking

/-!
# The layers of a check

What is demanded of a field comes in six layers: that there is a value if one is required, that it
is of the field's sort, the lower bound, the upper bound, the pattern, and the form's own rule. 
Each can be looked at by itself, and says something of a value or nothing.  What is reported of a
visible field is what the first layer says that says anything, however many of the later ones would.

Whether all answers are checked or those of one field, it is the same check that speaks.  As names
are distinct, the report tells of every name what the check of that one field tells.

* `Field.ruleIn?` is the rule of a field in a layer, `Field.verdict?` what a layer says by itself;
* `firstSaid?_eq_some_iff` says when something is the first that is said;
* `Field.run?_eq_firstSaid?` says that a check goes by the layers in their order;
* `Field.message_ne_empty_of_run?` says that nothing empty is said, so that a message is there
  exactly if it has a character, and `Field.runBy?_heeding` that rules can be asked either way;
* `report_agrees` is the conclusion.
-/

namespace Intake

/-! ## What is said first -/

/-- What is said of the first item of which something is said. -/
def firstSaid? {α : Type} (verdict : α → Except Fault (Option String)) :
    List α → Except Fault (Option String)
  | [] => .ok none
  | a :: rest => do
    match ← verdict a with
    | some message => return some message
    | none => firstSaid? verdict rest

section First

variable {α β : Type} {verdict : α → Except Fault (Option String)} {items : List α} {a : α}

/-- Where something is said of the first item, that is it. -/
theorem firstSaid?_of_some {rest : List α} {message : String} (h : verdict a = .ok (some message)) :
    firstSaid? verdict (a :: rest) = .ok (some message) := by
  rw [firstSaid?, h]
  rfl

/-- An item of which nothing is said is passed over. -/
theorem firstSaid?_of_none {rest : List α} (h : verdict a = .ok none) :
    firstSaid? verdict (a :: rest) = firstSaid? verdict rest := by
  rw [firstSaid?, h]
  rfl

/-- Items come to an end only if the first of them does. -/
theorem exists_of_firstSaid? {rest : List α} {found : Option String}
    (h : firstSaid? verdict (a :: rest) = .ok found) : ∃ said, verdict a = .ok said := by
  obtain ⟨said, hsaidFirst, -⟩ := exists_of_bind_eq_ok h
  exact ⟨said, hsaidFirst⟩

/-- Nothing is said exactly if nothing is said of any item. -/
theorem firstSaid?_eq_none_iff :
    firstSaid? verdict items = .ok none ↔ ∀ a ∈ items, verdict a = .ok none := by
  induction items with
  | nil => simp [firstSaid?]
  | cons a rest ih =>
    rw [List.forall_mem_cons]
    constructor
    · intro h
      obtain ⟨said, hsaidFirst⟩ := exists_of_firstSaid? h
      cases said with
      | some message =>
        rw [firstSaid?_of_some hsaidFirst] at h
        cases h
      | none =>
        rw [firstSaid?_of_none hsaidFirst] at h
        exact ⟨hsaidFirst, ih.mp h⟩
    · rintro ⟨hfirst, hrest⟩
      rw [firstSaid?_of_none hfirst]
      exact ih.mpr hrest

/-- **What is said first** is said of an item before which nothing is said. -/
theorem firstSaid?_eq_some_iff {message : String} :
    firstSaid? verdict items = .ok (some message) ↔
      ∃ before a after, items = before ++ a :: after ∧ verdict a = .ok (some message) ∧
        ∀ earlier ∈ before, verdict earlier = .ok none := by
  induction items with
  | nil => simp [firstSaid?]
  | cons a rest ih =>
    constructor
    · intro h
      obtain ⟨said, hsaidFirst⟩ := exists_of_firstSaid? h
      cases said with
      | some found =>
        rw [firstSaid?_of_some hsaidFirst] at h
        cases h
        exact ⟨[], a, rest, rfl, hsaidFirst, by simp⟩
      | none =>
        rw [firstSaid?_of_none hsaidFirst] at h
        obtain ⟨before, b, after, rfl, hsaid, hbefore⟩ := ih.mp h
        exact ⟨a :: before, b, after, rfl, hsaid, List.forall_mem_cons.mpr ⟨hsaidFirst, hbefore⟩⟩
    · rintro ⟨before, b, after, hitems, hsaid, hbefore⟩
      cases before with
      | nil =>
        cases hitems
        exact firstSaid?_of_some hsaid
      | cons c before =>
        cases hitems
        obtain ⟨hfirst, hbefore⟩ := List.forall_mem_cons.mp hbefore
        rw [firstSaid?_of_none hfirst]
        exact ih.mpr ⟨before, b, after, rfl, hsaid, hbefore⟩

/-- Items that stand for others, or for nothing, are asked by asking what they stand for. -/
theorem firstSaid?_filterMap {verdict' : β → Except Fault (Option String)} {stands : α → Option β}
    (h : ∀ a ∈ items, verdict a = ((stands a).map verdict').getD (.ok none)) :
    firstSaid? verdict items = firstSaid? verdict' (items.filterMap stands) := by
  induction items with
  | nil => rfl
  | cons a rest ih =>
    obtain ⟨hfirst, hrest⟩ := List.forall_mem_cons.mp h
    cases hstands : stands a with
    | none =>
      rw [hstands] at hfirst
      rw [firstSaid?_of_none hfirst, List.filterMap_cons_none hstands]
      exact ih hrest
    | some b =>
      have hsame : verdict a = verdict' b := by rw [hfirst, hstands]; rfl
      rw [List.filterMap_cons_some hstands, firstSaid?, firstSaid?, hsame, ih hrest]

end First

/-! ## Layers -/

/-- The layers of a check. -/
inductive Layer where
  | requirement | sort | lower | upper | pattern | own
deriving DecidableEq, Repr

/-- All layers, in the order in which they are tried. -/
def Layer.all : List Layer := [.requirement, .sort, .lower, .upper, .pattern, .own]

/-- The layers in which a field has rules, in their order. -/
def Layer.ofRules : List Layer := [.lower, .upper, .pattern, .own]

/-- The rule that a field has in a layer, by its sort. -/
def Field.ruleIn? (d : Field) : Layer → Option Rule
  | .requirement | .sort => none
  | .lower =>
    if d.type = .number then d.constraints.minValue.map .minValue
    else if d.type.isListLike then
      (d.constraints.minItems.or d.constraints.minLength).map .minItems
    else if d.type.isTextLike then d.constraints.minLength.map .minLength
    else none
  | .upper =>
    if d.type = .number then d.constraints.maxValue.map .maxValue
    else if d.type.isListLike then
      (d.constraints.maxItems.or d.constraints.maxLength).map .maxItems
    else if d.type.isTextLike then d.constraints.maxLength.map .maxLength
    else none
  | .pattern =>
    if d.type.isTextLike then
      d.constraints.pattern.map fun p => .pattern p d.constraints.patternMessage
    else none
  | .own => d.constraints.own.map .own

/-- What a layer says of a value of a field, looked at by itself.  The requirement is about empty
values alone, and all other layers are about values that are not empty. -/
def Field.verdict? (host : Host) (answers : Answers) (value : Value) (d : Field) (layer : Layer) :
    Except Fault (Option String) :=
  match layer with
  | .requirement => if value.isEmpty then FieldCheck.demand? host answers d else .ok none
  | .sort =>
    .ok (if !value.isEmpty && !d.type.accepts value then some d.type.refusal else none)
  | _ =>
    if value.isEmpty then .ok none
    else ((d.ruleIn? layer).map fun r => r.check? host value answers).getD (.ok none)

section Layers

variable {host : Host} {answers : Answers} {value : Value} {d : Field}

/-- The rules of a field are those in its layers, in their order. -/
theorem Field.rules_eq (d : Field) : d.rules = Layer.ofRules.filterMap d.ruleIn? := by
  rw [List.filterMap_eq_flatMap_toList, rules, Constraints.rules]
  cases htype : d.type <;>
    simp [Layer.ofRules, ruleIn?, htype, FieldType.isListLike, FieldType.isTextLike,
      Constraints.numberRules, Constraints.listRules, Constraints.textRules, Option.toList_map]

/-- Rules are tried one after the other. -/
theorem firstBroken?_eq_firstSaid? (rules : List Rule) :
    firstBroken? host value answers rules =
      firstSaid? (fun r => r.check? host value answers) rules := by
  induction rules with
  | nil => rfl
  | cons r rest ih =>
    unfold firstBroken? firstSaid?
    cases r.check? host value answers with
    | error fault => rfl
    | ok said =>
      cases said with
      | none => exact ih
      | some message => rfl

/-- Of a value that is not empty the layers of the rules say what its rules say. -/
theorem Field.firstSaid?_ofRules (hvalue : value.isEmpty = false) :
    firstSaid? (d.verdict? host answers value) Layer.ofRules =
      firstBroken? host value answers d.rules := by
  rw [firstBroken?_eq_firstSaid?, rules_eq]
  refine firstSaid?_filterMap fun layer hlayer => ?_
  cases layer with
  | requirement => simp [Layer.ofRules] at hlayer
  | sort => simp [Layer.ofRules] at hlayer
  | _ => simp [verdict?, hvalue]

/-- Of an empty value only the requirement says something. -/
theorem Field.firstSaid?_of_isEmpty (hvalue : value.isEmpty = true) :
    firstSaid? (d.verdict? host answers value) Layer.all = FieldCheck.demand? host answers d := by
  have hfirst : d.verdict? host answers value .requirement = FieldCheck.demand? host answers d := by
    simp [verdict?, hvalue]
  have hothers :
      firstSaid? (d.verdict? host answers value) (.sort :: Layer.ofRules) = .ok none := by
    refine firstSaid?_eq_none_iff.mpr fun layer hlayer => ?_
    cases layer with
    | requirement => simp [Layer.ofRules] at hlayer
    | _ => simp [verdict?, hvalue]
  show firstSaid? _ (.requirement :: .sort :: Layer.ofRules) = _
  rw [firstSaid?, hfirst]
  cases FieldCheck.demand? host answers d with
  | error f => rfl
  | ok said =>
    cases said with
    | none => exact hothers
    | some message => rfl

/-- Of any other value the sort of the field says something first, and then its rules. -/
theorem Field.firstSaid?_of_not_isEmpty (hvalue : value.isEmpty = false) :
    firstSaid? (d.verdict? host answers value) Layer.all =
      if !d.type.accepts value then .ok (some d.type.refusal)
      else firstBroken? host value answers d.rules := by
  show firstSaid? _ (.requirement :: .sort :: Layer.ofRules) = _
  rw [firstSaid?_of_none (by simp [verdict?, hvalue])]
  cases haccepts : d.type.accepts value with
  | false =>
    have hsaid : d.verdict? host answers value .sort = .ok (some d.type.refusal) := by
      simp [verdict?, hvalue, haccepts]
    rw [firstSaid?_of_some hsaid]
    rfl
  | true =>
    rw [firstSaid?_of_none (by simp [verdict?, hvalue, haccepts]), firstSaid?_ofRules hvalue]
    rfl

/-- **A check goes by the layers.**  Of a visible field it says what is said first, layer by layer.
-/
theorem Field.run?_eq_firstSaid? (hshown : d.isShown? host answers = .ok true) :
    d.check.run? host value answers = firstSaid? (d.verdict? host answers value) Layer.all := by
  rw [run?_of_isShown hshown]
  cases hvalue : value.isEmpty with
  | true => exact (firstSaid?_of_isEmpty hvalue).symm
  | false => exact (firstSaid?_of_not_isEmpty hvalue).symm

/-! ## Messages have characters -/

/-- The message of a rule has characters, if that of the form's own rule has. -/
theorem Rule.IsOf.message_ne_empty {c : Constraints} {type : FieldType} {r : Rule}
    (h : r.IsOf c type) (hown : ∀ r ∈ c.own, r.message ≠ "") {message : String}
    (hmessage : r.message? = .ok message) : message ≠ "" := by
  have hwords : ∀ {text : Except Fault String} {say : String → String},
      (∀ n, say n ≠ "") → text.map say = .ok message → message ≠ "" := by
    intro text say hsay htext
    obtain ⟨n, -, rfl⟩ := exists_of_map_eq_ok htext
    exact hsay n
  cases h with
  | pattern =>
    cases hmessage
    unfold Constraints.patternMessage
    cases c.message with
    | none => simp [Wording.invalidFormat]
    | some m =>
      by_cases hempty : m.isEmpty = true
      · simp only [hempty, if_true]
        simp [Wording.invalidFormat]
      · simp only [hempty]
        rintro rfl
        exact hempty rfl
  | own hr =>
    cases hmessage
    exact hown _ hr
  | _ => exact hwords (fun n => by simp [String.append_eq_empty_iff]) hmessage

/-- What is said of a visible field without a value has characters. -/
theorem FieldCheck.demand?_ne_empty {message : String}
    (h : FieldCheck.demand? host answers d = .ok (some message)) : message ≠ "" := by
  have hwording : message = Wording.requiredNow ∨ message = Wording.required := by
    unfold FieldCheck.demand? at h
    split at h
    · obtain ⟨now, -, h⟩ := exists_of_bind_eq_ok h
      cases now with
      | true => exact .inl (Option.some.inj (Except.ok.inj h)).symm
      | false => cases h
    · cases hrequired : d.required with
      | true =>
        rw [hrequired] at h
        exact .inr (Option.some.inj (Except.ok.inj h)).symm
      | false =>
        rw [hrequired] at h
        cases h
  rcases hwording with rfl | rfl
  · decide
  · decide

/-- What a rule says is its message. -/
theorem Rule.message?_of_check? {r : Rule} {message : String}
    (h : r.check? host value answers = .ok (some message)) : r.message? = .ok message := by
  obtain ⟨obeyed, -, h⟩ := exists_of_bind_eq_ok h
  cases obeyed with
  | true => cases h
  | false =>
    obtain ⟨m, hm, heq⟩ := exists_of_map_eq_ok h
    cases heq
    exact hm

/-- **Nothing empty is said.**  A message about a field has characters, if that of the form's own
rule has. -/
theorem Field.message_ne_empty_of_run? (hown : ∀ r ∈ d.constraints.own, r.message ≠ "")
    {message : String} (h : d.check.run? host value answers = .ok (some message)) :
    message ≠ "" := by
  rw [run?_eq_firstSaid? (isShown?_of_isShown (isShown_of_run? h))] at h
  obtain ⟨before, layer, after, -, hsaid, -⟩ := firstSaid?_eq_some_iff.mp h
  have hrule : ∀ {layer : Layer},
      (if value.isEmpty then .ok none
        else ((d.ruleIn? layer).map fun r => r.check? host value answers).getD (.ok none)) =
          Except.ok (some message) → layer ∈ Layer.ofRules → message ≠ "" := by
    intro layer hsaid hlayer
    cases hvalue : value.isEmpty with
    | true => simp [hvalue] at hsaid
    | false =>
      cases hr : d.ruleIn? layer with
      | none => simp [hvalue, hr] at hsaid
      | some r =>
        have hmem : r ∈ d.rules := by
          rw [rules_eq]
          exact List.mem_filterMap.mpr ⟨layer, hlayer, hr⟩
        have hcheck : r.check? host value answers = .ok (some message) := by
          simpa [hvalue, hr] using hsaid
        exact (Constraints.isOf_of_mem_rules hmem).message_ne_empty hown
          (Rule.message?_of_check? hcheck)
  cases layer with
  | requirement =>
    cases hvalue : value.isEmpty with
    | true => exact FieldCheck.demand?_ne_empty (by simpa [verdict?, hvalue] using hsaid)
    | false => simp [verdict?, hvalue] at hsaid
  | sort =>
    have hrefusal : d.type.refusal = message := by
      simp only [verdict?, Except.ok.injEq] at hsaid
      split at hsaid
      · exact Option.some.inj hsaid
      · cases hsaid
    rw [← hrefusal]
    cases d.type <;> decide
  | _ => exact hrule hsaid (by decide)

/-- **It does not matter how messages are asked for.**  To pass over what a rule says if it has no
characters, makes no difference to the check of a field whose own rule has a message. -/
theorem Field.runBy?_heeding (hown : ∀ r ∈ d.constraints.own, r.message ≠ "") :
    d.check.runBy? host answers
        (fun r v => (r.check? host v answers).map (Option.filter fun m => !m.isEmpty)) value =
      d.check.run? host value answers := by
  have hheard : ∀ r ∈ d.rules,
      (r.check? host value answers).map (Option.filter fun m => !m.isEmpty) =
        r.check? host value answers := by
    intro r hr
    cases hcheck : r.check? host value answers with
    | error fault => rfl
    | ok said =>
      cases said with
      | none => rfl
      | some message =>
        have hne : message ≠ "" := (Constraints.isOf_of_mem_rules hr).message_ne_empty hown
          (Rule.message?_of_check? hcheck)
        simp [Except.map, Option.filter, hne]
  unfold FieldCheck.runBy? FieldCheck.run?
  rw [show firstBrokenBy? _ d.check.rules = firstBroken? host value answers d.check.rules from
    firstBrokenBy?_eq hheard]

end Layers

/-! ## The report and the checks of single fields -/

section Report

variable {host : Host} {answers : Answers} {fields : List Field} {s : Schema} {report : Report}

/-- A report has no finding exactly if it has a message under no name. -/
theorem Report.isValid_iff (r : Report) :
    r.isValid = true ↔ ∀ name, r.messageFor? name = none := by
  unfold isValid messageFor?
  rw [List.isEmpty_iff, ← byField_eq_nil_iff]
  constructor
  · intro hnone name
    rw [hnone]
    rfl
  · intro hnone
    cases hpairs : r.byField with
    | nil => rfl
    | cons e rest =>
      have hfirst := hnone e.1
      rw [hpairs, List.lookup_cons_self] at hfirst
      cases hfirst

/-- A report says of a field what its check says of the answer to it. -/
theorem Schema.run?_eq_messageFor? (hs : Schema.compile fields = .ok s) {d : Field}
    (hd : d ∈ fields) {report : Report}
    (hreport : s.check? host answers = .ok report) :
    d.check.run? host (answers.get d.name) answers = .ok (report.messageFor? d.name) := by
  rw [← Schema.checkField?_eq_run? hs hd]
  exact Schema.checkField?_eq (Schema.nodup_names_of_compile hs) hreport d.name

/-- The fault in checking all answers is that of the first field under whose name the check faults.
-/
theorem Schema.check?_eq_error_iff_checkField? (hs : Schema.compile fields = .ok s) {f : Fault} :
    s.check? host answers = .error f ↔ ∃ before d after, fields = before ++ d :: after ∧
      (∀ e ∈ before, ∃ message, s.checkField? host e.name answers = .ok message) ∧
        s.checkField? host d.name answers = .error f := by
  have hcheck : s.check? host answers = .error f ↔ ∃ before d after, fields = before ++ d :: after ∧
      (∀ e ∈ before, ∃ message, e.check.run? host (answers.get e.name) answers = .ok message) ∧
        d.check.run? host (answers.get d.name) answers = .error f := by
    obtain ⟨t, -, rfl⟩ := Schema.of_compile hs
    exact Schema.check?_eq_error_iff
  rw [hcheck]
  refine exists_congr fun before => exists_congr fun d => exists_congr fun after =>
    and_congr_right fun hsplit => ?_
  have hd : d ∈ fields := hsplit ▸ List.mem_append_right before List.mem_cons_self
  have hbefore : ∀ e ∈ before, e ∈ fields := fun e he => hsplit ▸ List.mem_append_left _ he
  rw [Schema.checkField?_eq_run? hs hd]
  refine and_congr_left fun _ => forall_congr' fun e => forall_congr' fun he => ?_
  rw [Schema.checkField?_eq_run? hs (hbefore e he)]

/-- There is a report exactly if the check under every name ends with an answer. -/
theorem Schema.exists_check?_iff (hs : Schema.compile fields = .ok s) :
    (∃ report, s.check? host answers = .ok report) ↔
      ∀ name, ∃ message, s.checkField? host name answers = .ok message := by
  constructor
  · rintro ⟨report, hreport⟩ name
    exact ⟨_, Schema.checkField?_eq (Schema.nodup_names_of_compile hs) hreport name⟩
  · intro hanswers
    cases hreport : s.check? host answers with
    | error f =>
      obtain ⟨-, d, -, -, -, hfault⟩ := (Schema.check?_eq_error_iff_checkField? hs).mp hreport
      obtain ⟨message, hmessage⟩ := hanswers d.name
      cases hmessage.symm.trans hfault
    | ok report => exact ⟨report, rfl⟩

/-- There is a report without findings exactly if the check under every name finds nothing. -/
theorem Schema.isValid_iff (hs : Schema.compile fields = .ok s) :
    (∃ report, s.check? host answers = .ok report ∧ report.isValid = true) ↔
      ∀ name, s.checkField? host name answers = .ok none := by
  have hagree : ∀ {report}, s.check? host answers = .ok report → ∀ name,
      s.checkField? host name answers = .ok (report.messageFor? name) :=
    fun hreport => Schema.checkField?_eq (Schema.nodup_names_of_compile hs) hreport
  constructor
  · rintro ⟨report, hreport, hvalid⟩ name
    rw [hagree hreport, (Report.isValid_iff report).mp hvalid]
  · intro hnone
    obtain ⟨report, hreport⟩ :=
      (Schema.exists_check?_iff hs).mpr fun name => ⟨none, hnone name⟩
    refine ⟨report, hreport, (Report.isValid_iff report).mpr fun name => ?_⟩
    exact Except.ok.inj ((hagree hreport name).symm.trans (hnone name))

/-- **What a report says of a field** is what the first of its layers says that says anything, if
the field is visible, and otherwise nothing. -/
theorem Schema.messageFor?_iff (hs : Schema.compile fields = .ok s)
    (hreport : s.check? host answers = .ok report) {d : Field} (hd : d ∈ fields) :
    (report.messageFor? d.name = none ↔ (d.isShown host answers = true →
      ∀ layer, d.verdict? host answers (answers.get d.name) layer = .ok none)) ∧
    ∀ message, report.messageFor? d.name = some message ↔ d.isShown host answers = true ∧
      ∃ before layer after, Layer.all = before ++ layer :: after ∧
        d.verdict? host answers (answers.get d.name) layer = .ok (some message) ∧
        ∀ earlier ∈ before, d.verdict? host answers (answers.get d.name) earlier = .ok none := by
  have hrun := Schema.run?_eq_messageFor? hs hd hreport
  have htold := Field.isShown?_of_run? hrun
  cases hshown : d.isShown host answers with
  | false =>
    rw [hshown] at htold
    have hnone : report.messageFor? d.name = none := by
      rw [Field.run?_of_hidden htold] at hrun
      exact (Except.ok.inj hrun).symm
    simp [hnone]
  | true =>
    rw [hshown] at htold
    rw [Field.run?_eq_firstSaid? htold] at hrun
    constructor
    · rw [← Except.ok.injEq, ← hrun, firstSaid?_eq_none_iff]
      have hall : ∀ layer, layer ∈ Layer.all := by
        intro layer
        cases layer <;> decide
      exact ⟨fun h _ layer => h layer (hall layer), fun h layer _ => h rfl layer⟩
    · intro message
      rw [← Except.ok.injEq, ← hrun, firstSaid?_eq_some_iff]
      simp

/-- **Checking all answers and checking those of one field agree.**  Let a schema have been made of
some fields.  In a report on all answers:

* the findings come in the order of the fields, with at most one for each;
* under every name, whether a field has it or not, there is what the check of that one field says;
* nothing is said of a hidden field, nor of a visible one of which no layer says anything by itself;
  and what is said of any other is what the first of its layers says that says anything.

There is a report exactly if the check under every name ends with an answer: what keeps all answers
from being checked is the fault in checking the answer of one field, the first one that has a fault.
And there is a report without findings exactly if the check under every name finds nothing.

If the forms' own rules have messages with characters in them, all messages have, and it makes no
difference whether a message is asked for its presence or for its characters. -/
theorem report_agrees (hs : Schema.compile fields = .ok s) (host : Host) (answers : Answers) :
    (∀ report, s.check? host answers = .ok report →
      (report.findings.map Finding.field).Sublist (fieldNames fields) ∧
      (report.findings.map Finding.field).Nodup ∧
      (∀ name, s.checkField? host name answers = .ok (report.messageFor? name)) ∧
      ∀ d ∈ fields,
        (report.messageFor? d.name = none ↔ (d.isShown host answers = true →
          ∀ layer, d.verdict? host answers (answers.get d.name) layer = .ok none)) ∧
        ∀ message, report.messageFor? d.name = some message ↔ d.isShown host answers = true ∧
          ∃ before layer after, Layer.all = before ++ layer :: after ∧
            d.verdict? host answers (answers.get d.name) layer = .ok (some message) ∧
            ∀ earlier ∈ before,
              d.verdict? host answers (answers.get d.name) earlier = .ok none) ∧
    ((∃ report, s.check? host answers = .ok report) ↔
      ∀ name, ∃ message, s.checkField? host name answers = .ok message) ∧
    (∀ f, s.check? host answers = .error f ↔ ∃ before d after, fields = before ++ d :: after ∧
      (∀ e ∈ before, ∃ message, s.checkField? host e.name answers = .ok message) ∧
        s.checkField? host d.name answers = .error f) ∧
    ((∃ report, s.check? host answers = .ok report ∧ report.isValid = true) ↔
      ∀ name, s.checkField? host name answers = .ok none) ∧
    ((∀ d ∈ fields, ∀ r ∈ d.constraints.own, r.message ≠ "") →
      (∀ report, s.check? host answers = .ok report → ∀ f ∈ report.findings, f.message ≠ "") ∧
      ∀ d ∈ fields, ∀ value, d.check.runBy? host answers
          (fun r v => (r.check? host v answers).map (Option.filter fun m => !m.isEmpty)) value =
        d.check.run? host value answers) := by
  obtain ⟨hsNames, hsChecks⟩ := Schema.names_of_compile hs
  have hdistinct := Schema.nodup_names_of_compile hs
  refine ⟨fun report hreport => ?_, Schema.exists_check?_iff hs,
    fun f => Schema.check?_eq_error_iff_checkField? hs, Schema.isValid_iff hs,
    fun hown => ⟨fun report hreport f hf => ?_, fun d hd value => ?_⟩⟩
  · have hsub := Schema.names_findings hreport
    exact ⟨hsNames ▸ hsub, hsub.nodup hdistinct, Schema.checkField?_eq hdistinct hreport,
      fun d hd => Schema.messageFor?_iff hs hreport hd⟩
  · obtain ⟨c, hc, hrun, -⟩ := (Schema.mem_findings hreport).mp hf
    obtain ⟨d, hd, rfl⟩ := (hsChecks c).mp hc
    exact Field.message_ne_empty_of_run? (hown d hd) hrun
  · exact Field.runBy?_heeding (hown d hd)

end Report

/-- A form with a required code that is not to be short and that the host has to know, and a number
of guests that has two bounds. -/
def layeredForm : List Field :=
  [{ name := "code", type := .text, required := true,
     constraints := { minLength := some 3, own := some ⟨.host "known", "Unknown code"⟩ } },
   { name := "guests", type := .number,
     constraints := { minValue := some (.int 1), maxValue := some (.int 9) } }]

/-- A code that is too short and that the host does not know, and guests that are no number. -/
def layeredAnswers : Answers := .ofEntries [("code", .text "xy"), ("guests", .text "many")]

/-- Of the code it is reported that it is too short, though it is unknown as well, and of the guests
that they are no number, before either bound is tried. -/
theorem report_layeredForm :
    ∃ s report, Schema.compile layeredForm = .ok s ∧
      s.check? Host.none layeredAnswers = .ok report ∧
      report.messageFor? "code" = some "Must be at least 3 characters" ∧
      report.messageFor? "guests" = some Wording.invalidNumber ∧
      report.messageFor? "host" = none ∧ report.isValid = false := by
  obtain ⟨t, ht⟩ : ∃ t, payload? layeredForm = .ok t := by
    refine exists_payload? fun d hd => ?_
    simp only [layeredForm, List.mem_cons, List.not_mem_nil, or_false] at hd
    rcases hd with rfl | rfl <;> exact ⟨_, rfl⟩
  have hs := Schema.compile_eq_ok (by decide : (fieldNames layeredForm).Nodup) ht
  obtain ⟨report, hreport⟩ := Schema.exists_check?_of_isPlain hs Host.isPlain_none layeredAnswers
  obtain ⟨hreports, -, -, hvalid, -⟩ := report_agrees hs Host.none layeredAnswers
  obtain ⟨-, -, hagree, -⟩ := hreports report hreport
  have hcode := hagree "code"
  have hguests := hagree "guests"
  have hhost := hagree "host"
  refine ⟨_, report, hs, hreport, Except.ok.inj hcode.symm, Except.ok.inj hguests.symm,
    Except.ok.inj hhost.symm, ?_⟩
  rw [Bool.eq_false_iff]
  intro hall
  cases hvalid.mp ⟨report, hreport, hall⟩ "code"

end Intake
