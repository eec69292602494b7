import Intake.Proofs.BuiltIn.TaskNumber
import Intake.Proofs.Form.HiddenFields
import Intake.Proofs.Form.Typed
import Intake.Proofs.Schema.NumberBounds

/-!
# The count of what a task delivered

The task form asks for a list of deliverables and counts them by itself, and it checks both: the
list has one to eight items, the count is from one to a hundred and no less than there are items.
The count is filled in after cleaning, so its checks should have nothing to add to those of the
list.  They do not.  At rest the count is the length of the list, whatever was entered for it; and
where the list keeps its own bounds, its length is within those of the count, and too small for
rounding to change it.

* `get_deliverables_of_sanitize` and `get_deliverablesCount_of_sanitize` say what is in the two
  answers;
* `run?_items_eq_none_iff` says when nothing is said of a list of texts with bounds on its items,
  and `run?_count_eq_none` that nothing is said of a count that is within its bounds;
* `deliverables_counted` is the conclusion.
-/

namespace Intake

/-! ## The two fields in the task form -/

/-- What the task form says of deliverables: they are a list that depends on no other answer, and of
one to eight items. -/
theorem exists_deliverables : ∃ d ∈ BuiltIn.taskForm.fields, d.name = "deliverables" ∧
    d.type = .multiSelect ∧ d.condition = none ∧ d.derivation = none ∧ d.cleaner = none ∧
      d.required = true ∧ d.rules = [.minItems 1, .maxItems 8] :=
  ⟨BuiltIn.taskFields[10], List.getElem_mem _, rfl, rfl, rfl, rfl, rfl, rfl, rfl⟩

/-- What it says of their count: it is derived from them, between one and a hundred, and no less
than they are. -/
theorem exists_deliverablesCount : ∃ d ∈ BuiltIn.taskForm.fields, d.name = "deliverablesCount" ∧
    d.type = .number ∧ d.condition = none ∧ d.derivation = some ⟨"deliverables"⟩ ∧
      ∃ identity message, d.rules = [.minValue (.int 1), .maxValue (.int 100),
        .own ⟨.test (.atLeastItemsOf (.text "deliverables")) identity, message⟩] :=
  ⟨BuiltIn.taskFields[11], List.getElem_mem _, rfl, rfl, rfl, rfl, _, _, rfl⟩

/-- In the task form fields read only the two answers that read none. -/
theorem acyclic_taskForm : Acyclic BuiltIn.taskForm.fields := by
  refine acyclic_of_rank (fun name => if name ∈ ["aiUsed", "deliverables"] then 0 else 1) ?_
  decide

/-- No field of the task form looks further than it reads. -/
theorem isLocal_taskForm (host : Host) : ∀ d ∈ BuiltIn.taskForm.fields, d.IsLocal host := by
  have hused : ∀ c ∈ some BuiltIn.aiWasUsed, c.clause.IsLocal host ∧
      ∀ second ∈ c.second, second.IsLocal host := by
    intro c hc
    cases hc
    exact ⟨Clause.isLocal_of_literal nofun, nofun⟩
  have hothers : ∀ c ∈ some BuiltIn.othersSelected, c.clause.IsLocal host ∧
      ∀ second ∈ c.second, second.IsLocal host := by
    intro c hc
    cases hc
    exact ⟨Clause.isLocal_of_predicate rfl, nofun⟩
  intro d hd
  rcases condition_taskForm d hd with hnone | hsome | hsome
  · intro c hc
    rw [hnone] at hc
    cases hc
  · exact fun c hc => hused c (hsome ▸ hc)
  · exact fun c hc => hothers c (hsome ▸ hc)

/-! ## What the two answers are -/

/-- Sanitized deliverables are a list of texts. -/
theorem get_deliverables_of_sanitize {host : Host} {raw s : Answers}
    (h : sanitize host BuiltIn.taskForm.fields raw = .ok s) :
    ∃ texts : List String, s.get "deliverables" = .list (texts.map .text) := by
  obtain ⟨d, hd, hname, htype, hcond, hderivation, hcleaner, -⟩ := exists_deliverables
  have hclean := Field.clean?_get_of_sanitize BuiltIn.taskForm.distinct hd hcond hderivation h
  have hkeeps : d.KeepsSort host := by
    intro f hf
    rw [hcleaner] at hf
    cases hf
  have hholds := Field.holds_of_clean? hkeeps hclean
  rw [htype, hname] at hholds
  obtain ⟨texts, htexts, -⟩ := hholds
  exact ⟨texts, htexts⟩

/-- The sanitized count is the number of deliverables, whatever was entered for it. -/
theorem get_deliverablesCount_of_sanitize {host : Host} {raw s : Answers}
    (h : sanitize host BuiltIn.taskForm.fields raw = .ok s) :
    s.get "deliverablesCount" = .int (s.get "deliverables").itemCount := by
  obtain ⟨d, hd, hname, -, -, hderivation, -⟩ := exists_deliverablesCount
  obtain ⟨cleaned, -, hreconcile⟩ := reconcile_of_sanitize h
  have hrest : d.AtRest host s := atRest_of_reconcile BuiltIn.taskForm.distinct hreconcile d hd
    (acyclic_taskForm.grounded (isLocal_taskForm host) d.name)
  have hcount := hrest.get_of_derivation hderivation
  rw [hname] at hcount
  exact hcount

/-! ## What the two checks say -/

section

variable {host : Host} {answers : Answers} {d : Field}

/-- A list of texts has as many items as there are texts. -/
theorem itemCount_texts (texts : List String) :
    (Value.list (texts.map .text)).itemCount = texts.length := by
  simp [Value.itemCount, Value.sequence?]

/-- **Nothing is said of a list** exactly if it has items, and no fewer and no more than it may. -/
theorem run?_items_eq_none_iff {low high : Int} (htype : d.type = .multiSelect)
    (hcond : d.condition = none) (hrequired : d.required = true)
    (hrules : d.rules = [.minItems low, .maxItems high]) {texts : List String} :
    d.check.run? host (.list (texts.map .text)) answers = .ok none ↔
      texts ≠ [] ∧ low ≤ texts.length ∧ texts.length ≤ high := by
  by_cases hempty : texts = []
  · have hsaid : d.check.run? host (.list []) answers = .ok (some Wording.required) :=
      Field.run?_of_required hrequired hcond rfl
    subst hempty
    rw [List.map_nil, hsaid]
    simp
  · have hfull : (Value.list (texts.map .text)).isEmpty = false := by
      simp [Value.isEmpty, hempty]
    have haccepts : d.type.accepts (.list (texts.map .text)) = true := by
      rw [htype]
      simp [FieldType.accepts, Value.isTextList, Value.sequence?]
    rw [Field.run?_of_accepts hcond hfull haccepts, firstBroken?_eq_none_iff, hrules]
    simp [Rule.obeyed, Rule.obeyed?, saidYes, itemCount_texts, hempty]

/-- **Nothing is said of a count** within its bounds that counts what it should. -/
theorem run?_count_eq_none {low high : Int} {source message : String} {identity : Identity}
    (htype : d.type = .number) (hcond : d.condition = none)
    (hrules : d.rules = [.minValue (.int low), .maxValue (.int high),
      .own ⟨.test (.atLeastItemsOf (.text source)) identity, message⟩])
    {n : Nat} (hcounts : (answers.get source).itemCount = n) (hlow : low ≤ n) (hhigh : n ≤ high)
    (hshort : n ≤ 2 ^ 53) : d.check.run? host (.int n) answers = .ok none := by
  have hrange : (Binary64.ofInt? n).isSome = true :=
    Binary64.isSome_ofInt? (by decide : 54 < 1024) (by omega)
  obtain ⟨x, hx⟩ := Option.isSome_iff_exists.mp hrange
  have hnearest : Binary64.nearest n = n := Binary64.nearest_of_natAbs_le (by omega)
  have hown : (Rule.own ⟨.test (.atLeastItemsOf (.text source)) identity, message⟩).obeyed host
      (.int n) answers = true := by
    have hcovers : RuleTest.coversCount (Value.amount? (.int n)) n = true := by
      have hequal : x.eqvInt n = true := by
        rw [Binary64.eqvInt, Binary64.compareInt?_of_ofInt? hx, hnearest]
        simp
      have hamount : Value.amount? (.int n) = some x := hx
      rw [RuleTest.coversCount, hamount, Option.any_some, hequal, Bool.or_true]
    have hread : answers.at? (.text source) = .ok (answers.get source) := rfl
    have hpasses : RuleTest.passes? (.int n) answers (.atLeastItemsOf (.text source)) =
        .ok true := by
      rw [RuleTest.passes?, hread, ← hcovers, ← hcounts]
      rfl
    simp only [Rule.obeyed, Rule.obeyed?, OwnRule.passes?, Callable.decide?, hpasses]
    rfl
  have haccepts : d.type.accepts (.int n) = true := by
    rw [htype]
    exact hrange
  rw [Field.run?_of_accepts hcond rfl haccepts, firstBroken?_eq_none_iff, hrules]
  intro r hr
  simp only [List.mem_cons, List.not_mem_nil, or_false] at hr
  rcases hr with rfl | rfl | rfl
  · rw [Rule.obeyed, Rule.obeyed?_minValue_integer hx, hnearest]
    simpa [saidYes] using hlow
  · rw [Rule.obeyed, Rule.obeyed?_maxValue_integer hx, hnearest]
    simpa [saidYes] using hhigh
  · exact hown

end

/-- **The count of deliverables adds no error.**  In the sanitized answers of the task form,
whatever was entered, the count is the length of the list.  Something is said of the list exactly
if it is empty or has more than eight items, and something is said of the count only then. -/
theorem deliverables_counted {host : Host} {raw s : Answers}
    (h : sanitize host BuiltIn.taskForm.fields raw = .ok s) :
    ∃ items, s.get "deliverables" = .list items ∧
      s.get "deliverablesCount" = .int items.length ∧
      ∃ schema report, Schema.compile BuiltIn.taskForm.fields = .ok schema ∧
        schema.check? host s = .ok report ∧
        (report.messageFor? "deliverables" ≠ none ↔ items = [] ∨ 8 < items.length) ∧
        (report.messageFor? "deliverablesCount" ≠ none →
          report.messageFor? "deliverables" ≠ none) := by
  obtain ⟨texts, htexts⟩ := get_deliverables_of_sanitize h
  have hcount := get_deliverablesCount_of_sanitize h
  rw [htexts, itemCount_texts] at hcount
  refine ⟨texts.map .text, htexts, by rw [hcount, List.length_map], ?_⟩
  obtain ⟨schema, hschema⟩ := exists_schema_taskForm
  obtain ⟨report, hreport⟩ := Schema.exists_check? hschema (isSteady_taskForm host) s
  obtain ⟨d, hd, hname, htype, hcond, -, -, hrequired, hrules⟩ := exists_deliverables
  obtain ⟨e, he, hname', htype', hcond', -, identity, message, hrules'⟩ := exists_deliverablesCount
  have hlist : report.messageFor? "deliverables" = none ↔
      texts ≠ [] ∧ (1 : Int) ≤ texts.length ∧ (texts.length : Int) ≤ 8 := by
    have hrun := Schema.run?_eq_messageFor? hschema hd hreport
    rw [hname, htexts] at hrun
    rw [← run?_items_eq_none_iff htype hcond hrequired hrules, hrun, Except.ok.injEq]
  refine ⟨schema, report, hschema, hreport, ?_, ?_⟩
  · rw [ne_eq, hlist, List.map_eq_nil_iff, List.length_map]
    by_cases hempty : texts = []
    · simp [hempty]
    · have hsome : 0 < texts.length := List.length_pos_iff.mpr hempty
      simp only [ne_eq, hempty, not_false_eq_true, true_and, false_or]
      omega
  · intro hsaid hnone
    obtain ⟨-, hleast, hmost⟩ := hlist.mp hnone
    have hrun := Schema.run?_eq_messageFor? hschema he hreport
    rw [hname', hcount, run?_count_eq_none htype' hcond' hrules'
      (by rw [htexts, itemCount_texts]) hleast (by omega) (by omega)] at hrun
    exact hsaid (Except.ok.inj hrun).symm

/-- Two deliverables, and a count that is not theirs. -/
def miscounted : Answers :=
  .ofEntries [("deliverables", .list [.text " slides", .text "demo"]),
    ("deliverablesCount", .text "7")]

/-- They are counted, and nothing is said of the count. -/
theorem deliverables_of_miscounted :
    ∃ s schema report, sanitize Host.none BuiltIn.taskForm.fields miscounted = .ok s ∧
      s.get "deliverables" = .list [.text "slides", .text "demo"] ∧
      s.get "deliverablesCount" = .int 2 ∧
      Schema.compile BuiltIn.taskForm.fields = .ok schema ∧
      schema.check? Host.none s = .ok report ∧
      report.messageFor? "deliverablesCount" = none := by
  obtain ⟨s, hs⟩ : ∃ s, sanitize Host.none BuiltIn.taskForm.fields miscounted = .ok s := by
    refine exists_sanitize_taskForm Host.none fun d _ => ?_
    intro hlong
    have hread : miscounted.get d.name = (Answers.lookup d.name
        [("deliverables", .list [.text " slides", .text "demo"]),
          ("deliverablesCount", .text "7")]).getD .null := rfl
    rw [hread, Answers.lookup, Answers.lookup, Answers.lookup] at hlong
    split at hlong
    · cases hlong with
      | list hv hitem =>
        simp only [List.mem_cons, List.not_mem_nil, or_false] at hv
        rcases hv with rfl | rfl
        · cases hitem
        · cases hitem
    · split at hlong
      · cases hlong
      · cases hlong
  have hclean : (BuiltIn.taskFields[10]).clean? Host.none (miscounted.get "deliverables") =
      .ok (s.get "deliverables") :=
    Field.clean?_get_of_sanitize BuiltIn.taskForm.distinct (List.getElem_mem _) rfl rfl hs
  have hlist : s.get "deliverables" = .list [.text "slides", .text "demo"] :=
    (Except.ok.inj hclean).symm
  obtain ⟨items, hitems, hcount, schema, report, hschema, hreport, hsaid, hadds⟩ :=
    deliverables_counted hs
  rw [hlist] at hitems
  cases hitems
  refine ⟨s, schema, report, hs, hlist, hcount, hschema, hreport, ?_⟩
  by_contra hwrong
  exact absurd (hsaid.mp (hadds hwrong)) (by decide)

end Intake
