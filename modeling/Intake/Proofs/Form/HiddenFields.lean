import Intake.Proofs.Form.Convergence
import Intake.Proofs.Form.Lint
import Mathlib

/-!
# What hidden fields hold

A field whose condition does not hold is hidden, and should hold nothing that the person who
fills in the form cannot see.  At rest it holds the empty value of its sort, with two reservations,
each shown by a form that a strict lint accepts:

* a field that is derived is a count, hidden or not;
* fields whose conditions go round in a circle may never come to rest, and then the passes stop
  at a point where a hidden field is still filled.

`emptyValue_of_hidden` says that there are no others.
-/

namespace Intake

variable {host : Host} {fields : List Field}

/-- A hidden field at rest that is not derived holds the empty value of its sort. -/
theorem Field.AtRest.get_of_hidden {d : Field} {a : Answers} (hrest : d.AtRest host a)
    (hderivation : d.derivation = none) (hhidden : d.isShown host a = false) :
    a.get d.name = d.type.emptyValue := by
  obtain ⟨o, ho, hsame⟩ := hrest
  obtain rfl := (settled?_eq_ok_iff.mp ho).eq_of_hidden hderivation hhidden
  exact ((d.type.isExact_emptyValue.left _).mp (hsame _ rfl)).symm

/-- A derived field at rest holds the number of items of its source. -/
theorem Field.AtRest.get_of_derivation {d : Field} {a : Answers} (hrest : d.AtRest host a)
    {derivation : Derivation} (hderivation : d.derivation = some derivation) :
    a.get d.name = .int (a.get derivation.source).itemCount := by
  obtain ⟨o, ho, hsame⟩ := hrest
  have hcount : d.Settlement host a (some (.int (a.get derivation.source).itemCount)) :=
    .counted hderivation
  cases ho.symm.trans (settled?_eq_ok_iff.mpr hcount)
  exact (((Value.isExact_int _).left _).mp (hsame _ rfl)).symm

/-- Sanitized answers are cleaned answers, reconciled. -/
theorem reconcile_of_sanitize {raw s : Answers} (h : sanitize host fields raw = .ok s) :
    ∃ cleaned, cleanAll host raw fields = .ok cleaned ∧
      reconcile host fields cleaned = .ok s :=
  exists_of_bind_eq_ok h

/-- **No hidden value is left.**  In the sanitized answers of a form that a strict lint accepts,
a hidden field holds the empty value of its sort, or the count that it is derived by, unless its
condition hangs on a circle or on a function of the host, and one more pass would still change
the answers. -/
theorem emptyValue_of_hidden {problems : List LintProblem}
    (hlint : checkFields true fields = .ok problems) {raw s : Answers}
    (hsanitize : sanitize host fields raw = .ok s) {d : Field} (hd : d ∈ fields)
    (hrest : Grounded host fields d.name ∨ settlePass host s fields = .ok (s, false))
    (hhidden : d.isShown host s = false) :
    (d.derivation = none → s.get d.name = d.type.emptyValue) ∧
      ∀ derivation, d.derivation = some derivation →
        s.get d.name = .int (s.get derivation.source).itemCount := by
  have hnames := (lint_eq_nil_iff.mp (lint_eq_nil_of_checkFields hlint)).1
  obtain ⟨cleaned, -, hreconcile⟩ := reconcile_of_sanitize hsanitize
  have hown : d.AtRest host s := by
    rcases hrest with hgrounded | hpass
    · exact atRest_of_reconcile hnames hreconcile d hd hgrounded
    · exact (settlePass_false hpass).2 d hd
  exact ⟨fun hnone => hown.get_of_hidden hnone hhidden,
    fun _ hsome => hown.get_of_derivation hsome⟩

/-- In the form listed backwards, a list that is entered while its box is not ticked goes. -/
theorem items_of_backwardForm :
    ∃ s, sanitize Host.none backwardForm
        (Answers.ofEntries [("items", .list [.text "a"])]) = .ok s ∧
      s.get "items" = .list [] := by
  have hlint : checkFields true backwardForm = .ok [] := by rfl
  have hsanitize : sanitize Host.none backwardForm
      (Answers.ofEntries [("items", .list [.text "a"])]) =
        .ok (Answers.ofEntries [("remark", .text "none"), ("count", .int 0), ("items", .list []),
          ("listed", .bool false)]) := by cbv
  have hgrounded : ∀ name, Grounded Host.none backwardForm name :=
    acyclic_backwardForm.grounded isLocal_backwardForm
  exact ⟨_, hsanitize, (emptyValue_of_hidden hlint hsanitize (.tail _ (.tail _ (.head _)))
    (.inl (hgrounded _)) (by rfl)).1 rfl⟩

/-- A form with a count that is asked for while a box is ticked. -/
def hiddenCountForm : List Field :=
  [{ name := "items", type := .multiSelect },
   { name := "flag", type := .checkbox },
   { name := "count", type := .number, derivation := some ⟨"items"⟩,
     condition := some ⟨⟨"flag", .bool true⟩, false, none⟩ }]

/-- A form with two boxes, each asked for while the other has the right answer: the first while
the second is not ticked, the second while the first is. -/
def circularForm : List Field :=
  [{ name := "first", type := .checkbox, fallback := .bool true,
     condition := some ⟨⟨"second", .bool false⟩, false, none⟩ },
   { name := "second", type := .checkbox, fallback := .bool true,
     condition := some ⟨⟨"first", .bool true⟩, false, none⟩ }]

/-- Both reservations are needed: a strict lint accepts a form in which a hidden count is left,
and one in which, going round in a circle, a hidden box is left ticked. -/
theorem hidden_value_left :
    (checkFields true hiddenCountForm = .ok [] ∧
      ∃ s, sanitize Host.none hiddenCountForm
          (Answers.ofEntries [("items", .list [.text "a"])]) = .ok s ∧
        ∃ d ∈ hiddenCountForm, d.condition.isSome = true ∧ d.isShown Host.none s = false ∧
          s.get d.name = .int 1 ∧ d.type.emptyValue = .int 0) ∧
    (checkFields true circularForm = .ok [] ∧
      ∃ s, sanitize Host.none circularForm Answers.empty = .ok s ∧
        ∃ d ∈ circularForm, d.condition.isSome = true ∧ d.derivation = none ∧
          d.isShown Host.none s = false ∧ s.get d.name = .bool true ∧
          d.type.emptyValue = .bool false) := by
  refine ⟨⟨by rfl, Answers.ofEntries [("items", .list [.text "a"]), ("flag", .bool false),
      ("count", .int 1)], by cbv, ?_⟩,
    ⟨by rfl, Answers.ofEntries [("first", .bool true), ("second", .bool true)], by rfl, ?_⟩⟩
  · exact ⟨_, .tail _ (.tail _ (.head _)), rfl, by rfl, rfl, rfl⟩
  · exact ⟨_, .head _, rfl, rfl, by rfl, rfl, rfl⟩

end Intake
