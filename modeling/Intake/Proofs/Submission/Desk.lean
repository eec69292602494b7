import Intake.Proofs.Fault
import Intake.Submission.Basic
import Mathlib.Data.List.Chain

/-!
# What a desk can do

A desk takes one step at a time: it is given answers, it takes a reply, or it is made idle.  This
module says once what each of these can come to, and what all of them keep: the course of the desk
starts idle and goes from stage to stage as `Stage.next` has it.

A step that begins at a desk that is ready, or that ends with a reply, leaves the desk ready, or
sending.  Where a fault without wording comes up it does not: the desk **hangs** then, in the middle
of its course.

* `Desk.handling_submit` has one case for each way in which answers are handled;
* `Desk.submit_of_isReady` says that a desk handles answers as a new one would, once it is ready;
* `Office.HangsOn` and `Reply.Hangs` say what a desk hangs on, and `Desk.landing_submit` and
  `Desk.isReady_settle` where it stands otherwise;
* `Desk.IsOrderly` is what the steps keep.
-/

namespace Intake

/-- The stages to which a stage can lead.  A desk that failed goes nowhere: it is made idle before
answers are taken in again, and that starts a new course. -/
def Stage.next : Stage → List Stage
  | .idle => [.cleaning]
  | .cleaning => [.checking, .failed]
  | .checking => [.sending, .failed]
  | .sending => [.sent, .failed]
  | .sent => [.idle]
  | .failed => []

theorem Stage.isReady_iff {stage : Stage} :
    stage.isReady = true ↔ stage = .idle ∨ stage = .failed := by
  cases stage <;> decide

/-! ## What a desk hangs on -/

/-- What stopped a submission **is worded** if its wording can be had. -/
def SubmissionError.IsWorded (e : SubmissionError) : Prop := ∃ text, e.wording? = .ok text

/-- An error without wording gives way to a fault. -/
theorem SubmissionError.not_isWorded_iff {e : SubmissionError} :
    ¬ e.IsWorded ↔ ∃ worse, e.wording? = .error worse := by
  cases e with
  | busy stage => exact iff_of_false (fun h => h ⟨_, rfl⟩) nofun
  | fault f => exact Fault.not_isWorded_iff

/-- An office **hangs on** answers if a fault without wording comes up when they are cleaned or
checked. -/
inductive Office.HangsOn (office : Office) (raw : Answers) : Prop where
  | cleaning {f : Fault} (hclean : sanitize office.host office.fields raw = .error f)
      (hmute : ¬ f.IsWorded)
  | checking {payload : Answers} {f : Fault}
      (hclean : sanitize office.host office.fields raw = .ok payload)
      (hcheck : office.fieldErrors? payload = .error f) (hmute : ¬ f.IsWorded)

/-- An office does not hang on answers that can be cleaned and checked. -/
theorem Office.not_hangsOn {office : Office} {raw payload : Answers}
    {errors : List (String × String)}
    (hclean : sanitize office.host office.fields raw = .ok payload)
    (hcheck : office.fieldErrors? payload = .ok errors) : ¬ office.HangsOn raw := by
  rintro (⟨hclean', -⟩ | ⟨hclean', hcheck', -⟩)
  · cases hclean.symm.trans hclean'
  · cases hclean.symm.trans hclean'
    cases hcheck.symm.trans hcheck'

/-- A reply makes a desk **hang** if it is a failure without wording. -/
def Reply.Hangs : Reply → Prop
  | .failed e => ¬ e.IsWorded
  | _ => False

namespace Desk

variable {office : Office} {raw : Answers} {d : Desk}

/-! ## Courses -/

@[simp] theorem stage_enter (stage : Stage) (d : Desk) : (d.enter stage).stage = stage := rfl

@[simp] theorem course_enter (stage : Stage) (d : Desk) :
    (d.enter stage).course = d.course ++ [stage] := rfl

/-- The last stage of the course is where the desk is. -/
@[simp] theorem getLast?_course (d : Desk) : d.course.getLast? = some d.stage := by
  simp [course]

theorem course_ne_nil (d : Desk) : d.course ≠ [] := by
  simp [course]

/-- The course starts idle, and every stage of it leads to the one after it. -/
structure IsOrderly (d : Desk) : Prop where
  starts : d.course.head? = some .idle
  follows : d.course.IsChain fun before after => after ∈ before.next

theorem isOrderly_fresh : fresh.IsOrderly := ⟨rfl, .singleton _⟩

/-- A desk stays orderly if it goes where its stage leads. -/
theorem IsOrderly.enter (h : d.IsOrderly) {stage : Stage} (hnext : stage ∈ d.stage.next) :
    (d.enter stage).IsOrderly where
  starts := by
    rw [course_enter, List.head?_append, h.starts]
    rfl
  follows := by
    rw [course_enter, List.isChain_append]
    refine ⟨h.follows, .singleton _, fun before hbefore after hafter => ?_⟩
    rw [getLast?_course, Option.mem_some_iff] at hbefore
    rw [List.head?_singleton, Option.mem_some_iff] at hafter
    exact hbefore ▸ hafter ▸ hnext

/-- The error that comes up in a stage leaves no trace in the course but the failure. -/
theorem IsOrderly.fail (h : d.IsOrderly) (e : SubmissionError) (hnext : .failed ∈ d.stage.next) :
    (d.fail e).IsOrderly :=
  (IsOrderly.mk h.starts h.follows : IsOrderly { d with lastError := some e }).enter hnext

theorem isOrderly_cleaning : (fresh.enter .cleaning).IsOrderly :=
  isOrderly_fresh.enter (by decide)

theorem isOrderly_checking : ((fresh.enter .cleaning).enter .checking).IsOrderly :=
  isOrderly_cleaning.enter (by decide)

/-! ## Submitting -/

/-- A fault that is worded makes the desk fail. -/
theorem abort_of_isWorded {f : Fault} (h : f.IsWorded) :
    d.abort f = (d.fail (.fault f), .refused (.fault f)) := by
  obtain ⟨text, htext⟩ := h
  rw [abort, htext]

/-- A fault that is not worded leaves the desk where it is. -/
theorem abort_of_not_isWorded {f : Fault} (h : ¬ f.IsWorded) :
    ∃ worse, f.wording? = .error worse ∧ d.abort f = (d, .refused (.fault worse)) := by
  obtain ⟨worse, hworse⟩ := Fault.not_isWorded_iff.mp h
  exact ⟨worse, hworse, by rw [abort, hworse]⟩

/-- However a submission is ended, it is refused because of a fault. -/
theorem exists_refused_of_abort (f : Fault) (d : Desk) :
    ∃ e, (d.abort f).2 = .refused (.fault e) := by
  unfold abort
  split <;> exact ⟨_, rfl⟩

theorem IsOrderly.abort (h : d.IsOrderly) (f : Fault) (hnext : .failed ∈ d.stage.next) :
    (d.abort f).1.IsOrderly := by
  unfold Desk.abort
  split
  · exact h.fail _ hnext
  · exact h

/-- How a desk that is ready handles answers: they cannot be cleaned, they cannot be checked, they
are rejected, or they pass and are handed over. -/
inductive Handling (office : Office) (raw : Answers) : Desk × Reception → Prop where
  | uncleaned {f : Fault} (hclean : sanitize office.host office.fields raw = .error f) :
      Handling office raw ((fresh.enter .cleaning).abort f)
  | unchecked {payload : Answers} {f : Fault}
      (hclean : sanitize office.host office.fields raw = .ok payload)
      (hcheck : office.fieldErrors? payload = .error f) :
      Handling office raw (((fresh.enter .cleaning).enter .checking).abort f)
  | rejected {payload : Answers} {errors : List (String × String)}
      (hclean : sanitize office.host office.fields raw = .ok payload)
      (hcheck : office.fieldErrors? payload = .ok errors) (hsome : errors ≠ []) :
      Handling office raw
        (((fresh.enter .cleaning).enter .checking).enter .failed,
          .settled (.rejected payload errors))
  | handedOver {payload : Answers}
      (hclean : sanitize office.host office.fields raw = .ok payload)
      (hcheck : office.fieldErrors? payload = .ok []) :
      Handling office raw
        (((fresh.enter .cleaning).enter .checking).enter .sending, .handedOver payload)

/-- A desk that is not ready refuses answers, and stays as it is. -/
theorem submit_of_not_isReady (h : d.stage.isReady = false) :
    d.submit office raw = (d, .refused (.busy d.stage)) := by
  simp [submit, h]

/-- A desk that is ready handles answers as if nothing had come to it before. -/
theorem submit_of_isReady (h : d.stage.isReady = true) :
    d.submit office raw = fresh.submit office raw := by
  have hfresh : fresh.stage.isReady = true := rfl
  simp [submit, h, hfresh]

/-- There is no other way to handle answers. -/
theorem handling_submit (office : Office) (raw : Answers) (h : d.stage.isReady = true) :
    Handling office raw (d.submit office raw) := by
  unfold submit
  simp only [h, Bool.not_true, Bool.false_eq_true, if_false]
  cases hclean : sanitize office.host office.fields raw with
  | error f => exact Handling.uncleaned hclean
  | ok payload =>
    dsimp only
    cases hcheck : office.fieldErrors? payload with
    | error f => exact Handling.unchecked hclean hcheck
    | ok errors =>
      cases errors with
      | nil => exact .handedOver hclean hcheck
      | cons e errors => exact .rejected hclean hcheck nofun

/-- What a desk hands over are the clean answers, and they have no message for any field. -/
theorem of_handedOver {payload : Answers}
    (h : (d.submit office raw).2 = .handedOver payload) :
    sanitize office.host office.fields raw = .ok payload ∧
      office.fieldErrors? payload = .ok [] := by
  have hrefused : ∀ {f : Fault} {d : Desk}, (d.abort f).2 ≠ .handedOver payload := by
    intro f d hover
    obtain ⟨e, he⟩ := exists_refused_of_abort f d
    cases he.symm.trans hover
  cases hready : d.stage.isReady with
  | false =>
    rw [submit_of_not_isReady hready] at h
    cases h
  | true =>
    have hhandling := handling_submit office raw hready
    generalize d.submit office raw = handled at h hhandling
    cases hhandling with
    | uncleaned => exact absurd h hrefused
    | unchecked => exact absurd h hrefused
    | rejected => cases h
    | handedOver hclean hcheck =>
      cases h
      exact ⟨hclean, hcheck⟩

/-- A desk that is ready hands over all answers that can be cleaned and have no message for any
field. -/
theorem handedOver_of_isReady (h : d.stage.isReady = true) {payload : Answers}
    (hclean : sanitize office.host office.fields raw = .ok payload)
    (hcheck : office.fieldErrors? payload = .ok []) :
    (d.submit office raw).2 = .handedOver payload := by
  simp [submit, h, hclean, hcheck]

/-- A desk that is ready rejects answers that can be cleaned and have a message for some field. -/
theorem rejected_of_isReady (h : d.stage.isReady = true) {payload : Answers}
    {errors : List (String × String)}
    (hclean : sanitize office.host office.fields raw = .ok payload)
    (hcheck : office.fieldErrors? payload = .ok errors) (hsome : errors ≠ []) :
    (d.submit office raw).2 = .settled (.rejected payload errors) := by
  obtain ⟨e, rest, rfl⟩ := List.exists_cons_of_ne_nil hsome
  simp [submit, h, hclean, hcheck]

/-- A desk that is ready does not say that it is busy. -/
theorem submit_ne_busy (h : d.stage.isReady = true) (stage : Stage) :
    (d.submit office raw).2 ≠ .refused (.busy stage) := by
  have hfault : ∀ (f : Fault) (d : Desk), (d.abort f).2 ≠ .refused (.busy stage) := by
    intro f d hbusy
    obtain ⟨e, he⟩ := exists_refused_of_abort f d
    cases he.symm.trans hbusy
  have hhandling := handling_submit office raw h
  generalize d.submit office raw = handled at hhandling
  cases hhandling with
  | uncleaned => exact hfault _ _
  | unchecked => exact hfault _ _
  | _ => exact nofun

/-- Where a desk stands that was ready when answers came: it is sending, having handed them over; it
is ready again, in the stage of a failure; or it hangs on them where they were cleaned or checked.
-/
inductive Landing (office : Office) (raw : Answers) : Desk × Reception → Prop where
  | sending {after : Desk} {payload : Answers} (hstage : after.stage = .sending) :
      Landing office raw (after, .handedOver payload)
  | failed {after : Desk} {reception : Reception} (hstage : after.stage = .failed)
      (hover : ∀ payload, reception ≠ .handedOver payload) (hworded : ¬ office.HangsOn raw) :
      Landing office raw (after, reception)
  | hanging {after : Desk} {e : Fault} (hstage : after.stage = .cleaning ∨ after.stage = .checking)
      (hhangs : office.HangsOn raw) : Landing office raw (after, .refused (.fault e))

/-- There is nowhere else for it to stand. -/
theorem landing_submit (office : Office) (raw : Answers) (h : d.stage.isReady = true) :
    Landing office raw (d.submit office raw) := by
  have hhandling := handling_submit office raw h
  generalize d.submit office raw = handled at hhandling
  cases hhandling with
  | @uncleaned f hclean =>
    by_cases hworded : f.IsWorded
    · rw [abort_of_isWorded hworded]
      refine .failed rfl nofun ?_
      rintro (⟨hclean', hmute⟩ | ⟨hclean', -, -⟩)
      · cases hclean.symm.trans hclean'
        exact hmute hworded
      · cases hclean.symm.trans hclean'
    · obtain ⟨worse, -, habort⟩ := abort_of_not_isWorded hworded
      rw [habort]
      exact .hanging (.inl rfl) (.cleaning hclean hworded)
  | @unchecked payload f hclean hcheck =>
    by_cases hworded : f.IsWorded
    · rw [abort_of_isWorded hworded]
      refine .failed rfl nofun ?_
      rintro (⟨hclean', -⟩ | ⟨hclean', hcheck', hmute⟩)
      · cases hclean.symm.trans hclean'
      · cases hclean.symm.trans hclean'
        cases hcheck.symm.trans hcheck'
        exact hmute hworded
    · obtain ⟨worse, -, habort⟩ := abort_of_not_isWorded hworded
      rw [habort]
      exact .hanging (.inr rfl) (.checking hclean hcheck hworded)
  | rejected hclean hcheck => exact .failed rfl nofun (Office.not_hangsOn hclean hcheck)
  | handedOver => exact .sending rfl

/-- A desk that was ready and hands nothing over has failed, unless it hangs on the answers. -/
theorem failed_of_not_handedOver (h : d.stage.isReady = true) (hworded : ¬ office.HangsOn raw)
    (hkept : ∀ payload, (d.submit office raw).2 ≠ .handedOver payload) :
    (d.submit office raw).1.stage = .failed := by
  have hlanding := landing_submit office raw h
  generalize d.submit office raw = landed at hkept hlanding
  cases hlanding with
  | sending => exact absurd rfl (hkept _)
  | failed hstage => exact hstage
  | hanging _ hhangs => exact absurd hhangs hworded

/-- However answers are handled, the desk goes where its stages lead: a ready desk starts a new
course, and another one stays. -/
theorem IsOrderly.submit (h : d.IsOrderly) : (d.submit office raw).1.IsOrderly := by
  cases hready : d.stage.isReady with
  | false => rwa [submit_of_not_isReady hready]
  | true =>
    have hhandling := handling_submit office raw hready
    generalize d.submit office raw = handled at hhandling
    cases hhandling with
    | uncleaned => exact isOrderly_cleaning.abort _ (by decide)
    | unchecked => exact isOrderly_checking.abort _ (by decide)
    | rejected => exact isOrderly_checking.enter (by decide)
    | handedOver => exact isOrderly_checking.enter (by decide)

/-! ## Taking a reply -/

/-- A reply without wording changes nothing. -/
theorem settle_of_hangs {reply : Reply} (hhangs : reply.Hangs) (payload : Answers) :
    d.settle office payload reply = (d, none) := by
  unfold settle
  split
  · rfl
  · cases reply with
    | failed e =>
      obtain ⟨worse, hworse⟩ := SubmissionError.not_isWorded_iff.mp hhangs
      dsimp only
      rw [hworse]
    | returned result => exact hhangs.elim
    | calledOff => exact hhangs.elim

/-- A failure that is worded is an outcome. -/
theorem settle_of_isWorded (h : d.stage = .sending) {e : SubmissionError} (hworded : e.IsWorded)
    (payload : Answers) : d.settle office payload (.failed e) =
      (d.fail e, some (.undelivered payload office.settings.failureMessage)) := by
  obtain ⟨text, htext⟩ := hworded
  simp [settle, h, htext]

/-- Every other reply makes a desk ready that was sending. -/
theorem isReady_settle (h : d.stage = .sending) (payload : Answers) {reply : Reply}
    (hworded : ¬ reply.Hangs) : (d.settle office payload reply).1.stage.isReady = true := by
  cases reply with
  | failed e =>
    rw [settle_of_isWorded h (not_not.mp hworded)]
    rfl
  | returned result => simp [settle, h]; rfl
  | calledOff => simp [settle, h]; rfl

theorem IsOrderly.settle (h : d.IsOrderly) (payload : Answers) (reply : Reply) :
    (d.settle office payload reply).1.IsOrderly := by
  by_cases hsending : d.stage = .sending
  · cases reply with
    | returned result =>
      -- two steps at once: the desk has sent the answers, and is idle again
      have hsent : (d.enter .sent).IsOrderly := h.enter (by rw [hsending]; decide)
      have hidle : ((d.enter .sent).enter .idle).IsOrderly :=
        hsent.enter (by rw [stage_enter]; decide)
      simpa [Desk.settle, hsending] using hidle
    | failed e =>
      by_cases hworded : e.IsWorded
      · rw [settle_of_isWorded hsending hworded]
        exact h.fail e (by rw [hsending]; decide)
      · have hhangs : (Reply.failed e).Hangs := hworded
        rwa [settle_of_hangs hhangs]
    | calledOff =>
      have hfailed : (d.enter .failed).IsOrderly := h.enter (by rw [hsending]; decide)
      simpa [Desk.settle, hsending] using hfailed
  · simpa [Desk.settle, hsending] using h

/-! ## Making it idle -/

theorem reset_of_sending (h : d.stage = .sending) : d.reset = .error (.busy .sending) := by
  simp [reset, h]

/-- A desk that is not sending can be made a new one. -/
theorem reset_of_ne_sending (h : d.stage ≠ .sending) : d.reset = .ok fresh := by
  simp [reset, h]

end Desk

end Intake
