import Intake.Proofs.Schema.Recency
import Intake.Proofs.Submission.Session

/-!
# Trying again

A submission can end in five ways: the answers cannot be cleaned or checked, they are rejected, they
cannot be delivered, the receiver is called off, or it returns.  Each leaves other things behind in
the course of the desk and in its last error.  None of them matters: a desk is ready after every
attempt, and a ready desk handles answers as a new one would, so the next attempt comes out as if it
were the first.

The exception is an attempt that hangs the desk: the desk is not ready after it, and the next
attempt is stopped.

* `Desk.AttemptEnds` has one case for each way in which an attempt can end;
* `Desk.isReady_after` and `Desk.isReady_afterAll` say that desks are ready between attempts, unless
  one hung them, and `Desk.attempt_of_hangs` what comes of that;
* `Office.WorksLike.attempt_eq` says on what of an office attempts depend;
* `retry_like_first` is the conclusion, and `retry_stopped` shows the exception.
-/

namespace Intake

/-- What is done with a desk while no submission is under way. -/
inductive Visit where
  | attempt (raw : Answers) (receive : Receiver)
  | reset

/-- A visit **hangs** a desk that is ready if the desk hangs on the answers, or they pass and it
hangs on the reply. -/
def Visit.Hangs (office : Office) : Visit → Prop
  | .attempt raw receive => office.HangsOn raw ∨
      ∃ payload, office.Passes raw payload ∧ (receive payload).2.Hangs
  | .reset => False

namespace Desk

/-- The desk after a visit. -/
def after (office : Office) (d : Desk) : Visit → Desk
  | .attempt raw receive => (d.attempt office raw receive).1
  | .reset =>
    match d.reset with
    | .ok d => d
    | .error _ => d

/-- A new desk after some visits, one after another. -/
def afterAll (office : Office) (visits : List Visit) : Desk := visits.foldl (after office) fresh

variable {office : Office} {raw : Answers} {receive : Receiver} {d : Desk}

/-- How an attempt ends at a desk that is ready: it is stopped by a fault, the answers are rejected
with a message for some field, or the receiver was called, and returned, failed in one of two ways,
or was called off. -/
inductive AttemptEnds (office : Office) (raw : Answers) (receive : Receiver) (d : Desk) :
    Desk × Ending → Prop where
  | stopped {after : Desk} {f : Fault}
      (hsubmit : d.submit office raw = (after, .refused (.fault f))) :
      AttemptEnds office raw receive d (after, .stopped (.fault f))
  | rejected {after : Desk} {payload : Answers} {errors : List (String × String)}
      (hsubmit : d.submit office raw = (after, .settled (.rejected payload errors)))
      (hsome : errors ≠ []) :
      AttemptEnds office raw receive d (after, .outcome (.rejected payload errors))
  | returned {sending : Desk} {payload left : Answers} {result : Value}
      (hsubmit : d.submit office raw = (sending, .handedOver payload))
      (hreply : receive payload = (left, .returned result)) :
      AttemptEnds office raw receive d
        ((sending.enter .sent).enter .idle, .outcome (.received left result))
  | undelivered {sending : Desk} {payload left : Answers} {e : SubmissionError}
      (hsubmit : d.submit office raw = (sending, .handedOver payload))
      (hreply : receive payload = (left, .failed e)) (hworded : e.IsWorded) :
      AttemptEnds office raw receive d
        (sending.fail e, .outcome (.undelivered left office.settings.failureMessage))
  | unsaid {sending : Desk} {payload left : Answers} {e : SubmissionError} {worse : Fault}
      (hsubmit : d.submit office raw = (sending, .handedOver payload))
      (hreply : receive payload = (left, .failed e)) (hworse : e.wording? = .error worse) :
      AttemptEnds office raw receive d (sending, .stopped (.fault worse))
  | calledOff {sending : Desk} {payload left : Answers}
      (hsubmit : d.submit office raw = (sending, .handedOver payload))
      (hreply : receive payload = (left, .calledOff)) :
      AttemptEnds office raw receive d (sending.enter .failed, .calledOff)

/-- There is no other way for it to end. -/
theorem attemptEnds_attempt (office : Office) (raw : Answers) (receive : Receiver)
    (h : d.stage.isReady = true) :
    AttemptEnds office raw receive d (d.attempt office raw receive) := by
  have hstopped : ∀ {f : Fault} {before : Desk}, d.submit office raw = before.abort f →
      AttemptEnds office raw receive d (d.attempt office raw receive) := by
    intro f before hsubmit
    obtain ⟨e, he⟩ := exists_refused_of_abort f before
    have hpair : d.submit office raw = ((before.abort f).1, .refused (.fault e)) := by
      rw [hsubmit, ← he]
    rw [attempt, hpair]
    exact .stopped hpair
  have hhandling := handling_submit office raw h
  generalize hsubmit : d.submit office raw = handled at hhandling
  cases hhandling with
  | uncleaned => exact hstopped hsubmit
  | unchecked => exact hstopped hsubmit
  | rejected _ _ hsome =>
    rw [attempt, hsubmit]
    exact .rejected hsubmit hsome
  | @handedOver payload =>
    rw [attempt, hsubmit]
    dsimp only
    cases hreply : receive payload with
    | mk left reply =>
      cases reply with
      | returned result => exact .returned hsubmit hreply
      | failed e =>
        dsimp only
        cases hwording : e.wording? with
        | ok text =>
          rw [settle_of_isWorded rfl ⟨text, hwording⟩]
          exact .undelivered hsubmit hreply ⟨text, hwording⟩
        | error worse =>
          have hhangs : (Reply.failed e).Hangs :=
            SubmissionError.not_isWorded_iff.mpr ⟨worse, hwording⟩
          rw [settle_of_hangs hhangs, Reply.worse?, hwording]
          exact .unsaid hsubmit hreply hwording
      | calledOff => exact .calledOff hsubmit hreply

/-! ## Between attempts -/

/-- A desk that is ready takes answers in like a new one, and so does everything that follows. -/
theorem attempt_of_isReady (h : d.stage.isReady = true) (raw : Answers) (receive : Receiver) :
    d.attempt office raw receive = fresh.attempt office raw receive := by
  rw [attempt, attempt, submit_of_isReady h]

/-- A desk that is not ready stops all attempts, and stays as it is. -/
theorem attempt_of_not_isReady (h : d.stage.isReady = false) (raw : Answers) (receive : Receiver) :
    d.attempt office raw receive = (d, .stopped (.busy d.stage)) := by
  rw [attempt, submit_of_not_isReady h]

/-- Where answers were handed over, the attempt hangs the desk just if the reply does. -/
theorem of_submit_handedOver (h : d.stage.isReady = true) {sending : Desk} {payload : Answers}
    (hsubmit : d.submit office raw = (sending, .handedOver payload)) :
    sending.stage = .sending ∧
      ((Visit.attempt raw receive).Hangs office ↔ (receive payload).2.Hangs) := by
  obtain ⟨hclean, hcheck⟩ := of_handedOver (congrArg Prod.snd hsubmit)
  have hpasses : office.Passes raw payload := Office.passes_iff.mpr ⟨hclean, hcheck⟩
  refine ⟨?_, fun hhangs => ?_, fun hhangs => .inr ⟨payload, hpasses, hhangs⟩⟩
  · obtain ⟨sending', hsubmit', hstage⟩ := hpasses.submit_eq h
    rw [hsubmit] at hsubmit'
    rw [(Prod.mk.inj hsubmit').1, hstage]
  · obtain hhangs | ⟨payload', hpasses', hhangs⟩ := hhangs
    · exact absurd hhangs (Office.not_hangsOn hclean hcheck)
    · cases hclean.symm.trans hpasses'.clean
      exact hhangs

/-- Where they were not, the desk is ready again just if it did not hang on them. -/
theorem isReady_iff_of_kept (h : d.stage.isReady = true) {after : Desk} {reception : Reception}
    (hsubmit : d.submit office raw = (after, reception))
    (hkept : ∀ payload, reception ≠ .handedOver payload) :
    after.stage.isReady = true ↔ ¬ (Visit.attempt raw receive).Hangs office := by
  have hhangs : (Visit.attempt raw receive).Hangs office ↔ office.HangsOn raw := by
    refine ⟨fun hhangs => hhangs.resolve_right ?_, .inl⟩
    rintro ⟨payload, hpasses, -⟩
    obtain ⟨sending, hpair, -⟩ := hpasses.submit_eq h
    exact hkept payload (congrArg Prod.snd (hsubmit.symm.trans hpair))
  have hlanding := landing_submit office raw h
  rw [hsubmit] at hlanding
  rw [hhangs]
  cases hlanding with
  | sending => exact absurd rfl (hkept _)
  | failed hstage _ hworded => exact iff_of_true (congrArg Stage.isReady hstage) hworded
  | hanging hstage hhangs =>
    refine iff_of_false ?_ (not_not.mpr hhangs)
    rcases hstage with hstage | hstage <;> rw [hstage] <;> exact Bool.false_ne_true

/-- **A desk is ready after an attempt** exactly if the attempt did not hang it. -/
theorem isReady_attempt_iff (h : d.stage.isReady = true) (raw : Answers) (receive : Receiver) :
    (d.attempt office raw receive).1.stage.isReady = true ↔
      ¬ (Visit.attempt raw receive).Hangs office := by
  have hends := attemptEnds_attempt office raw receive h
  generalize d.attempt office raw receive = ended at hends ⊢
  cases hends with
  | stopped hsubmit => exact isReady_iff_of_kept h hsubmit nofun
  | rejected hsubmit => exact isReady_iff_of_kept h hsubmit nofun
  | returned hsubmit hreply | calledOff hsubmit hreply =>
    rw [(of_submit_handedOver h hsubmit).2, hreply]
    exact iff_of_true rfl id
  | undelivered hsubmit hreply hworded =>
    rw [(of_submit_handedOver h hsubmit).2, hreply]
    exact iff_of_true rfl (not_not.mpr hworded)
  | @unsaid _ _ _ _ worse hsubmit hreply hworse =>
    rw [(of_submit_handedOver h hsubmit).2, hreply]
    have hstage := (@of_submit_handedOver office raw receive d h _ _ hsubmit).1
    rw [hstage]
    exact iff_of_false Bool.false_ne_true
      (not_not.mpr (SubmissionError.not_isWorded_iff.mpr ⟨worse, hworse⟩))

theorem isReady_after (h : d.stage.isReady = true) {visit : Visit} (hvisit : ¬ visit.Hangs office) :
    (d.after office visit).stage.isReady = true := by
  cases visit with
  | attempt raw receive => exact (isReady_attempt_iff h raw receive).mpr hvisit
  | reset =>
    have hreset : d.reset = .ok fresh := reset_of_ne_sending fun hsending => by
      rw [hsending] at h
      cases h
    rw [after, hreset]
    rfl

/-- **A desk is ready after every visit**, whatever the visits have come to, if none hung it. -/
theorem isReady_afterAll (office : Office) {visits : List Visit}
    (hvisits : ∀ visit ∈ visits, ¬ visit.Hangs office) :
    (afterAll office visits).stage.isReady = true :=
  List.foldlRecOn visits (after office) (motive := fun d => d.stage.isReady = true) rfl
    fun _ h visit hvisit => isReady_after h (hvisits visit hvisit)

/-- **A desk that hangs on a visit** stops the next attempt, which a new desk would not. -/
theorem attempt_of_hangs (h : d.stage.isReady = true) {visit : Visit} (hhangs : visit.Hangs office)
    (raw : Answers) (receive : Receiver) :
    ∃ stage, (d.after office visit).attempt office raw receive =
        (d.after office visit, .stopped (.busy stage)) ∧
      (fresh.attempt office raw receive).2 ≠ .stopped (.busy stage) := by
  have hbusy : (d.after office visit).stage.isReady = false := by
    cases visit with
    | attempt raw' receive' =>
      exact Bool.eq_false_of_not_eq_true ((isReady_attempt_iff h raw' receive').not_left.mpr hhangs)
    | reset => exact hhangs.elim
  refine ⟨_, attempt_of_not_isReady hbusy raw receive, ?_⟩
  have hends := attemptEnds_attempt office raw receive (show fresh.stage.isReady = true from rfl)
  generalize fresh.attempt office raw receive = ended at hends ⊢
  cases hends <;> exact nofun

end Desk

/-! ## Other offices -/

/-- Two offices **work alike** if they are for the same fields, with the same functions of the host
and the same settings, and their schemas check all answers alike. -/
structure Office.WorksLike (office other : Office) : Prop where
  host : office.host = other.host
  fields : office.fields = other.fields
  settings : office.settings = other.settings
  check : ∀ payload,
    office.schema.check? office.host payload = other.schema.check? office.host payload

/-- Attempts come out alike in offices that work alike. -/
theorem Office.WorksLike.attempt_eq {office other : Office} (h : office.WorksLike other)
    (raw : Answers) (receive : Receiver) (d : Desk) :
    d.attempt office raw receive = d.attempt other raw receive := by
  obtain ⟨host, fields, schema, settings⟩ := office
  obtain ⟨host', fields', schema', settings'⟩ := other
  obtain ⟨rfl, rfl, rfl, hcheck⟩ := h
  have herrors : ∀ payload, Office.fieldErrors? ⟨host, fields, schema, settings⟩ payload =
      Office.fieldErrors? ⟨host, fields, schema', settings⟩ payload := by
    intro payload
    rw [Office.fieldErrors?, Office.fieldErrors?, show schema.check? host payload = _ from
      hcheck payload]
  simp only [Desk.attempt, Desk.submit, herrors]
  rfl

/-- Offices that were readied with caches of their own work alike, if each cache told the fields
apart from all others that it was asked for. -/
theorem Office.worksLike_of_of? {host : Host} {fields : List Field} {settings : Settings}
    {limit limit' : Nat} {calls calls' : List CacheCall} {office office' : Office}
    {problems problems' : List LintProblem} {cache cache' : SchemaCache}
    (hcalls : ∀ earlier, .get earlier ∈ calls → ToldApart earlier fields)
    (hcalls' : ∀ earlier, .get earlier ∈ calls' → ToldApart earlier fields)
    (h : Office.of? host settings ((SchemaCache.empty limit).run calls) fields =
      (.ok (office, problems), cache))
    (h' : Office.of? host settings ((SchemaCache.empty limit').run calls') fields =
      (.ok (office', problems'), cache')) : office.WorksLike office' := by
  obtain ⟨hnames, e, he, heq⟩ := Office.of_of? h
  obtain ⟨-, e', -, heq'⟩ := Office.of_of? h'
  obtain ⟨s, hs⟩ := SchemaCache.exists_compile_of_get hnames he
  obtain ⟨hhost, hfields, hcheck⟩ := Office.check?_of_of? hs hcalls h
  obtain ⟨hhost', hfields', hcheck'⟩ := Office.check?_of_of? hs hcalls' h'
  refine ⟨hhost.trans hhost'.symm, hfields.trans hfields'.symm, by rw [heq, heq'], ?_⟩
  intro payload
  rw [hhost, hcheck, hcheck']

/-- An office that is readied again, with the cache as the first time left it, is the same. -/
theorem Office.of?_again {host : Host} {fields : List Field} {settings : Settings}
    {cache after : SchemaCache} {office : Office} {problems : List LintProblem}
    (hlimit : 1 ≤ cache.limit)
    (h : Office.of? host settings cache fields = (.ok (office, problems), after)) :
    (Office.of? host settings after fields).1 = .ok (office, problems) := by
  unfold Office.of? at h ⊢
  cases hdistinct : requireDistinct fields with
  | error m =>
    rw [hdistinct] at h
    cases h
  | ok _ =>
    rw [hdistinct] at h
    dsimp only at h ⊢
    cases hinspect : Office.inspect settings fields with
    | error m =>
      rw [hinspect] at h
      cases h
    | ok found =>
      rw [hinspect] at h
      dsimp only at h ⊢
      cases hget : cache.get fields with
      | mk result kept =>
        rw [hget] at h
        cases result with
        | error e => cases h
        | ok e =>
          cases h
          have hagain : (after.get fields).1 = .ok e := SchemaCache.get_again hlimit hget
          generalize after.get fields = got at hagain ⊢
          obtain ⟨result, later⟩ := got
          cases hagain
          rfl

/-- **An outcome says what happened**: the answers were sent exactly if the receiver returned, and
if the submission failed there is a message for some field or one about the submission, and not
both. -/
theorem Desk.AttemptEnds.outcome {office : Office} {raw : Answers} {receive : Receiver} {d : Desk}
    {ended : Desk × Ending} (h : AttemptEnds office raw receive d ended) :
    (∀ o, ended.2 = .outcome o → o.stage = .sent ∨ o.stage = .failed ∧
      ((o.fieldErrors ≠ [] ∧ o.submissionError? = none) ∨
        (o.fieldErrors = [] ∧ o.submissionError? ≠ none))) ∧
    ((∃ o, ended.2 = .outcome o ∧ o.stage = .sent) ↔ ∃ payload left result,
      (d.submit office raw).2 = .handedOver payload ∧
        receive payload = (left, .returned result)) := by
  -- the receiver was not called, or replied with something else
  have hnot : ∀ {reception : Reception}, (d.submit office raw).2 = reception →
      (∀ payload left result, reception = .handedOver payload →
        receive payload ≠ (left, .returned result)) →
      ¬ ∃ payload left result, (d.submit office raw).2 = .handedOver payload ∧
        receive payload = (left, .returned result) := by
    rintro reception rfl hreply ⟨payload, left, result, hover, hreturned⟩
    exact hreply payload left result hover hreturned
  have hother : ∀ {sending : Desk} {payload left : Answers} {reply : Reply},
      d.submit office raw = (sending, .handedOver payload) → receive payload = (left, reply) →
      (∀ result, reply ≠ .returned result) →
      ¬ ∃ payload left result, (d.submit office raw).2 = .handedOver payload ∧
        receive payload = (left, .returned result) := by
    intro sending payload left reply hsubmit hreply hne
    refine hnot (congrArg Prod.snd hsubmit) ?_
    rintro payload left result ⟨⟩ hreturned
    cases hreply.symm.trans hreturned
    exact hne result rfl
  cases h with
  | stopped hsubmit =>
    exact ⟨nofun, iff_of_false nofun (hnot (congrArg Prod.snd hsubmit) nofun)⟩
  | rejected hsubmit hsome =>
    refine ⟨?_, iff_of_false ?_ (hnot (congrArg Prod.snd hsubmit) nofun)⟩
    · rintro o ⟨⟩
      exact .inr ⟨rfl, .inl ⟨hsome, rfl⟩⟩
    · rintro ⟨o, ⟨⟩, hstage⟩
      cases hstage
  | returned hsubmit hreply =>
    refine ⟨?_, iff_of_true ⟨_, rfl, rfl⟩ ⟨_, _, _, congrArg Prod.snd hsubmit, hreply⟩⟩
    rintro o ⟨⟩
    exact .inl rfl
  | undelivered hsubmit hreply =>
    refine ⟨?_, iff_of_false ?_ (hother hsubmit hreply nofun)⟩
    · rintro o ⟨⟩
      exact .inr ⟨rfl, .inr ⟨rfl, nofun⟩⟩
    · rintro ⟨o, ⟨⟩, hstage⟩
      cases hstage
  | unsaid hsubmit hreply => exact ⟨nofun, iff_of_false nofun (hother hsubmit hreply nofun)⟩
  | calledOff hsubmit hreply => exact ⟨nofun, iff_of_false nofun (hother hsubmit hreply nofun)⟩

/-- An outcome says what happened at every desk, as one that is not ready gives none. -/
theorem Desk.outcome_attempt (office : Office) (raw : Answers) (receive : Receiver) (d : Desk) :
    (∀ o, (d.attempt office raw receive).2 = .outcome o → o.stage = .sent ∨ o.stage = .failed ∧
      ((o.fieldErrors ≠ [] ∧ o.submissionError? = none) ∨
        (o.fieldErrors = [] ∧ o.submissionError? ≠ none))) ∧
    ((∃ o, (d.attempt office raw receive).2 = .outcome o ∧ o.stage = .sent) ↔
      ∃ payload left result, (d.submit office raw).2 = .handedOver payload ∧
        receive payload = (left, .returned result)) := by
  cases hready : d.stage.isReady with
  | true => exact (attemptEnds_attempt office raw receive hready).outcome
  | false =>
    rw [attempt_of_not_isReady hready, submit_of_not_isReady hready]
    exact ⟨nofun, iff_of_false nofun nofun⟩

/-- **A retry is like a first attempt**, whatever answers were submitted before, however that ended,
and however often the desk was made idle, unless the desk hangs:

* a desk is ready if no attempt hung it, also if submissions have overlapped, once none is under
  way;
* at a desk that is ready the next attempt ends as at a new desk, and leaves the desk in the same
  stage, with the same course and the same last error;
* an attempt that hangs the desk is followed by one that is stopped, as it would not be at a new
  desk;
* the new desk may be that of an office that was readied again: with the cache as the first time
  left it the office is the same, and with other caches, that told the fields apart from all others
  that they were asked for, attempts end as in the first office;
* an outcome says that the answers were sent exactly if the receiver returned; one that says that
  the submission failed has a message for some field, or one about the submission, and not both. -/
theorem retry_like_first (office : Office) (visits : List Visit) (raw : Answers)
    (receive : Receiver) :
    let d := Desk.afterAll office visits
    ((∀ visit ∈ visits, ¬ visit.Hangs office) → d.stage.isReady = true) ∧
    (∀ events, (∀ event ∈ events, ¬ event.Hangs office) →
      (Session.run office events).underway = [] →
      (Session.run office events).desk.stage.isReady = true ∧
      (Session.run office events).desk.attempt office raw receive =
        Desk.fresh.attempt office raw receive) ∧
    (d.stage.isReady = true →
      d.attempt office raw receive = Desk.fresh.attempt office raw receive ∧
      (∀ visit, visit.Hangs office → ∃ stage, (d.after office visit).attempt office raw receive =
          (d.after office visit, .stopped (.busy stage)) ∧
        (Desk.fresh.attempt office raw receive).2 ≠ .stopped (.busy stage)) ∧
      ∀ limit calls problems cache limit' calls' office' problems' cache',
        (∀ earlier, .get earlier ∈ calls ++ calls' → ToldApart earlier office.fields) →
        Office.of? office.host office.settings ((SchemaCache.empty limit).run calls)
          office.fields = (.ok (office, problems), cache) →
        Office.of? office.host office.settings ((SchemaCache.empty limit').run calls')
          office.fields = (.ok (office', problems'), cache') →
        d.attempt office raw receive = Desk.fresh.attempt office' raw receive) ∧
    (∀ cache after problems, 1 ≤ cache.limit →
      Office.of? office.host office.settings cache office.fields =
        (.ok (office, problems), after) →
      (Office.of? office.host office.settings after office.fields).1 = .ok (office, problems)) ∧
    (∀ o, (d.attempt office raw receive).2 = .outcome o →
      o.stage = .sent ∨ o.stage = .failed ∧
        ((o.fieldErrors ≠ [] ∧ o.submissionError? = none) ∨
          (o.fieldErrors = [] ∧ o.submissionError? ≠ none))) ∧
    ((∃ o, (d.attempt office raw receive).2 = .outcome o ∧ o.stage = .sent) ↔
      ∃ payload left result, (d.submit office raw).2 = .handedOver payload ∧
        receive payload = (left, .returned result)) := by
  intro d
  obtain ⟨hfailed, hsent⟩ := Desk.outcome_attempt office raw receive d
  refine ⟨Desk.isReady_afterAll office, ?_, fun hready => ?_,
    fun cache after problems => Office.of?_again, hfailed, hsent⟩
  · intro events hevents hnone
    have hstage := (Session.standing_run office events).isReady hnone hevents
    exact ⟨hstage, Desk.attempt_of_isReady hstage raw receive⟩
  · have hfresh : d.attempt office raw receive = _ := Desk.attempt_of_isReady hready raw receive
    refine ⟨hfresh, fun visit hhangs => Desk.attempt_of_hangs hready hhangs raw receive, ?_⟩
    intro limit calls problems cache limit' calls' office' problems' cache' hcalls h h'
    have hlike : office.WorksLike office' := Office.worksLike_of_of?
      (fun earlier hget => hcalls earlier (List.mem_append_left _ hget))
      (fun earlier hget => hcalls earlier (List.mem_append_right _ hget)) h h'
    rw [hfresh, hlike.attempt_eq]

/-- **A retry that is stopped**: the receiver failed on a number that cannot be said, and now the
desk is busy for an attempt that a new desk would have taken in, and whose answers would have been
received. -/
theorem retry_stopped :
    ∃ office cache, Office.of? Host.none .usual (SchemaCache.empty 1) titleForm =
        (.ok (office, []), cache) ∧
      ((Desk.afterAll office [.attempt titled fun payload => (payload, unsaid)]).attempt office
        titled fun payload => (payload, .returned .null)).2 = .stopped (.busy .sending) ∧
      (Desk.fresh.attempt office titled fun payload => (payload, .returned .null)).2 =
        .outcome (.received titled .null) := by
  obtain ⟨office, cache, hoffice, hpasses⟩ := exists_titleOffice
  obtain ⟨sending, hsubmit, hstage⟩ :=
    hpasses.submit_eq (show Desk.fresh.stage.isReady = true from rfl)
  have hafter :
      Desk.afterAll office [.attempt titled fun payload => (payload, unsaid)] = sending := by
    show (Desk.fresh.attempt office titled _).1 = sending
    rw [Desk.attempt, hsubmit]
    dsimp only
    rw [Desk.settle_of_hangs hangs_unsaid]
    rfl
  refine ⟨office, cache, hoffice, ?_, ?_⟩
  · rw [hafter, Desk.attempt_of_not_isReady (congrArg Stage.isReady hstage), hstage]
  · rw [Desk.attempt, hsubmit]
    simp [Desk.settle, hstage]

end Intake
