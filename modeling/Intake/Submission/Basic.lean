import Intake.Form.Reconcile
import Intake.Schema.Cache
import Intake.Settings

/-!
# Submissions

Answers are submitted in stages:

    idle → cleaning → checking → sending → sent, and then idle again, or failed

A **desk** takes in the answers of one form.  What it has gone through since it was last idle is
its **course**, and only one submission can be under way: `Desk.submit` and `Desk.reset` refuse
while answers are being sent.

What stops a submission is noted before the desk fails.  If it has no wording, the note cannot be
made, and the desk stays where it was.

* `Office.of?` readies a form for submissions;
* `Desk.submit` cleans and checks answers, and hands over those that pass;
* `Desk.settle` takes the reply of the receiver;
* `Desk.attempt` is both, with a receiver that replies at once.
-/

namespace Intake

/-- Where a submission stands. -/
inductive Stage where
  | idle | cleaning | checking | sending | sent | failed
deriving DecidableEq, Repr

namespace Stage

/-- The name of a stage. -/
def name : Stage → String
  | .idle => "idle"
  | .cleaning => "sanitizing"
  | .checking => "validating"
  | .sending => "submitting"
  | .sent => "success"
  | .failed => "failed"

/-- Can a submission start in this stage? -/
def isReady : Stage → Bool
  | .idle | .failed => true
  | _ => false

end Stage

/-- What stopped a submission, or an attempt at one. -/
inductive SubmissionError where
  | busy (stage : Stage)
  | fault (f : Fault)
deriving DecidableEq, Repr

/-- The wording of what stopped a submission; nothing if it has none. -/
def SubmissionError.message : SubmissionError → String
  | .busy stage => "Submission already in progress (state: " ++ stage.name ++ ")"
  | .fault f => f.message

/-- The wording of what stopped a submission, if it can be had. -/
def SubmissionError.wording? : SubmissionError → Except Fault String
  | .fault f => f.wording?
  | e => .ok e.message

/-- A form made ready for submissions. -/
structure Office where
  host : Host
  fields : List Field
  schema : Schema
  settings : Settings

namespace Office

/-- The mistakes in fields that the settings ask to look for. -/
def inspect (settings : Settings) (fields : List Field) : Except Misfit (List LintProblem) :=
  if settings.lintFirst then checkFields settings.strictLint fields else .ok []

/-- Readies some fields for submissions: the office and the mistakes in the fields, and the
cache that their schema was taken from. -/
def of? (host : Host) (settings : Settings) (cache : SchemaCache) (fields : List Field) :
    Except SchemaError (Office × List LintProblem) × SchemaCache :=
  match requireDistinct fields with
  | .error m => (.error (.misfit m), cache)
  | .ok () =>
    match inspect settings fields with
    | .error m => (.error (.misfit m), cache)
    | .ok problems =>
      match cache.get fields with
      | (.error e, cache) => (.error e, cache)
      | (.ok entry, cache) => (.ok (⟨host, fields, entry.schema, settings⟩, problems), cache)

/-- The message for every field that has one: what the schema says, and what the check across
fields says of other fields. -/
def fieldErrors? (office : Office) (payload : Answers) :
    Except Fault (List (String × String)) := do
  let found := (← office.schema.check? office.host payload).byField
  let across ← crossCheck? office.host office.fields payload
  return found ++ across.filter fun e => !found.any fun f => f.1 == e.1

end Office

/-- What came of a submission: the answers were received, or rejected because of some fields,
or they could not be delivered. -/
inductive Outcome where
  | received (payload : Answers) (result : Value)
  | rejected (payload : Answers) (errors : List (String × String))
  | undelivered (payload : Answers) (message : String)

namespace Outcome

/-- The stage in which a submission ended. -/
def stage : Outcome → Stage
  | .received .. => .sent
  | .rejected .. | .undelivered .. => .failed

/-- The answers that were submitted. -/
def payload : Outcome → Answers
  | .received payload _ | .rejected payload _ | .undelivered payload _ => payload

/-- What the receiver returned. -/
def result : Outcome → Value
  | .received _ result => result
  | _ => .null

/-- The messages for fields. -/
def fieldErrors : Outcome → List (String × String)
  | .rejected _ errors => errors
  | _ => []

/-- The message about the submission as a whole. -/
def submissionError? : Outcome → Option String
  | .undelivered _ message => some message
  | _ => none

end Outcome

/-- The reply of the receiver: it returned, it failed, or it was called off. -/
inductive Reply where
  | returned (result : Value)
  | failed (e : SubmissionError)
  | calledOff

/-- The fault that came up in wording the failure that a receiver replied with. -/
def Reply.worse? : Reply → Option Fault
  | .failed e =>
    match e.wording? with
    | .ok _ => none
    | .error worse => some worse
  | .returned _ | .calledOff => none

/-- A receiver by what it does with the answers that it is called with: as what it leaves them, and
how it replies. -/
abbrev Receiver := Answers → Answers × Reply

/-- What comes of an attempt to submit answers: it is stopped, it has an outcome, or it is called
off. -/
inductive Ending where
  | stopped (e : SubmissionError)
  | outcome (o : Outcome)
  | calledOff

/-- What a desk does with answers: it refuses them, settles them on its own, or hands them over
to the receiver. -/
inductive Reception where
  | refused (e : SubmissionError)
  | settled (outcome : Outcome)
  | handedOver (payload : Answers)

/-- Where answers are submitted: the stages since it was last idle, the last one apart, and the
error that came up in them. -/
structure Desk where
  earlier : List Stage
  stage : Stage
  lastError : Option SubmissionError

namespace Desk

/-- A desk that nothing has come to. -/
def fresh : Desk := ⟨[], .idle, none⟩

/-- The stages since the desk was last idle. -/
def course (d : Desk) : List Stage := d.earlier ++ [d.stage]

/-- The desk a stage further on. -/
def enter (stage : Stage) (d : Desk) : Desk :=
  { d with earlier := d.course, stage }

/-- The desk after an error. -/
def fail (e : SubmissionError) (d : Desk) : Desk :=
  enter .failed { d with lastError := some e }

/-- The desk after a fault that ends a submission, and how the submission is refused.  A fault
without wording leaves the desk where it was, and gives way to the one in wording it. -/
def abort (f : Fault) (d : Desk) : Desk × Reception :=
  match f.wording? with
  | .ok _ => (d.fail (.fault f), .refused (.fault f))
  | .error worse => (d, .refused (.fault worse))

/-- The desk made idle, unless answers are being sent. -/
def reset (d : Desk) : Except SubmissionError Desk :=
  if d.stage = .sending then .error (.busy d.stage) else .ok fresh

/-- Submits answers. -/
def submit (office : Office) (raw : Answers) (d : Desk) : Desk × Reception :=
  if !d.stage.isReady then (d, .refused (.busy d.stage))
  else
    let cleaning := fresh.enter .cleaning
    match sanitize office.host office.fields raw with
    | .error f => cleaning.abort f
    | .ok payload =>
      let checking := cleaning.enter .checking
      match office.fieldErrors? payload with
      | .error f => checking.abort f
      | .ok [] => (checking.enter .sending, .handedOver payload)
      | .ok errors => (checking.enter .failed, .settled (.rejected payload errors))

/-- Takes the reply to answers that were handed over, as the receiver left them.  Being called
off gives no outcome, and nor does a failure without wording, after which the desk still is as if
answers were being sent. -/
def settle (office : Office) (payload : Answers) (reply : Reply) (d : Desk) :
    Desk × Option Outcome :=
  if d.stage ≠ .sending then (d, none)
  else
    match reply with
    | .returned result => ((d.enter .sent).enter .idle, some (.received payload result))
    | .failed e =>
      match e.wording? with
      | .ok _ => (d.fail e, some (.undelivered payload office.settings.failureMessage))
      | .error _ => (d, none)
    | .calledOff => (d.enter .failed, none)

/-- An attempt to submit answers, up to the reply of the receiver if it comes to that. -/
def attempt (office : Office) (raw : Answers) (receive : Receiver) (d : Desk) : Desk × Ending :=
  match d.submit office raw with
  | (d, .refused e) => (d, .stopped e)
  | (d, .settled o) => (d, .outcome o)
  | (d, .handedOver payload) =>
    let (left, reply) := receive payload
    match d.settle office left reply, reply.worse? with
    | (d, some o), _ => (d, .outcome o)
    | (d, none), some worse => (d, .stopped (.fault worse))
    | (d, none), none => (d, .calledOff)

end Desk

end Intake
