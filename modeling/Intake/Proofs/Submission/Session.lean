import Intake.Proofs.Submission.Desk
import Intake.Proofs.Submission.Office

/-!
# Submissions that overlap

While a receiver is at work, anything can come to the desk: further answers, attempts to make it
idle, and at last the reply, or none at all.  A **session** is what has come of such events, in
whatever order they came: where the desk is, the answers that were submitted, the calls of the
receiver, and the submissions that are under way.  A submission has its place among all
submissions as its number.

* `Session.CallsPass` is kept by every event: what the receiver was called with has passed;
* `Session.Standing` says where the desk can be: it is ready, a submission under way shuts out all
  others, or it hangs on an earlier event;
* `calls_pass` and `submissions_exclude` say what follows for every run, and `desk_left_sending`
  shows how a desk comes to hang.
-/

namespace Intake

/-- A call of the receiver: the submission that it is for, and the answers that it gets. -/
structure Call where
  number : Nat
  payload : Answers

/-- The calls that come of answers as the desk has handled them. -/
def Reception.calls (number : Nat) : Reception → List Call
  | .handedOver payload => [⟨number, payload⟩]
  | .refused _ | .settled _ => []

/-- The only call is that with the answers handed over. -/
theorem Reception.of_mem_calls {reception : Reception} {number : Nat} {call : Call}
    (h : call ∈ reception.calls number) :
    call.number = number ∧ reception = .handedOver call.payload := by
  cases reception with
  | handedOver payload =>
    obtain rfl := List.mem_singleton.mp h
    exact ⟨rfl, rfl⟩
  | _ => cases h

theorem Reception.nodup_calls (reception : Reception) (number : Nat) :
    ((reception.calls number).map Call.number).Nodup := by
  cases reception with
  | handedOver payload => exact List.nodup_singleton _
  | _ => exact .nil

/-- What can come to a desk: answers, an attempt to make it idle, and the reply of the receiver to
the answers of a submission, as it left them. -/
inductive Event where
  | submit (raw : Answers)
  | reset
  | reply (number : Nat) (left : Answers) (reply : Reply)

/-- An event **hangs** a desk if the desk would hang on what comes with it. -/
def Event.Hangs (office : Office) : Event → Prop
  | .submit raw => office.HangsOn raw
  | .reset => False
  | .reply _ _ given => given.Hangs

/-- What has come of some events. -/
structure Session where
  desk : Desk
  submitted : List Answers
  calls : List Call
  underway : List Nat

/-- Answers pass if they can be cleaned, and neither the schema nor the check across fields has
anything to say about the clean ones. -/
structure Office.Passes (office : Office) (raw payload : Answers) : Prop where
  clean : sanitize office.host office.fields raw = .ok payload
  schema : office.schema.check? office.host payload = .ok ⟨[]⟩
  across : crossCheck? office.host office.fields payload = .ok []

theorem Office.passes_iff {office : Office} {raw payload : Answers} :
    office.Passes raw payload ↔ sanitize office.host office.fields raw = .ok payload ∧
      office.fieldErrors? payload = .ok [] := by
  rw [Office.fieldErrors?_eq_nil_iff]
  exact ⟨fun h => ⟨h.clean, h.schema, h.across⟩, fun ⟨hclean, hschema, hacross⟩ =>
    ⟨hclean, hschema, hacross⟩⟩

namespace Session

/-- A session to which nothing has come. -/
def fresh : Session := ⟨.fresh, [], [], []⟩

/-- What comes of an event.  A reply to a submission that is not under way is to nothing. -/
def step (office : Office) (s : Session) : Event → Session
  | .submit raw =>
    let (desk, reception) := s.desk.submit office raw
    let made := reception.calls s.submitted.length
    { desk
      submitted := s.submitted ++ [raw]
      calls := s.calls ++ made
      underway := s.underway ++ made.map Call.number }
  | .reset =>
    match s.desk.reset with
    | .ok desk => { s with desk }
    | .error _ => s
  | .reply number left reply =>
    if number ∈ s.underway then
      { s with
        desk := (s.desk.settle office left reply).1
        underway := s.underway.erase number }
    else s

/-- What comes of events, one after another. -/
def run (office : Office) (events : List Event) : Session :=
  events.foldl (step office) fresh

variable {office : Office} {s : Session}

/-- What holds at first and is kept by every event holds after every run. -/
theorem run_induction {P : Session → Prop} (hfresh : P fresh)
    (hstep : ∀ s event, P s → P (s.step office event)) (events : List Event) :
    P (run office events) :=
  List.foldlRecOn events (step office) hfresh fun s hs event _ => hstep s event hs

/-! ## What the receiver gets -/

/-- The receiver was called for submissions whose answers pass, with their clean answers, and once
for each of them. -/
structure CallsPass (office : Office) (s : Session) : Prop where
  passes : ∀ call ∈ s.calls, ∃ raw, s.submitted[call.number]? = some raw ∧
    office.Passes raw call.payload
  once : (s.calls.map Call.number).Nodup

/-- The calls so far are for earlier submissions than the next. -/
theorem CallsPass.number_lt (h : CallsPass office s) {call : Call} (hcall : call ∈ s.calls) :
    call.number < s.submitted.length := by
  obtain ⟨raw, hraw, -⟩ := h.passes call hcall
  exact (List.getElem?_eq_some_iff.mp hraw).1

/-- A submission makes no call but its own, and that only with answers that pass. -/
theorem CallsPass.submit (h : CallsPass office s) (raw : Answers) :
    CallsPass office (s.step office (.submit raw)) where
  passes call hcall := by
    obtain hcall | hcall := List.mem_append.mp hcall
    · -- submissions are added at the end, so an earlier one keeps its number
      obtain ⟨earlier, hget, hpasses⟩ := h.passes call hcall
      exact ⟨earlier, (List.getElem?_append_left (h.number_lt hcall)).trans hget, hpasses⟩
    · obtain ⟨hnumber, hover⟩ := Reception.of_mem_calls hcall
      refine ⟨raw, ?_, Office.passes_iff.mpr (Desk.of_handedOver hover)⟩
      rw [hnumber]
      exact List.getElem?_concat_length
  once := by
    show ((s.calls ++ _).map Call.number).Nodup
    rw [List.map_append, List.nodup_append]
    refine ⟨h.once, Reception.nodup_calls _ _, fun number hnumber later hlater => ?_⟩
    obtain ⟨earlier, hearlier, rfl⟩ := List.mem_map.mp hnumber
    obtain ⟨call, hcall, rfl⟩ := List.mem_map.mp hlater
    rw [(Reception.of_mem_calls hcall).1]
    exact (h.number_lt hearlier).ne

/-- Neither a reset nor a reply makes a call. -/
theorem CallsPass.step (h : CallsPass office s) (event : Event) :
    CallsPass office (s.step office event) := by
  cases event with
  | submit raw => exact h.submit raw
  | reset =>
    unfold Session.step
    cases s.desk.reset with
    | ok desk => exact ⟨h.passes, h.once⟩
    | error e => exact h
  | reply number left reply =>
    unfold Session.step
    dsimp only
    split
    · exact ⟨h.passes, h.once⟩
    · exact h

theorem callsPass_run (office : Office) (events : List Event) :
    CallsPass office (run office events) :=
  run_induction ⟨nofun, .nil⟩ (fun _ event h => h.step event) events

/-! ## One submission at a time -/

theorem run_concat (office : Office) (events : List Event) (event : Event) :
    run office (events ++ [event]) = (run office events).step office event :=
  List.foldl_concat ..

/-- **Where a desk stands** after some events: it is ready and no submission is under way; it is
sending, just as a new desk would that was given the answers of the one submission under way; or it
hangs on one of the events, and no submission is under way. -/
inductive Standing (office : Office) (events : List Event) (s : Session) : Prop where
  | ready (hnone : s.underway = []) (hstage : s.desk.stage.isReady = true)
  | sending {number : Nat} {raw : Answers} (hone : s.underway = [number])
      (hstage : s.desk.stage = .sending) (hraw : s.submitted[number]? = some raw)
      (hdesk : s.desk = (Desk.fresh.submit office raw).1)
  | hanging {event : Event} (hnone : s.underway = []) (hstage : s.desk.stage.isReady = false)
      (hevent : event ∈ events) (hhangs : event.Hangs office)

variable {events : List Event}

/-- A desk that hangs on an event still does after another one that leaves it as it is. -/
theorem Standing.concat {event : Event} (h : Standing office events s) :
    Standing office (events ++ [event]) s := by
  cases h with
  | ready hnone hstage => exact .ready hnone hstage
  | sending hone hstage hraw hdesk => exact .sending hone hstage hraw hdesk
  | hanging hnone hstage hevent hhangs =>
    exact .hanging hnone hstage (List.mem_append_left _ hevent) hhangs

theorem step_submit (s : Session) (raw : Answers) : s.step office (.submit raw) =
    { desk := (s.desk.submit office raw).1
      submitted := s.submitted ++ [raw]
      calls := s.calls ++ (s.desk.submit office raw).2.calls s.submitted.length
      underway := s.underway ++
        ((s.desk.submit office raw).2.calls s.submitted.length).map Call.number } :=
  rfl

/-- Answers that come while the desk is not ready change nothing but the list of them. -/
theorem step_submit_of_not_isReady (h : s.desk.stage.isReady = false) (raw : Answers) :
    s.step office (.submit raw) = { s with submitted := s.submitted ++ [raw] } := by
  have hrefused : s.desk.submit office raw = (s.desk, .refused (.busy s.desk.stage)) :=
    Desk.submit_of_not_isReady h
  simp [step, hrefused, Reception.calls]

theorem step_reset_of_sending (h : s.desk.stage = .sending) : s.step office .reset = s := by
  simp [step, Desk.reset_of_sending h]

/-- The desk is made a new one while no answers are being sent. -/
theorem step_reset_of_ne_sending (h : s.desk.stage ≠ .sending) :
    s.step office .reset = { s with desk := .fresh } := by
  simp [step, Desk.reset_of_ne_sending h]

/-- A reply to the only submission under way is taken by the desk, and then none is. -/
theorem step_reply_of_underway {number : Nat} (h : s.underway = [number]) (left : Answers)
    (reply : Reply) : s.step office (.reply number left reply) =
      { s with desk := (s.desk.settle office left reply).1, underway := [] } := by
  simp [step, h]

theorem step_reply_of_not_mem {number : Nat} (h : number ∉ s.underway) (left : Answers)
    (reply : Reply) : s.step office (.reply number left reply) = s := by
  simp [step, h]

/-- Answers that come in while the desk is ready start a submission, settle at once, or hang the
desk; otherwise they change nothing. -/
theorem Standing.submit (h : Standing office events s) (raw : Answers) :
    Standing office (events ++ [.submit raw]) (s.step office (.submit raw)) := by
  cases h with
  | ready hnone hready =>
    have hsame : s.desk.submit office raw = Desk.fresh.submit office raw :=
      Desk.submit_of_isReady hready
    have hlanding := Desk.landing_submit office raw hready
    rw [hsame] at hlanding
    rw [step_submit, hsame]
    generalize hlanded : Desk.fresh.submit office raw = landed at hlanding ⊢
    cases hlanding with
    | sending hstage =>
      refine .sending (by rw [hnone]; rfl) hstage List.getElem?_concat_length ?_
      rw [hlanded]
    | @failed after reception hstage hover =>
      refine .ready ?_ (congrArg Stage.isReady hstage)
      cases reception with
      | handedOver payload => exact absurd rfl (hover payload)
      | _ => exact (List.append_nil _).trans hnone
    | hanging hstage hhangs =>
      refine .hanging ((List.append_nil _).trans hnone) ?_
        (List.mem_append_right _ (.head _)) hhangs
      rcases hstage with hstage | hstage <;> exact congrArg Stage.isReady hstage
  | sending hone hsending hearlier hdesk =>
    rw [step_submit_of_not_isReady (congrArg Stage.isReady hsending)]
    refine .sending hone hsending ?_ hdesk
    rw [List.getElem?_append_left (List.getElem?_eq_some_iff.mp hearlier).1, hearlier]
  | hanging hnone hstage hevent hhangs =>
    rw [step_submit_of_not_isReady hstage]
    exact .hanging hnone hstage (List.mem_append_left _ hevent) hhangs

/-- Unless answers are being sent, a reset makes the desk ready. -/
theorem Standing.reset (h : Standing office events s) :
    Standing office (events ++ [.reset]) (s.step office .reset) := by
  by_cases hsending : s.desk.stage = .sending
  · rw [step_reset_of_sending hsending]
    exact h.concat
  · rw [step_reset_of_ne_sending hsending]
    cases h with
    | ready hnone => exact .ready hnone rfl
    | sending _ hstage => exact absurd hstage hsending
    | hanging hnone => exact .ready hnone rfl

/-- A reply to the submission under way makes the desk ready, or hangs it, and any other changes
nothing. -/
theorem Standing.reply (h : Standing office events s) (number : Nat) (left : Answers)
    (given : Reply) : Standing office (events ++ [.reply number left given])
      (s.step office (.reply number left given)) := by
  by_cases hunder : number ∈ s.underway
  · cases h with
    | ready hnone =>
      rw [hnone] at hunder
      cases hunder
    | sending hone hsending =>
      -- the reply is to the one submission under way, so none is left
      rw [hone, List.mem_singleton] at hunder
      subst hunder
      rw [step_reply_of_underway hone]
      by_cases hhangs : given.Hangs
      · refine .hanging rfl ?_ (List.mem_append_right _ (.head _)) hhangs
        rw [Desk.settle_of_hangs hhangs]
        exact congrArg Stage.isReady hsending
      · exact .ready rfl (Desk.isReady_settle hsending left hhangs)
    | hanging hnone =>
      rw [hnone] at hunder
      cases hunder
  · rw [step_reply_of_not_mem hunder]
    exact h.concat

theorem Standing.step (h : Standing office events s) (event : Event) :
    Standing office (events ++ [event]) (s.step office event) := by
  cases event with
  | submit raw => exact h.submit raw
  | reset => exact h.reset
  | reply number left reply => exact h.reply number left reply

theorem standing_run (office : Office) (events : List Event) :
    Standing office events (run office events) := by
  induction events using List.reverseRecOn with
  | nil => exact .ready rfl rfl
  | append_singleton events event ih =>
    rw [run_concat]
    exact ih.step event

/-- A submission under way is the only one, and the desk is sending its answers. -/
theorem Standing.of_mem_underway (h : Standing office events s) {number : Nat}
    (hnumber : number ∈ s.underway) : s.underway = [number] ∧ s.desk.stage = .sending ∧
      ∃ raw, s.submitted[number]? = some raw ∧ s.desk = (Desk.fresh.submit office raw).1 := by
  cases h with
  | sending hone hsending hraw hdesk =>
    rw [hone, List.mem_singleton] at hnumber
    subst hnumber
    exact ⟨hone, hsending, _, hraw, hdesk⟩
  | ready hnone | hanging hnone =>
    rw [hnone] at hnumber
    cases hnumber

/-- While the desk is ready, no submission is under way. -/
theorem Standing.underway_eq_nil (h : Standing office events s)
    (hready : s.desk.stage.isReady = true) : s.underway = [] := by
  cases h with
  | ready hnone | hanging hnone => exact hnone
  | sending _ hsending =>
    rw [hsending] at hready
    cases hready

/-- While no submission is under way, the desk is ready, unless it hangs on some event. -/
theorem Standing.isReady (h : Standing office events s) (hnone : s.underway = [])
    (hworded : ∀ event ∈ events, ¬ event.Hangs office) : s.desk.stage.isReady = true := by
  cases h with
  | ready _ hready => exact hready
  | sending hone =>
    rw [hone] at hnone
    cases hnone
  | hanging _ _ hevent hhangs => exact absurd hhangs (hworded _ hevent)

/-- Every event leaves the desk orderly. -/
theorem isOrderly_step (h : s.desk.IsOrderly) (event : Event) :
    (s.step office event).desk.IsOrderly := by
  cases event with
  | submit raw => exact h.submit
  | reset =>
    by_cases hsending : s.desk.stage = .sending
    · rwa [step_reset_of_sending hsending]
    · rw [step_reset_of_ne_sending hsending]
      exact Desk.isOrderly_fresh
  | reply number left reply =>
    by_cases hunder : number ∈ s.underway
    · simpa [Session.step, hunder] using h.settle left reply
    · rwa [step_reply_of_not_mem hunder]

theorem isOrderly_run (office : Office) (events : List Event) :
    (run office events).desk.IsOrderly :=
  run_induction (P := fun s => s.desk.IsOrderly) Desk.isOrderly_fresh
    (fun _ event h => isOrderly_step h event) events

/-! ## Hanging -/

/-- **Answers that hang a desk** leave it where they were cleaned or checked: it refuses all others
until it is made idle. -/
theorem of_hangsOn (hready : s.desk.stage.isReady = true) {raw : Answers}
    (hhangs : office.HangsOn raw) : let after := s.step office (.submit raw)
    after.underway = s.underway ∧ (after.desk.stage = .cleaning ∨ after.desk.stage = .checking) ∧
      (∀ more, (after.desk.submit office more).2 = .refused (.busy after.desk.stage)) ∧
      after.desk.reset = .ok .fresh := by
  intro after
  have hlanding := Desk.landing_submit office raw hready
  have hlanded : after.underway = s.underway ∧
      (after.desk.stage = .cleaning ∨ after.desk.stage = .checking) := by
    rw [show after = _ from step_submit s raw]
    generalize hreception : s.desk.submit office raw = landed at hlanding ⊢
    cases hlanding with
    | sending =>
      obtain ⟨hclean, hcheck⟩ := Desk.of_handedOver (congrArg Prod.snd hreception)
      exact absurd hhangs (Office.not_hangsOn hclean hcheck)
    | failed _ _ hworded => exact absurd hhangs hworded
    | hanging hstage => exact ⟨List.append_nil _, hstage⟩
  obtain ⟨hsame, hstage⟩ := hlanded
  have hbusy : after.desk.stage.isReady = false := by
    rcases hstage with hstage | hstage <;> exact congrArg Stage.isReady hstage
  refine ⟨hsame, hstage, fun more => ?_, Desk.reset_of_ne_sending fun hsending => ?_⟩
  · rw [Desk.submit_of_not_isReady hbusy]
  · rcases hstage with hstage | hstage <;> cases hsending.symm.trans hstage

/-- A desk that is sending while no submission is under way does so for ever. -/
theorem desk_run_append (office : Office) (events : List Event)
    (hnone : (run office events).underway = [])
    (hsending : (run office events).desk.stage = .sending) (later : List Event) :
    (run office (events ++ later)).desk = (run office events).desk ∧
      (run office (events ++ later)).underway = [] := by
  induction later using List.reverseRecOn with
  | nil => simp [hnone]
  | append_singleton later event ih =>
    obtain ⟨hdesk, hunder⟩ := ih
    have hstage : (run office (events ++ later)).desk.stage = .sending := by rw [hdesk, hsending]
    rw [← List.append_assoc, run_concat, ← hdesk]
    cases event with
    | submit raw =>
      rw [step_submit_of_not_isReady (congrArg Stage.isReady hstage)]
      exact ⟨rfl, hunder⟩
    | reset =>
      rw [step_reset_of_sending hstage]
      exact ⟨rfl, hunder⟩
    | reply number left reply =>
      rw [step_reply_of_not_mem (by simp [hunder])]
      exact ⟨rfl, hunder⟩

/-- **A reply that hangs a desk** leaves it sending for ever: it neither takes in answers nor is
made idle. -/
theorem run_reply_of_hangs (office : Office) (events : List Event) {number : Nat}
    (hnumber : number ∈ (run office events).underway) (left : Answers) {reply : Reply}
    (hhangs : reply.Hangs) (later : List Event) :
    let after := run office (events ++ .reply number left reply :: later)
    after.underway = [] ∧ after.desk = (run office events).desk ∧
      (∀ more, (after.desk.submit office more).2 = .refused (.busy .sending)) ∧
      after.desk.reset = .error (.busy .sending) := by
  intro after
  obtain ⟨hone, hsending, -⟩ := (standing_run office events).of_mem_underway hnumber
  have hreplied : run office (events ++ [.reply number left reply]) =
      { run office events with underway := [] } := by
    rw [run_concat, step_reply_of_underway hone, Desk.settle_of_hangs hhangs]
  have hstays := desk_run_append office (events ++ [.reply number left reply])
    (by rw [hreplied]) (by rw [hreplied, hsending]) later
  rw [List.append_assoc, List.singleton_append, hreplied] at hstays
  obtain ⟨hdesk, hnone⟩ := hstays
  have hstage : after.desk.stage = .sending := (congrArg Desk.stage hdesk).trans hsending
  refine ⟨hnone, hdesk, fun more => ?_, Desk.reset_of_sending hstage⟩
  rw [Desk.submit_of_not_isReady (congrArg Stage.isReady hstage), hstage]

end Session

/-- **Only answers that pass reach the receiver**, whatever has come to the desk:

* every call is for a submission of its own;
* it gets the clean answers of that submission, and neither the schema of the office nor the check
  across fields has anything to say about them;
* nor has the schema of the fields, if the office was readied with a cache that told its fields
  apart from any others;
* answers that cannot be cleaned or checked, or have a message for some field, cause no call;
* a desk that is ready hands over all answers that pass. -/
theorem calls_pass (office : Office) (events : List Event) :
    let s := Session.run office events
    (s.calls.map Call.number).Nodup ∧
    (∀ call ∈ s.calls, ∃ raw, s.submitted[call.number]? = some raw ∧
      office.Passes raw call.payload) ∧
    (∀ host settings limit history fields problems cache schema,
      Schema.compile fields = .ok schema →
      (∀ earlier, .get earlier ∈ history → ToldApart earlier fields) →
      Office.of? host settings ((SchemaCache.empty limit).run history) fields =
        (.ok (office, problems), cache) →
      ∀ call ∈ s.calls, schema.check? host call.payload = .ok ⟨[]⟩) ∧
    (∀ number raw, s.submitted[number]? = some raw →
      (∀ payload, sanitize office.host office.fields raw = .ok payload →
        office.fieldErrors? payload ≠ .ok []) →
      number ∉ s.calls.map Call.number) ∧
    (s.desk.stage.isReady = true → ∀ raw payload, office.Passes raw payload →
      (s.step office (.submit raw)).calls = s.calls ++ [⟨s.submitted.length, payload⟩]) := by
  intro s
  have hpass : s.CallsPass office := Session.callsPass_run office events
  refine ⟨hpass.once, hpass.passes, ?_, ?_, ?_⟩
  · intro host settings limit history fields problems cache schema hschema htold hoffice call hcall
    obtain ⟨rfl, -, hsame⟩ := Office.check?_of_of? hschema htold hoffice
    obtain ⟨raw, -, hpasses⟩ := hpass.passes call hcall
    exact (hsame call.payload).symm.trans hpasses.schema
  · intro number raw hraw hnot hmem
    obtain ⟨call, hcall, rfl⟩ := List.mem_map.mp hmem
    obtain ⟨raw', hraw', hpasses⟩ := hpass.passes call hcall
    obtain rfl : raw' = raw := Option.some.inj (hraw'.symm.trans hraw)
    obtain ⟨hclean, hcheck⟩ := Office.passes_iff.mp hpasses
    exact hnot call.payload hclean hcheck
  · intro hready raw payload hpasses
    obtain ⟨hclean, hcheck⟩ := Office.passes_iff.mp hpasses
    show s.calls ++ (s.desk.submit office raw).2.calls s.submitted.length = _
    rw [Desk.handedOver_of_isReady hready hclean hcheck]
    rfl

/-- A form that asks for a title. -/
def titleForm : List Field := [{ name := "title", type := .text, required := true }]

/-- Answers with a title. -/
def titled : Answers := .ofEntries [("title", .text "x")]

/-- An office for the form is readied with a new cache, and answers with a title pass in it. -/
theorem exists_titleOffice :
    ∃ office cache, Office.of? Host.none .usual (SchemaCache.empty 1) titleForm =
      (.ok (office, []), cache) ∧ office.Passes titled titled := by
  obtain ⟨t, ht⟩ : ∃ t, payload? titleForm = .ok t := ⟨_, rfl⟩
  have hnames : (fieldNames titleForm).Nodup := by decide
  have hs := Schema.compile_eq_ok hnames ht
  have hnone : ∀ earlier, .get earlier ∈ ([] : List CacheCall) → ToldApart earlier titleForm :=
    nofun
  obtain ⟨office, cache, hoffice⟩ := Office.exists_of? Host.none 1 [] hnames hs nofun
    (show Office.inspect .usual titleForm = .ok [] by rfl)
  obtain ⟨hhost, hfields, hsame⟩ := Office.check?_of_of? hs hnone hoffice
  refine ⟨office, cache, hoffice, ?_, ?_, ?_⟩
  · rw [hhost, hfields]
    rfl
  · rw [hhost, hsame]
    rfl
  · rw [hhost, hfields]
    rfl

-- Answers without the title are rejected.  The next ones pass, and while they are with the
-- receiver the desk can neither be made idle nor take in others.
example (print : String) :
    let s := Session.run ⟨Host.none, titleForm, ⟨titleForm.map Field.check, print⟩, .usual⟩
      [.submit .empty, .submit titled, .reset, .submit .empty]
    (s.calls.map Call.number, s.underway) = ([1], [1]) := by
  cbv

/-- **Submissions shut each other out**, however they overlap:

* no more than one is under way;
* while one is, further answers and attempts to make the desk idle are refused, as the desk is
  busy, and the desk stays as it is;
* so any reply to it has the outcome, and leaves the desk, that it would have if the submission
  had been the only event, and then none is under way;
* while none is, and no event hung the desk, the desk is idle or has failed; and then it takes in
  the next answers as a new desk would;
* an event that hangs the desk leaves it in the middle of its course, with none under way: where it
  is cleaning or checking it refuses all answers until it is reset, and where it is sending it stays
  so whatever comes later;
* at any time the course of the desk starts idle, goes where its stages lead, and ends where the
  desk is. -/
theorem submissions_exclude (office : Office) (events : List Event) :
    let s := Session.run office events
    s.underway.length ≤ 1 ∧
    (s.underway ≠ [] →
      (∀ raw, s.desk.submit office raw = (s.desk, .refused (.busy .sending)) ∧
        (s.step office (.submit raw)).desk = s.desk) ∧
      s.desk.reset = .error (.busy .sending) ∧ s.step office .reset = s) ∧
    (∀ number ∈ s.underway, ∃ raw, s.submitted[number]? = some raw ∧ ∀ left reply,
      s.desk.settle office left reply =
        (Desk.fresh.submit office raw).1.settle office left reply ∧
      (s.step office (.reply number left reply)).underway = []) ∧
    (s.underway = [] → (∀ event ∈ events, ¬ event.Hangs office) →
      s.desk.stage = .idle ∨ s.desk.stage = .failed) ∧
    (s.desk.stage = .idle ∨ s.desk.stage = .failed → ∀ raw,
      s.desk.submit office raw = Desk.fresh.submit office raw ∧
        ∀ stage, (s.desk.submit office raw).2 ≠ .refused (.busy stage)) ∧
    (s.desk.stage.isReady = true → ∀ raw, office.HangsOn raw →
      let after := s.step office (.submit raw)
      after.underway = [] ∧ (after.desk.stage = .cleaning ∨ after.desk.stage = .checking) ∧
        (∀ more, (after.desk.submit office more).2 = .refused (.busy after.desk.stage)) ∧
        after.desk.reset = .ok .fresh) ∧
    (∀ number ∈ s.underway, ∀ left reply, reply.Hangs → ∀ later,
      let after := Session.run office (events ++ .reply number left reply :: later)
      after.underway = [] ∧ after.desk = s.desk ∧
        (∀ more, (after.desk.submit office more).2 = .refused (.busy .sending)) ∧
        after.desk.reset = .error (.busy .sending)) ∧
    (s.desk.course ≠ [] ∧ s.desk.course.head? = some .idle ∧
      s.desk.course.getLast? = some s.desk.stage ∧
      s.desk.course.IsChain fun before after => after ∈ before.next) := by
  intro s
  have horderly : s.desk.IsOrderly := Session.isOrderly_run office events
  have hstanding : s.Standing office events := Session.standing_run office events
  refine ⟨?_, ?_, ?_, ?_, ?_, ?_, fun number hnumber left reply hhangs later =>
    Session.run_reply_of_hangs office events hnumber left hhangs later,
    s.desk.course_ne_nil, horderly.starts, s.desk.getLast?_course, horderly.follows⟩
  · cases hstanding with
    | ready hnone | hanging hnone => simp [hnone]
    | sending hone => simp [hone]
  · intro hsome
    obtain ⟨number, hnumber⟩ := List.exists_mem_of_ne_nil _ hsome
    obtain ⟨-, hsending, -⟩ := hstanding.of_mem_underway hnumber
    have hbusy : s.desk.stage.isReady = false := congrArg Stage.isReady hsending
    refine ⟨fun raw => ⟨?_, ?_⟩, Desk.reset_of_sending hsending,
      Session.step_reset_of_sending hsending⟩
    · rw [Desk.submit_of_not_isReady hbusy, hsending]
    · rw [Session.step_submit_of_not_isReady hbusy]
  · intro number hnumber
    obtain ⟨hone, -, raw, hraw, hdesk⟩ := hstanding.of_mem_underway hnumber
    refine ⟨raw, hraw, fun left reply => ⟨by rw [← hdesk], ?_⟩⟩
    rw [Session.step_reply_of_underway hone]
  · exact fun hnone hworded => Stage.isReady_iff.mp (hstanding.isReady hnone hworded)
  · intro hstage raw
    have hready := Stage.isReady_iff.mpr hstage
    exact ⟨Desk.submit_of_isReady hready, fun stage => Desk.submit_ne_busy hready stage⟩
  · intro hready raw hhangs
    obtain ⟨hsame, hstuck⟩ := Session.of_hangsOn hready hhangs
    exact ⟨hsame.trans (hstanding.underway_eq_nil hready), hstuck⟩

/-- A reply of a receiver that failed on a number with too many digits to be said. -/
def unsaid : Reply := .failed (.fault (.hostRaised "KeyError" (.fails .tooManyDigits)))

theorem hangs_unsaid : unsaid.Hangs := SubmissionError.not_isWorded_iff.mpr ⟨_, rfl⟩

/-- Answers that pass are being sent once they have come to a ready desk. -/
theorem Office.Passes.submit_eq {office : Office} {raw payload : Answers}
    (h : office.Passes raw payload) {d : Desk} (hready : d.stage.isReady = true) :
    ∃ sending, d.submit office raw = (sending, .handedOver payload) ∧ sending.stage = .sending := by
  obtain ⟨hclean, hcheck⟩ := Office.passes_iff.mp h
  exact ⟨_, by simp [Desk.submit, hready, hclean, hcheck]; rfl, rfl⟩

/-- **A desk that is left sending**: a receiver that was called with answers fails, and the number
in its failure cannot be said.  No submission is under way after that; but the desk neither takes in
answers nor is made idle. -/
theorem desk_left_sending :
    ∃ office cache, Office.of? Host.none .usual (SchemaCache.empty 1) titleForm =
        (.ok (office, []), cache) ∧
      let s := Session.run office [.submit titled, .reply 0 titled unsaid]
      s.underway = [] ∧ s.desk.stage = .sending ∧
        (s.desk.submit office titled).2 = .refused (.busy .sending) ∧
        s.desk.reset = .error (.busy .sending) := by
  obtain ⟨office, cache, hoffice, hpasses⟩ := exists_titleOffice
  obtain ⟨sending, hsubmit, hstage⟩ :=
    hpasses.submit_eq (show Desk.fresh.stage.isReady = true from rfl)
  have hone : (Session.run office [.submit titled]).underway = [0] := by
    show [] ++ ((Desk.fresh.submit office titled).2.calls 0).map Call.number = [0]
    rw [hsubmit]
    rfl
  obtain ⟨hnone, hdesk, hbusy, hreset⟩ := Session.run_reply_of_hangs office [.submit titled]
    (hone ▸ List.mem_singleton_self 0) titled hangs_unsaid []
  refine ⟨office, cache, hoffice, hnone, ?_, hbusy titled, hreset⟩
  show (Session.run office [.submit titled, .reply 0 titled unsaid]).desk.stage = .sending
  rw [show (Session.run office [.submit titled, .reply 0 titled unsaid]).desk = _ from hdesk]
  show (Desk.fresh.submit office titled).1.stage = .sending
  rw [hsubmit, hstage]

end Intake
