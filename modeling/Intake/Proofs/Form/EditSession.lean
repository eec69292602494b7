import Intake.BuiltIn.Forms
import Intake.Proofs.Answers

/-!
# The last writer wins

Somebody who fills in a form changes one answer after the other, and hooks fill in others.  The
hooks of the engine look only at the change itself: each has one answer that it fills in, and what
it fills in is made of the name and the value that were changed.  So a session is a list of writes,
and an answer is what was written last under its name, directly or by a hook; or it is what it was
at the start, if nothing was.

* `Hook.Follows` says of a hook that it fills in what a `Filler` says, and nothing else;
* `changeAnswer?_of_follows` is about one change, `changeAnswers?_of_follows` about a session;
* `writeUnder?` is what one change writes to an answer;
* `WasLeft` says of an answer that the last writer won, and `wasLeft_of_session` that this is so;
* `task_session` is the conclusion for the task form.
-/

namespace Intake

/-! ## Writes -/

/-- What is made of the last of some changes of which something is made. -/
def lastOf {α : Type} (make : String → Value → Option α) (changes : List (String × Value)) :
    Option α :=
  changes.reverse.findSome? fun c => make c.1 c.2

/-- An answer is as it **was left** if there is what the last change wrote that wrote anything to
it, or what there was at the start, present or absent, if no change did. -/
def WasLeft (write? : String → Value → Option Value) (changes : List (String × Value))
    (start final : Option Value) : Prop :=
  (∃ before changed value after v, changes = before ++ (changed, value) :: after ∧
    write? changed value = some v ∧ (∀ later ∈ after, write? later.1 later.2 = none) ∧
      final = some v) ∨
    (∀ c ∈ changes, write? c.1 c.2 = none) ∧ final = start

/-- What comes last is what was left. -/
theorem wasLeft_lastOf (write? : String → Value → Option Value) (changes : List (String × Value))
    (start : Option Value) : WasLeft write? changes start ((lastOf write? changes).or start) := by
  unfold lastOf
  cases hlast : changes.reverse.findSome? fun c => write? c.1 c.2 with
  | none =>
    refine .inr ⟨fun c hc => ?_, rfl⟩
    exact List.findSome?_eq_none_iff.mp hlast c (List.mem_reverse.mpr hc)
  | some v =>
    obtain ⟨after, ⟨changed, value⟩, before, hchanges, hwrite, hafter⟩ :=
      List.findSome?_eq_some_iff.mp hlast
    refine .inl ⟨before.reverse, changed, value, after.reverse, v, ?_, hwrite, ?_, rfl⟩
    · rw [← List.reverse_reverse changes, hchanges]
      simp
    · exact fun later hlater => hafter later (List.mem_reverse.mp hlater)

/-- What is looked up last among the pairs that some items give is what the last item gives that has
the key. -/
theorem lookup_reverse_flatMap {α : Type} (pairs : α → List (String × Value)) (items : List α)
    (name : String) :
    (items.flatMap pairs).reverse.lookup name =
      items.reverse.findSome? fun item => (pairs item).reverse.lookup name := by
  induction items with
  | nil => rfl
  | cons item rest ih =>
    rw [List.flatMap_cons, List.reverse_append, List.lookup_append, ih, List.reverse_cons,
      List.findSome?_append]
    simp

/-! ## Hooks that fill in -/

/-- What a hook fills in: the name of an answer, and what is written there, if anything, once an
answer has got a new value. -/
structure Filler where
  target : String
  fill? : String → Value → Option Value

/-- What a hook writes for a change. -/
def Filler.writes (f : Filler) (name : String) (value : Value) : List (String × Value) :=
  (f.fill? name value).toList.map fun v => (f.target, v)

/-- A filler writes nothing but its own answer. -/
theorem Filler.lookup_writes (f : Filler) (name changed : String) (value : Value) :
    (f.writes changed value).reverse.lookup name =
      if f.target = name then f.fill? changed value else none := by
  unfold writes
  cases f.fill? changed value with
  | none => simp
  | some v => exact Answers.lookup_singleton f.target name v

/-- A hook **follows** a filler if it writes what that says, on all answers. -/
def Hook.Follows (hook : Hook) (f : Filler) : Prop :=
  ∀ name value a, runHook? name value a hook = .ok (a.update (f.writes name value))

/-- Keeps the number of items of one answer in another. -/
def Filler.count (source target : String) : Filler where
  target := target
  fill? name value := if name = source then some (.int value.itemCount) else none

/-- Takes the key out of a ticket's link into another answer. -/
def Filler.ticket (source target : String) : Filler where
  target := target
  fill? name value := if name = source then value.ticketKey?.map .text else none

/-- A patch of one answer writes just that. -/
theorem applyPatch?_patchOf (a : Answers) (name : String) (value : Value) :
    applyPatch? a (patchOf name value) = .ok (a.update [(name, value)]) := rfl

/-- A hook that counts follows its filler. -/
theorem follows_countHook (source target : String) :
    Hook.Follows (countHook source target) (.count source target) := by
  intro name value a
  unfold runHook? countHook Filler.writes Filler.count
  by_cases hname : name = source
  · simp only [hname, if_true]
    exact applyPatch?_patchOf a target _
  · simp only [hname, if_false]
    rfl

/-- A hook that takes keys out of links follows its filler. -/
theorem follows_ticketHook (source target : String) :
    Hook.Follows (ticketHook source target) (.ticket source target) := by
  intro name value a
  unfold runHook? ticketHook Filler.writes Filler.ticket
  by_cases hname : name = source
  · simp only [hname, if_true]
    cases value.ticketKey? with
    | none => rfl
    | some key => exact applyPatch?_patchOf a target _
  · simp only [hname, if_false]
    rfl

/-! ## Sessions -/

/-- What a change writes: the answer itself, and then what the hooks fill in. -/
def changeWrites (fillers : List Filler) (name : String) (value : Value) : List (String × Value) :=
  (name, value) :: fillers.flatMap fun f => f.writes name value

/-- The answers after changes that were made one after the other. -/
def changeAnswers? (answers : Answers) (changes : List (String × Value)) (hooks : List Hook) :
    Except Fault Answers :=
  changes.foldlM (fun a c => changeAnswer? a c.1 c.2 hooks) answers

section Session

variable {hooks : List Hook} {fillers : List Filler}

/-- **One change** writes the answer and what the hooks fill in. -/
theorem changeAnswer?_of_follows (h : List.Forall₂ Hook.Follows hooks fillers) (a : Answers)
    (name : String) (value : Value) :
    changeAnswer? a name value hooks = .ok (a.update (changeWrites fillers name value)) := by
  have hrest : ∀ a : Answers, hooks.foldlM (runHook? name value) a =
      .ok (a.update (fillers.flatMap fun f => f.writes name value)) := by
    induction h with
    | nil => exact fun a => rfl
    | @cons hook f hooks fillers hfollows _ ih =>
      intro a
      rw [List.foldlM_cons, hfollows name value a, List.flatMap_cons, Answers.update_append]
      exact ih _
  exact hrest (a.set name value)

/-- **A session** writes what its changes write, one after the other. -/
theorem changeAnswers?_of_follows (h : List.Forall₂ Hook.Follows hooks fillers) (a : Answers)
    (changes : List (String × Value)) :
    changeAnswers? a changes hooks =
      .ok (a.update (changes.flatMap fun c => changeWrites fillers c.1 c.2)) := by
  unfold changeAnswers?
  induction changes generalizing a with
  | nil => rfl
  | cons c rest ih =>
    rw [List.foldlM_cons, changeAnswer?_of_follows h, List.flatMap_cons, Answers.update_append]
    exact ih _

/-- What one change writes under a name: what the last hook fills in there that fills in anything,
or else the new value itself. -/
def writeUnder? (fillers : List Filler) (name changed : String) (value : Value) : Option Value :=
  (fillers.reverse.findSome? fun f => if f.target = name then f.fill? changed value else none).or
    (if changed = name then some value else none)

/-- That is the last of the writes of the change. -/
theorem lookup_changeWrites (fillers : List Filler) (name changed : String) (value : Value) :
    (changeWrites fillers changed value).reverse.lookup name =
      writeUnder? fillers name changed value := by
  rw [changeWrites, List.reverse_cons, List.lookup_append, lookup_reverse_flatMap,
    Answers.lookup_singleton]
  simp only [Filler.lookup_writes, writeUnder?]

/-- **The last writer wins.**  A session comes to an end, and every answer is as it was left. -/
theorem wasLeft_of_session (h : List.Forall₂ Hook.Follows hooks fillers) (start : Answers)
    (changes : List (String × Value)) :
    ∃ final, changeAnswers? start changes hooks = .ok final ∧ ∀ name,
      WasLeft (writeUnder? fillers name) changes (start.get? name) (final.get? name) := by
  refine ⟨_, changeAnswers?_of_follows h start changes, fun name => ?_⟩
  rw [Answers.get?_update, lookup_reverse_flatMap]
  simp only [lookup_changeWrites]
  exact wasLeft_lastOf (writeUnder? fillers name) changes (start.get? name)

end Session

/-! ## The task form -/

/-- What the hooks of the task form fill in. -/
def taskFillers : List Filler :=
  [.ticket "jiraLink" "taskNumber", .count "deliverables" "deliverablesCount"]

/-- The hooks of the task form fill in the key of the link and the number of deliverables. -/
theorem follows_taskHooks : List.Forall₂ Hook.Follows BuiltIn.taskHooks taskFillers :=
  .cons (follows_ticketHook _ _) (.cons (follows_countHook _ _) .nil)

section Task

variable (changed : String) (value : Value)

/-- What writes the number of deliverables: an entry of its own, or the deliverables. -/
theorem writeUnder?_deliverablesCount :
    writeUnder? taskFillers "deliverablesCount" changed value =
      if changed = "deliverablesCount" then some value
      else if changed = "deliverables" then some (.int value.itemCount) else none := by
  unfold writeUnder? taskFillers Filler.ticket Filler.count
  by_cases hitems : changed = "deliverables"
  · simp [hitems]
  · simp [hitems]

/-- What writes the task's number: an entry of its own, or a link with a key. -/
theorem writeUnder?_taskNumber :
    writeUnder? taskFillers "taskNumber" changed value =
      if changed = "taskNumber" then some value
      else if changed = "jiraLink" then value.ticketKey?.map .text else none := by
  unfold writeUnder? taskFillers Filler.ticket Filler.count
  by_cases hlink : changed = "jiraLink"
  · simp [hlink]
  · simp [hlink]

/-- Any other answer is written by an entry of its own alone. -/
theorem writeUnder?_of_ne {name : String} (hcount : name ≠ "deliverablesCount")
    (hnumber : name ≠ "taskNumber") :
    writeUnder? taskFillers name changed value = if changed = name then some value else none := by
  simp [writeUnder?, taskFillers, Filler.ticket, Filler.count, Ne.symm hcount, Ne.symm hnumber]

end Task

/-- **A session with the task form** comes to an end, whatever is changed and to what.

* The number of deliverables is as it was left by the last change of it or of the deliverables,
  which makes it the number of their items.
* The task's number is as it was left by the last change of it or of the link to one with a key,
  which makes it that key.
* Any other answer is as it was left by the last change of it.

What nothing has written is as it was at the start, or absent as it was. -/
theorem task_session (start : Answers) (changes : List (String × Value)) :
    ∃ final, changeAnswers? start changes BuiltIn.taskHooks = .ok final ∧
      WasLeft (fun changed value =>
          if changed = "deliverablesCount" then some value
          else if changed = "deliverables" then some (.int value.itemCount) else none)
        changes (start.get? "deliverablesCount") (final.get? "deliverablesCount") ∧
      WasLeft (fun changed value =>
          if changed = "taskNumber" then some value
          else if changed = "jiraLink" then value.ticketKey?.map .text else none)
        changes (start.get? "taskNumber") (final.get? "taskNumber") ∧
      ∀ name, name ≠ "deliverablesCount" → name ≠ "taskNumber" →
        WasLeft (fun changed value => if changed = name then some value else none)
          changes (start.get? name) (final.get? name) := by
  obtain ⟨final, hfinal, hleft⟩ := wasLeft_of_session follows_taskHooks start changes
  refine ⟨final, hfinal, ?_, ?_, fun name hcount hnumber => ?_⟩
  · rw [← funext₂ writeUnder?_deliverablesCount]
    exact hleft "deliverablesCount"
  · rw [← funext₂ writeUnder?_taskNumber]
    exact hleft "taskNumber"
  · rw [← funext₂ fun changed value => writeUnder?_of_ne changed value hcount hnumber]
    exact hleft name

end Intake
