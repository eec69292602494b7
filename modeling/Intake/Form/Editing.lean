import Intake.Form.Cleaning

/-!
# Editing a form

A form opens with its initial answers: those of the record being edited, else the presets, else
what a fresh field holds.

When an answer changes, **hooks** may change others.  Each sees the answers as the ones before
it left them, and gives a patch, or nothing.  A hook that fails is passed over, if its fault is
worded, so that it cannot block editing.

Answers have texts for names, and what a patch has under another key is left out.

* `initialAnswers` opens a form, `changeAnswer?` makes one change;
* `countHook` keeps a count of a list, `ticketHook` takes the key out of a ticket's link.
-/

namespace Intake

/-- What changes other answers when the answer under a name has got a new value. -/
abbrev Hook := String → Value → Answers → Except Fault Value

/-- The answer that a form opens with in a field. -/
def Field.initial (d : Field) : Value :=
  match d.preset with
  | .null => d.type.freshValue
  | preset => preset

/-- The answers with a field filled in that has none. -/
def fillIn (answers : Answers) (d : Field) : Answers :=
  match answers.get d.name with
  | .null => answers.set d.name d.initial
  | _ => answers

/-- The answers that a form opens with. -/
def initialAnswers (fields : List Field) (given : Answers) : Answers :=
  fields.foldl fillIn given

/-- The key and the value of an item of a patch that is given as a list. -/
def patchPair? (index : Nat) (item : Value) : Except Fault (Value × Value) :=
  match item.items? with
  | .error _ =>
    .error (.badCall ("cannot convert dictionary update sequence element #" ++ toString index ++
      " to a sequence"))
  | .ok [k, v] => .ok (k, v)
  | .ok parts =>
    .error (.badValue ("dictionary update sequence element #" ++ toString index ++
      " has length " ++ toString parts.length ++ "; 2 is required"))

/-- The answers with an entry of a patch written.  A key that is no text names no answer, and what
is under it is left out. -/
def patchOne? (answers : Answers) (entry : Value × Value) : Except Fault Answers :=
  match entry.1 with
  | .text name => .ok (answers.set name entry.2)
  | key =>
    match key.unhashable? with
    | some kind => .error (.unhashable kind)
    | none => .ok answers

/-- The answers with an item of a patch written that is given as a list. -/
def patchItem? (answers : Answers) (item : Value × Nat) : Except Fault Answers := do
  patchOne? answers (← patchPair? item.2 item.1)

/-- The answers with the entries of a dictionary written, or the pairs of a list. -/
def patchAll? (answers : Answers) : Value → Except Fault Answers
  | .dict entries => entries.foldlM patchOne? answers
  | v => do
    let items ← v.items?
    items.zipIdx.foldlM patchItem? answers

/-- The answers with a patch written, unless it says nothing. -/
def applyPatch? (answers : Answers) (patch : Value) : Except Fault Answers :=
  if patch.truthy then patchAll? answers patch else .ok answers

/-- The answers after one hook. -/
def runHook? (name : String) (value : Value) (answers : Answers) (hook : Hook) :
    Except Fault Answers :=
  match hook name value answers with
  | .error f => f.passOver answers
  | .ok patch => applyPatch? answers patch

/-- The answers after one answer has changed. -/
def changeAnswer? (answers : Answers) (name : String) (value : Value) (hooks : List Hook) :
    Except Fault Answers :=
  hooks.foldlM (runHook? name value) (answers.set name value)

/-- A patch of one answer. -/
def patchOf (name : String) (value : Value) : Value := .dict [(.text name, value)]

/-- Keeps the number of items of one answer in another. -/
def countHook (source target : String) : Hook := fun name value _ =>
  .ok (if name = source then patchOf target (.int value.itemCount) else .null)

/-- The key in a ticket's link; there is none in what is not a text. -/
def Value.ticketKey? : Value → Option String
  | .text s => Ticket.keyIn? s
  | _ => none

/-- Takes the key out of a ticket's link into another answer.  A link without a key leaves that
answer alone. -/
def ticketHook (source target : String) : Hook := fun name value _ =>
  .ok (if name = source then
    match value.ticketKey? with
    | some key => patchOf target (.text key)
    | none => .null
  else .null)

end Intake
