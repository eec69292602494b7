import Intake.Form.Editing
import Intake.Proofs.Fault

/-!
# Hooks that break

When an answer has changed the hooks run one after the other, each on the answers as the ones before
it left them.  So what a hook does to a change is decided at its turn.  It fails, and is passed
over, if the fault has a wording; or it gives something, which is written if it reads as a patch.
What does not read as one ends the change: a hook that gives a number blocks editing, and one that
gives a list of pairs is heard.

Answers are written under texts.  What a patch has under anything else is out of account here, so
what is said of leaving hooks out is said of those whose patches name texts (`Value.NamesTexts`).

* `Value.ReadsAsPatch` are the values that can be written, by `exists_applyPatch?_iff`;
* `exists_changeAnswer?_iff` says when a change comes to an end;
* `changeAnswer?_insert_iff` says when a hook can as well be left out;
* `broken_hooks_iff` is the conclusion, and `broken_hook_blocks` a hook that blocks editing.
-/

namespace Intake

/-! ## What can be written -/

/-- A value **reads as a patch** if it says nothing, or is a dictionary, or consists of pairs, and
can be looked up by its keys. -/
inductive Value.ReadsAsPatch : Value → Prop where
  | silent {v : Value} (hsilent : v.truthy = false) : ReadsAsPatch v
  | dict {entries : List (Value × Value)} (hkeys : ∀ e ∈ entries, e.1.unhashable? = none) :
      ReadsAsPatch (.dict entries)
  | pairs {v : Value} {items : List Value} (hkind : v.kind ≠ .dict) (hitems : v.items? = .ok items)
      (hpairs : ∀ item ∈ items, ∃ key value,
        item.items? = .ok [key, value] ∧ key.unhashable? = none) : ReadsAsPatch v

/-- A patch **names texts** if all its keys are texts. -/
structure Value.NamesTexts (p : Value) : Prop where
  keys : ∀ entries, p = .dict entries → ∀ e ∈ entries, ∃ s, e.1 = .text s
  pairs : p.kind ≠ .dict → ∀ items, p.items? = .ok items → ∀ item ∈ items, ∀ key value,
    item.items? = .ok [key, value] → ∃ s, key = .text s

section Fold

variable {ε α β : Type} {f : β → α → Except ε β}

/-- A fold comes to an end exactly if no step fails that is reached. -/
theorem exists_foldlM_iff {items : List α} {start : β} :
    (∃ b, items.foldlM f start = .ok b) ↔
      ∀ before item after, items = before ++ item :: after →
        ∀ a, before.foldlM f start = .ok a → ∃ b, f a item = .ok b := by
  induction items generalizing start with
  | nil =>
    refine iff_of_true ⟨start, rfl⟩ fun before item after heq => ?_
    simp at heq
  | cons first rest ih =>
    constructor
    · rintro ⟨b, hb⟩ before item after heq a ha
      obtain ⟨next, hnext, hrest⟩ := exists_of_bind_eq_ok (List.foldlM_cons.symm.trans hb)
      cases before with
      | nil =>
        cases heq
        cases ha
        exact ⟨next, hnext⟩
      | cons _ before =>
        cases heq
        obtain ⟨next', hnext', ha⟩ := exists_of_bind_eq_ok (List.foldlM_cons.symm.trans ha)
        cases hnext.symm.trans hnext'
        exact ih.mp ⟨b, hrest⟩ before item after rfl a ha
    · intro h
      obtain ⟨next, hnext⟩ := h [] first rest rfl start rfl
      have hopen : ∀ items : List α, (first :: items).foldlM f start = items.foldlM f next := by
        intro items
        rw [List.foldlM_cons, hnext]
        rfl
      rw [hopen]
      refine ih.mpr fun before item after heq a ha => ?_
      exact h (first :: before) item after (by rw [heq, List.cons_append]) a
        ((hopen before).trans ha)

/-- Where it depends on the items alone which steps fail, a fold comes to an end exactly if it can
go over every item. -/
theorem exists_foldlM_iff_forall {P : α → Prop} (hstep : ∀ b a, (∃ c, f b a = .ok c) ↔ P a)
    {items : List α} {start : β} :
    (∃ b, items.foldlM f start = .ok b) ↔ ∀ a ∈ items, P a := by
  induction items generalizing start with
  | nil => exact iff_of_true ⟨start, rfl⟩ (by simp)
  | cons first rest ih =>
    rw [List.forall_mem_cons, List.foldlM_cons, ← hstep start first]
    constructor
    · rintro ⟨b, hb⟩
      obtain ⟨next, hnext, hrest⟩ := exists_of_bind_eq_ok hb
      exact ⟨⟨next, hnext⟩, ih.mp ⟨b, hrest⟩⟩
    · rintro ⟨⟨next, hnext⟩, hrest⟩
      rw [hnext]
      exact ih.mpr hrest

end Fold

section Patch

variable {a : Answers}

/-- An entry can be written if its key can be looked up. -/
theorem exists_patchOne?_iff (a : Answers) (entry : Value × Value) :
    (∃ b, patchOne? a entry = .ok b) ↔ entry.1.unhashable? = none := by
  obtain ⟨key, value⟩ := entry
  unfold patchOne?
  cases key with
  | text name => exact iff_of_true ⟨_, rfl⟩ rfl
  | _ =>
    dsimp only
    split
    · rename_i kind hkind
      simp [hkind]
    · rename_i hkey
      exact iff_of_true ⟨_, rfl⟩ hkey

/-- An item can be written if it is a pair and its key can be looked up. -/
theorem exists_patchItem?_iff (a : Answers) (item : Value × Nat) :
    (∃ b, patchItem? a item = .ok b) ↔
      ∃ key value, item.1.items? = .ok [key, value] ∧ key.unhashable? = none := by
  have hpair : ∀ entry, patchPair? item.2 item.1 = .ok entry ↔
      item.1.items? = .ok [entry.1, entry.2] := by
    intro entry
    unfold patchPair?
    split
    · rename_i hitems
      simp [hitems]
    · rename_i key value hitems
      simp [hitems, Prod.ext_iff]
    · rename_i parts hparts hitems
      rw [hitems]
      refine iff_of_false nofun fun heq => ?_
      exact hparts _ _ (Except.ok.inj heq)
  constructor
  · rintro ⟨b, hb⟩
    obtain ⟨entry, hentry, hone⟩ := exists_of_bind_eq_ok hb
    exact ⟨entry.1, entry.2, (hpair entry).mp hentry, (exists_patchOne?_iff a entry).mp ⟨b, hone⟩⟩
  · rintro ⟨key, value, hitems, hkey⟩
    obtain ⟨b, hb⟩ := (exists_patchOne?_iff a (key, value)).mpr hkey
    refine ⟨b, ?_⟩
    rw [patchItem?, (hpair (key, value)).mpr hitems]
    exact hb

/-- A dictionary can be written if it can be looked up by its keys. -/
theorem exists_patchAll?_dict_iff (a : Answers) (entries : List (Value × Value)) :
    (∃ b, patchAll? a (.dict entries) = .ok b) ↔ ∀ e ∈ entries, e.1.unhashable? = none :=
  exists_foldlM_iff_forall exists_patchOne?_iff

/-- Anything else can be written if it consists of pairs that can be. -/
theorem exists_patchAll?_iff (a : Answers) {p : Value} (hkind : p.kind ≠ .dict) :
    (∃ b, patchAll? a p = .ok b) ↔
      ∃ items, p.items? = .ok items ∧ ∀ item ∈ items, ∃ key value,
        item.items? = .ok [key, value] ∧ key.unhashable? = none := by
  have hpairs : ∀ items : List Value, (∃ b, items.zipIdx.foldlM patchItem? a = .ok b) ↔
      ∀ item ∈ items, ∃ key value, item.items? = .ok [key, value] ∧ key.unhashable? = none := by
    intro items
    rw [exists_foldlM_iff_forall exists_patchItem?_iff]
    conv_rhs => rw [← List.zipIdx_map_fst 0 items, List.forall_mem_map]
  have hopen : patchAll? a p = p.items? >>= fun items => items.zipIdx.foldlM patchItem? a := by
    cases p with
    | dict => exact absurd rfl hkind
    | _ => rfl
  rw [hopen]
  constructor
  · rintro ⟨b, hb⟩
    obtain ⟨items, hitems, hb⟩ := exists_of_bind_eq_ok hb
    exact ⟨items, hitems, (hpairs items).mp ⟨b, hb⟩⟩
  · rintro ⟨items, hitems, hitem⟩
    rw [hitems]
    exact (hpairs items).mpr hitem

/-- **What can be written** is what reads as a patch, whatever answers it is written into. -/
theorem exists_applyPatch?_iff {p : Value} :
    (∃ b, applyPatch? a p = .ok b) ↔ p.ReadsAsPatch := by
  unfold applyPatch?
  cases htruthy : p.truthy with
  | false => exact iff_of_true ⟨a, rfl⟩ (.silent htruthy)
  | true =>
    rw [if_pos rfl]
    constructor
    · intro h
      by_cases hkind : p.kind = .dict
      · cases p with
        | dict entries => exact .dict ((exists_patchAll?_dict_iff a entries).mp h)
        | _ => cases hkind
      · obtain ⟨items, hitems, hpairs⟩ := (exists_patchAll?_iff a hkind).mp h
        exact .pairs hkind hitems hpairs
    · intro h
      cases h with
      | silent hsilent => cases hsilent.symm.trans htruthy
      | dict hkeys => exact (exists_patchAll?_dict_iff a _).mpr hkeys
      | pairs hkind hitems hpairs => exact (exists_patchAll?_iff a hkind).mpr ⟨_, hitems, hpairs⟩

end Patch

/-! ## Hooks -/

section Hooks

variable {answers a : Answers} {name : String} {value : Value} {hook : Hook}

/-- A hook that fails is passed over. -/
theorem runHook?_of_error {fault : Fault} (h : hook name value a = .error fault) :
    runHook? name value a hook = fault.passOver a := by
  rw [runHook?, h]

/-- What a hook gives is written. -/
theorem runHook?_of_ok {p : Value} (h : hook name value a = .ok p) :
    runHook? name value a hook = applyPatch? a p := by
  rw [runHook?, h]

/-- A hook comes to an end exactly if what it gives reads as a patch, and its fault, if it fails, is
worded. -/
theorem exists_runHook?_iff :
    (∃ b, runHook? name value a hook = .ok b) ↔
      (∀ p, hook name value a = .ok p → p.ReadsAsPatch) ∧
      ∀ fault, hook name value a = .error fault → fault.IsWorded := by
  cases h : hook name value a with
  | error fault =>
    rw [runHook?_of_error h]
    simp [Fault.passOver_eq_ok_iff]
  | ok p =>
    rw [runHook?_of_ok h, exists_applyPatch?_iff]
    simp

/-- A hook leaves answers alone exactly if it fails with a fault that is worded, or if it changes
nothing to write what it gives. -/
theorem runHook?_eq_self_iff :
    runHook? name value a hook = .ok a ↔
      (∀ p, hook name value a = .ok p → applyPatch? a p = .ok a) ∧
      ∀ fault, hook name value a = .error fault → fault.IsWorded := by
  cases h : hook name value a with
  | error fault =>
    rw [runHook?_of_error h]
    simp [Fault.passOver_eq_ok_iff]
  | ok p =>
    rw [runHook?_of_ok h]
    simp

/-- Hooks go on from the answers that the ones before them left. -/
theorem changeAnswer?_append (before after : List Hook) :
    changeAnswer? answers name value (before ++ after) =
      changeAnswer? answers name value before >>= fun a =>
        after.foldlM (runHook? name value) a :=
  List.foldlM_append

/-- **When a change comes to an end**: what each hook gives at its turn reads as a patch, and each
that fails words its fault. -/
theorem exists_changeAnswer?_iff {hooks : List Hook} :
    (∃ b, changeAnswer? answers name value hooks = .ok b) ↔
      ∀ before hook after, hooks = before ++ hook :: after →
        ∀ a, changeAnswer? answers name value before = .ok a →
          (∀ p, hook name value a = .ok p → p.ReadsAsPatch) ∧
          ∀ fault, hook name value a = .error fault → fault.IsWorded := by
  refine exists_foldlM_iff.trans (forall₃_congr fun before hook after => ?_)
  refine forall_congr' fun _ => forall_congr' fun a => ?_
  rw [exists_runHook?_iff]
  rfl

/-- A hook can be left out, whatever hooks follow, exactly if it leaves the answers alone at its
turn. -/
theorem changeAnswer?_insert_iff_runHook? {before : List Hook} :
    (∀ after, changeAnswer? answers name value (before ++ hook :: after) =
        changeAnswer? answers name value (before ++ after)) ↔
      ∀ a, changeAnswer? answers name value before = .ok a →
        runHook? name value a hook = .ok a := by
  cases hbefore : changeAnswer? answers name value before with
  | error fault =>
    refine iff_of_true (fun after => ?_) nofun
    rw [changeAnswer?_append, changeAnswer?_append, hbefore]
    rfl
  | ok a =>
    have hopen : ∀ hooks, changeAnswer? answers name value (before ++ hooks) =
        hooks.foldlM (runHook? name value) a := by
      intro hooks
      rw [changeAnswer?_append, hbefore]
      rfl
    simp only [hopen, List.foldlM_cons]
    constructor
    · rintro h _ ⟨⟩
      -- no hook follows, so what is left is the answers themselves
      have hlast := h []
      cases hrun : runHook? name value a hook with
      | error fault =>
        rw [hrun] at hlast
        cases hlast
      | ok b =>
        rw [hrun] at hlast
        exact hlast
    · intro h after
      rw [h a rfl]
      rfl

/-- **When a hook can be left out**, whatever hooks follow: at its turn it fails and words its
fault, or it changes nothing to write what it gives. -/
theorem changeAnswer?_insert_iff {before : List Hook} :
    (∀ after, changeAnswer? answers name value (before ++ hook :: after) =
        changeAnswer? answers name value (before ++ after)) ↔
      ∀ a, changeAnswer? answers name value before = .ok a →
        (∀ p, hook name value a = .ok p → applyPatch? a p = .ok a) ∧
        ∀ fault, hook name value a = .error fault → fault.IsWorded := by
  rw [changeAnswer?_insert_iff_runHook?]
  refine forall_congr' fun a => ?_
  rw [runHook?_eq_self_iff]

/-- A hook is **broken** at its turn if it fails or gives something that is no dictionary. -/
def Hook.IsBrokenOn (hook : Hook) (name : String) (value : Value) (a : Answers) : Prop :=
  ∀ entries, hook name value a ≠ .ok (.dict entries)

/-- A hook is **discreet** at its turn if what it gives, if anything, says nothing or is a
dictionary that can be looked up by its keys, and it words its fault if it fails. -/
structure Hook.IsDiscreetOn (hook : Hook) (name : String) (value : Value) (a : Answers) : Prop where
  gives : ∀ p, hook name value a = .ok p →
    p.truthy = false ∨ ∃ entries, p = .dict entries ∧ ∀ e ∈ entries, e.1.unhashable? = none
  words : ∀ fault, hook name value a = .error fault → fault.IsWorded

/-- What a discreet hook gives reads as a patch. -/
theorem Hook.IsDiscreetOn.readsAsPatch (h : hook.IsDiscreetOn name value a) {p : Value}
    (hp : hook name value a = .ok p) : p.ReadsAsPatch := by
  rcases h.gives p hp with hsilent | ⟨entries, rfl, hkeys⟩
  · exact .silent hsilent
  · exact .dict hkeys

/-- It changes nothing to write what a hook gives that is broken and discreet. -/
theorem Hook.IsDiscreetOn.applyPatch?_eq_self (h : hook.IsDiscreetOn name value a)
    (hbroken : hook.IsBrokenOn name value a) {p : Value} (hp : hook name value a = .ok p) :
    applyPatch? a p = .ok a := by
  rcases h.gives p hp with hsilent | ⟨entries, rfl, -⟩
  · rw [applyPatch?, hsilent, if_neg Bool.false_ne_true]
  · exact absurd hp (hbroken entries)

end Hooks

/-- **What broken hooks do to a change** is decided at their turn:

* the change comes to an end exactly if whatever the hooks give reads as a patch and whatever fault
  comes up in them is worded, so that a hook that fails blocks it only if its fault is not, and one
  that gives a number always does;
* a hook whose patches name texts can be left out, whatever hooks follow, exactly if it fails with a
  fault that is worded or if it changes nothing to write what it gives;
* so if no hook gives anything but dictionaries and what says nothing, and all word their faults,
  the change comes to an end, and a hook that is broken can be left out. -/
theorem broken_hooks_iff (answers : Answers) (name : String) (value : Value) :
    (∀ hooks, (∃ b, changeAnswer? answers name value hooks = .ok b) ↔
      ∀ before hook after, hooks = before ++ hook :: after → ∀ a,
        changeAnswer? answers name value before = .ok a →
          (∀ p, hook name value a = .ok p → p.ReadsAsPatch) ∧
          ∀ fault, hook name value a = .error fault → fault.IsWorded) ∧
    (∀ before hook, (∀ a, changeAnswer? answers name value before = .ok a →
        ∀ p, hook name value a = .ok p → p.NamesTexts) →
      ((∀ after, changeAnswer? answers name value (before ++ hook :: after) =
        changeAnswer? answers name value (before ++ after)) ↔
      ∀ a, changeAnswer? answers name value before = .ok a →
        (∀ p, hook name value a = .ok p → applyPatch? a p = .ok a) ∧
        ∀ fault, hook name value a = .error fault → fault.IsWorded)) ∧
    ∀ hooks, (∀ before hook after, hooks = before ++ hook :: after → ∀ a,
        changeAnswer? answers name value before = .ok a → hook.IsDiscreetOn name value a) →
      (∃ b, changeAnswer? answers name value hooks = .ok b) ∧
      ∀ before hook after, hooks = before ++ hook :: after →
        (∀ a, changeAnswer? answers name value before = .ok a → hook.IsBrokenOn name value a) →
        changeAnswer? answers name value hooks =
          changeAnswer? answers name value (before ++ after) := by
  refine ⟨fun _ => exists_changeAnswer?_iff, fun _ _ _ => changeAnswer?_insert_iff, ?_⟩
  intro hooks hdiscreet
  constructor
  · refine exists_changeAnswer?_iff.mpr fun before hook after hhooks a ha => ?_
    have hown := hdiscreet before hook after hhooks a ha
    exact ⟨fun p hp => hown.readsAsPatch hp, hown.words⟩
  · rintro before hook after rfl hbroken
    refine changeAnswer?_insert_iff.mpr (fun a ha => ?_) after
    have hown := hdiscreet before hook after rfl a ha
    exact ⟨fun p hp => hown.applyPatch?_eq_self (hbroken a ha) hp, hown.words⟩

/-- **A broken hook blocks editing.**  A hook that gives a number ends the change of an answer that
ends well without it, and so does one that fails without wording its fault; and one that gives a
list of a pair writes an answer. -/
theorem broken_hook_blocks :
    let numberHook : Hook := fun _ _ _ => .ok (.int 5)
    let pairHook : Hook := fun _ _ _ => .ok (.list [.list [.text "other", .int 5]])
    let muteHook : Hook := fun _ _ _ => .error (.hostRaised "KeyError" (.fails .tooManyDigits))
    (∀ a, numberHook.IsBrokenOn "note" .null a ∧ pairHook.IsBrokenOn "note" .null a ∧
        muteHook.IsBrokenOn "note" .null a) ∧
      (∃ b, changeAnswer? .empty "note" .null [] = .ok b ∧ b.get? "other" = none) ∧
      changeAnswer? .empty "note" .null [numberHook] = .error (.notIterable .int) ∧
      (∃ b, changeAnswer? .empty "note" .null [pairHook] = .ok b ∧
        b.get? "other" = some (.int 5)) ∧
      changeAnswer? .empty "note" .null [muteHook] = .error .tooManyDigits := by
  refine ⟨fun a => ⟨nofun, nofun, nofun⟩, ⟨_, rfl, rfl⟩, rfl, ⟨_, rfl, rfl⟩, rfl⟩

end Intake
