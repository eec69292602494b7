import Intake.Proofs.Answers
import Intake.Proofs.Fault
import Intake.Proofs.Form.Convergence

/-!
# What sanitizing keeps

Sanitized answers are those of the fields, in order, whatever was entered; and any demand on the
values of fields holds of them if it holds of what cleaning gives, and of whatever settling
writes.

* `Meets` says that answers are those of the fields and meet a demand, each by its own field;
* `IsKept` says of a demand that settling writes nothing into a field that does not meet it;
* `Meets.settle` is about settling one field, `Meets.settlePass` and `Meets.runPasses` are about
  passes;
* `meets_of_sanitize` is the conclusion for sanitized answers;
* `Field.clean?_get_of_sanitize` says that only cleaning touches a field that depends on no other.
-/

namespace Intake

/-- Answers **meet** a demand if they are those of the fields, in order, and every answer meets
what is demanded of its field. -/
structure Meets (demand : Field → Value → Prop) (fields : List Field) (a : Answers) : Prop where
  keys : a.keys = fieldNames fields
  each : ∀ d ∈ fields, demand d (a.get d.name)

/-- A demand is **kept** if, where answers meet it, whatever settling writes into a field meets
it too. -/
def IsKept (host : Host) (demand : Field → Value → Prop) (fields : List Field) : Prop :=
  ∀ a, Meets demand fields a → ∀ d ∈ fields, ∀ v, d.settled? host a = .ok (some v) → demand d v

section Passes

variable {host : Host} {demand : Field → Value → Prop} {fields : List Field} {a b : Answers}

/-- A demand that lists are met with is met by what is read under any name, also under one that
no field has. -/
theorem Meets.get {P : Value → Prop} (h : Meets demand fields a)
    (hdemand : ∀ d ∈ fields, ∀ v, demand d v → P v) (hnull : P .null) (name : String) :
    P (a.get name) := by
  by_cases hname : name ∈ fieldNames fields
  · obtain ⟨d, hd, rfl⟩ := List.mem_map.mp hname
    exact hdemand d hd _ (h.each d hd)
  · rw [Answers.get_of_not_mem (by rwa [h.keys])]
    exact hnull

/-- Settling a field leaves a demand met that is kept. -/
theorem Meets.settle {d : Field} {changed : Bool} (h : Meets demand fields a)
    (hkept : IsKept host demand fields) (hnames : (fieldNames fields).Nodup) (hd : d ∈ fields)
    (hsettle : d.settle host a = .ok (b, changed)) : Meets demand fields b := by
  rcases Field.settle_cases hsettle with ⟨rfl, -, -⟩ | ⟨v, hv, -, rfl, -⟩
  · exact h
  have hname : d.name ∈ fieldNames fields := List.mem_map_of_mem hd
  constructor
  · rw [Answers.keys_set, h.keys, if_pos hname]
  · intro e he
    rw [Answers.get_set]
    split
    · rename_i hsame
      rw [← List.inj_on_of_nodup_map hnames hd he hsame]
      exact hkept a h d hd v hv
    · exact h.each e he

/-- A pass over some fields leaves a demand met that is kept. -/
theorem Meets.settlePass {todo : List Field} {changed : Bool} (h : Meets demand fields a)
    (hkept : IsKept host demand fields) (hnames : (fieldNames fields).Nodup)
    (htodo : ∀ d ∈ todo, d ∈ fields) (hpass : settlePass host a todo = .ok (b, changed)) :
    Meets demand fields b := by
  induction todo generalizing a changed with
  | nil =>
    cases hpass
    exact h
  | cons d rest ih =>
    obtain ⟨between, first, later, hfirst, hlater, -⟩ := settlePass_cons hpass
    obtain ⟨hd, hrest⟩ := List.forall_mem_cons.mp htodo
    exact ih (h.settle hkept hnames hd hfirst) hrest hlater

/-- Any number of passes leaves a demand met that is kept. -/
theorem Meets.runPasses {rounds : Nat} (h : Meets demand fields a)
    (hkept : IsKept host demand fields) (hnames : (fieldNames fields).Nodup)
    (hrun : runPasses host fields rounds a = .ok b) : Meets demand fields b := by
  induction rounds generalizing a with
  | zero =>
    cases hrun
    exact h
  | succ rounds ih =>
    obtain ⟨between, changed, hpass, hlater⟩ := runPasses_succ hrun
    exact ih (h.settlePass hkept hnames (fun _ hd => hd) hpass) hlater

end Passes

variable {host : Host} {demand : Field → Value → Prop} {fields : List Field}

/-- Cleaned answers meet a demand if what the fields make of the raw ones does. -/
theorem meets_of_cleanAll {raw cleaned : Answers} (hnames : (fieldNames fields).Nodup)
    (hclean : ∀ d ∈ fields, ∀ w, d.clean? host (raw.get d.name) = .ok w → demand d w)
    (h : cleanAll host raw fields = .ok cleaned) : Meets demand fields cleaned := by
  obtain ⟨entries, hentries, h⟩ := exists_of_bind_eq_ok h
  cases h
  have hall : List.Forall₂ (fun (d : Field) (e : String × Value) =>
      e.1 = d.name ∧ d.clean? host (raw.get d.name) = .ok e.2) fields entries := by
    refine (forall₂_of_mapM_eq_ok hentries).imp fun d e he => ?_
    obtain ⟨w, hw, he⟩ := exists_of_bind_eq_ok he
    cases he
    exact ⟨rfl, hw⟩
  have hkeys : entries.map Prod.fst = fieldNames fields :=
    (map_eq_map_of_forall₂ (fun _ _ he => he.1.symm) hall).symm
  have hentries := Answers.entries_ofEntries (hkeys ▸ hnames)
  constructor
  · rw [Answers.keys, hentries, hkeys]
  · intro d hd
    obtain ⟨⟨name, w⟩, hmem, hname, hw⟩ := exists_of_mem_forall₂ hall hd
    obtain rfl : name = d.name := hname
    rw [Answers.get_of_mem (hentries.symm ▸ hmem)]
    exact hclean d hd w hw

/-- Cleaned answers are what the fields make of the raw ones. -/
theorem meets_clean?_of_cleanAll {raw cleaned : Answers} (hnames : (fieldNames fields).Nodup)
    (h : cleanAll host raw fields = .ok cleaned) :
    Meets (fun d w => d.clean? host (raw.get d.name) = .ok w) fields cleaned :=
  meets_of_cleanAll hnames (fun _ _ _ hw => hw) h

/-- **What sanitized answers meet**: a demand that is kept, and that what the fields make of the
raw answers meets. -/
theorem meets_of_sanitize {raw s : Answers} (hnames : (fieldNames fields).Nodup)
    (hkept : IsKept host demand fields)
    (hclean : ∀ d ∈ fields, ∀ w, d.clean? host (raw.get d.name) = .ok w → demand d w)
    (h : sanitize host fields raw = .ok s) : Meets demand fields s := by
  obtain ⟨cleaned, hcleaned, hreconcile⟩ := exists_of_bind_eq_ok h
  rw [reconcile_eq_runPasses] at hreconcile
  exact (meets_of_cleanAll hnames hclean hcleaned).runPasses hkept hnames hreconcile

/-- Sanitized answers are those of the fields, in order. -/
theorem keys_of_sanitize {raw s : Answers} (hnames : (fieldNames fields).Nodup)
    (h : sanitize host fields raw = .ok s) : s.keys = fieldNames fields := by
  have hmeets : Meets (fun _ _ => True) fields s :=
    meets_of_sanitize hnames (fun _ _ _ _ _ _ => trivial) (fun _ _ _ _ => trivial) h
  exact hmeets.keys

/-- **A field that depends on no other** holds, in sanitized answers, what its cleaning makes of
the raw one. -/
theorem Field.clean?_get_of_sanitize {d : Field}
    (hnames : (fieldNames fields).Nodup) (hd : d ∈ fields)
    (hcond : d.condition = none) (hderivation : d.derivation = none) {raw s : Answers}
    (h : sanitize host fields raw = .ok s) :
    d.clean? host (raw.get d.name) = .ok (s.get d.name) := by
  have hfree : ∀ a, d.settled? host a = .ok none := by
    intro a
    rw [settled?, hderivation, hcond]
    rfl
  let demand : Field → Value → Prop := fun e w =>
    e.name = d.name → d.clean? host (raw.get d.name) = .ok w
  have hsame : ∀ e ∈ fields, e.name = d.name → e = d :=
    fun e he hname => List.inj_on_of_nodup_map hnames he hd hname
  have hkept : IsKept host demand fields := by
    intro a _ e he w hw hname
    obtain rfl := hsame e he hname
    rw [hfree a] at hw
    cases hw
  have hclean : ∀ e ∈ fields, ∀ w, e.clean? host (raw.get e.name) = .ok w → demand e w := by
    intro e he w hw hname
    obtain rfl := hsame e he hname
    exact hw
  exact (meets_of_sanitize hnames hkept hclean h).each d hd rfl

end Intake
