import Intake.Fault
import Mathlib.Data.List.Forall2

/-!
# What a computation without a fault went through

A computation that ends well has ended well at every step: these lemmas take such a
computation apart into its steps.  A fault that was passed over on the way had a wording, or the
computation would not have ended well: `Fault.passOver_eq_ok_iff`.
-/

namespace Intake

variable {ε α β : Type}

/-! ## Faults that are passed over -/

/-- A fault **is worded** if its wording can be had. -/
def Fault.IsWorded (f : Fault) : Prop := ∃ text, f.wording? = .ok text

/-- A fault without wording is followed by another. -/
theorem Fault.not_isWorded_iff {f : Fault} : ¬ f.IsWorded ↔ ∃ worse, f.wording? = .error worse := by
  unfold IsWorded
  cases f.wording? with
  | ok text => exact iff_of_false (fun h => h ⟨text, rfl⟩) nofun
  | error worse => exact iff_of_true nofun ⟨worse, rfl⟩

/-- Exactly the faults that are worded are passed over. -/
theorem Fault.passOver_eq_ok_iff {f : Fault} {instead a : α} :
    f.passOver instead = .ok a ↔ f.IsWorded ∧ a = instead := by
  unfold passOver IsWorded
  cases f.wording? with
  | ok text => exact ⟨fun h => ⟨⟨text, rfl⟩, (Except.ok.inj h).symm⟩, fun h => by rw [h.2]; rfl⟩
  | error worse => exact ⟨nofun, fun h => nomatch h.1⟩

/-- A fault that is worded is passed over. -/
theorem Fault.IsWorded.passOver {f : Fault} (h : f.IsWorded) (instead : α) :
    f.passOver instead = .ok instead :=
  passOver_eq_ok_iff.mpr ⟨h, rfl⟩

/-- What comes up in passing a fault over came up in wording it. -/
theorem Fault.passOver_eq_error_iff {f worse : Fault} {instead : α} :
    f.passOver instead = .error worse ↔ f.wording? = .error worse := by
  unfold Fault.passOver
  cases f.wording? with
  | ok text => exact iff_of_false nofun nofun
  | error fault => simp [Except.map]

/-! ## Computations that end well -/

/-- A result that was changed afterwards is the change of a result. -/
theorem exists_of_map_eq_ok {x : Except ε α} {f : α → β} {b : β} (h : x.map f = .ok b) :
    ∃ a, x = .ok a ∧ f a = b := by
  cases x with
  | error e => cases h
  | ok a =>
    cases h
    exact ⟨a, rfl, rfl⟩

/-- What a result is changed into afterwards does not matter to what comes up. -/
theorem map_eq_error_iff {x : Except ε α} {f : α → β} {e : ε} :
    x.map f = .error e ↔ x = .error e := by
  cases x with
  | error e' => simp [Except.map]
  | ok a => exact iff_of_false nofun nofun

/-- A result that took two steps is that of the second, which took the result of the first. -/
theorem exists_of_bind_eq_ok {x : Except ε α} {f : α → Except ε β} {b : β}
    (h : (x >>= f) = .ok b) : ∃ a, x = .ok a ∧ f a = .ok b := by
  cases x with
  | error e => cases h
  | ok a => exact ⟨a, rfl, h⟩

/-- What comes up in two steps comes up in the first one, or in the second if the first has a
result. -/
theorem bind_eq_error_iff {x : Except ε α} {f : α → Except ε β} {e : ε} :
    (x >>= f) = .error e ↔ x = .error e ∨ ∃ a, x = .ok a ∧ f a = .error e := by
  cases x with
  | error e' => simp [bind, Except.bind]
  | ok a => simp [bind, Except.bind]

/-- Results for a list are those for its items, one by one. -/
theorem forall₂_of_mapM_eq_ok {f : α → Except ε β} {items : List α} {results : List β}
    (h : items.mapM f = .ok results) : List.Forall₂ (fun a b => f a = .ok b) items results := by
  induction items generalizing results with
  | nil =>
    cases h
    exact .nil
  | cons a rest ih =>
    rw [List.mapM_cons] at h
    obtain ⟨b, hfirst, h⟩ := exists_of_bind_eq_ok h
    obtain ⟨others, hothers, h⟩ := exists_of_bind_eq_ok h
    cases h
    exact .cons hfirst (ih hothers)

/-- Where there is a result for every item there are results for the list. -/
theorem mapM_eq_ok_of_forall₂ {f : α → Except ε β} {items : List α} {results : List β}
    (h : List.Forall₂ (fun a b => f a = .ok b) items results) :
    items.mapM f = .ok results := by
  induction h with
  | nil => rfl
  | cons hfirst _ ih =>
    rw [List.mapM_cons, hfirst, ih]
    rfl

/-- Where every item has a result there are results for the list. -/
theorem exists_mapM {f : α → Except ε β} {items : List α} (h : ∀ a ∈ items, ∃ b, f a = .ok b) :
    ∃ results, items.mapM f = .ok results := by
  induction items with
  | nil => exact ⟨[], rfl⟩
  | cons a rest ih =>
    obtain ⟨⟨b, hfirst⟩, hrest⟩ := List.forall_mem_cons.mp h
    obtain ⟨others, hothers⟩ := ih hrest
    refine ⟨b :: others, ?_⟩
    rw [List.mapM_cons, hfirst, hothers]
    rfl

/-- **What comes up for a list** comes up for its first item that has no result. -/
theorem mapM_eq_error_iff {f : α → Except ε β} {items : List α} {e : ε} :
    items.mapM f = .error e ↔ ∃ before a after, items = before ++ a :: after ∧
      (∀ earlier ∈ before, ∃ b, f earlier = .ok b) ∧ f a = .error e := by
  induction items with
  | nil => simp [pure, Except.pure]
  | cons first rest ih =>
    rw [List.mapM_cons]
    cases hfirst : f first with
    | error e' =>
      constructor
      · intro h
        cases h
        exact ⟨[], first, rest, rfl, nofun, hfirst⟩
      · rintro ⟨before, a, after, hsplit, hbefore, herror⟩
        cases before with
        | nil =>
          obtain ⟨rfl, -⟩ := List.cons.inj hsplit
          cases hfirst.symm.trans herror
          rfl
        | cons earlier before =>
          obtain ⟨rfl, -⟩ := List.cons.inj hsplit
          obtain ⟨b, hb⟩ := hbefore first List.mem_cons_self
          cases hfirst.symm.trans hb
    | ok b =>
      have hrest : (do let bs ← rest.mapM f; pure (b :: bs)) = .error e ↔
          rest.mapM f = .error e := by
        cases rest.mapM f with
        | error e' => exact Iff.rfl
        | ok bs => exact iff_of_false nofun nofun
      refine hrest.trans (ih.trans ?_)
      constructor
      · rintro ⟨before, a, after, rfl, hbefore, herror⟩
        exact ⟨first :: before, a, after, rfl, List.forall_mem_cons.mpr ⟨⟨b, hfirst⟩, hbefore⟩,
          herror⟩
      · rintro ⟨before, a, after, hsplit, hbefore, herror⟩
        cases before with
        | nil =>
          obtain ⟨rfl, -⟩ := List.cons.inj hsplit
          cases hfirst.symm.trans herror
        | cons earlier before =>
          obtain ⟨-, rfl⟩ := List.cons.inj hsplit
          exact ⟨before, a, after, rfl, (List.forall_mem_cons.mp hbefore).2, herror⟩

/-- Where two lists have the same results item by item they have the same results. -/
theorem mapM_eq_of_forall₂ {γ : Type} {f : α → Except ε γ} {g : β → Except ε γ} {items : List α}
    {others : List β} (h : List.Forall₂ (fun a b => f a = g b) items others) :
    items.mapM f = others.mapM g := by
  induction h with
  | nil => rfl
  | cons hfirst _ ih => rw [List.mapM_cons, List.mapM_cons, hfirst, ih]

/-- What is the same of related items is the same of lists that are related item by item. -/
theorem map_eq_map_of_forall₂ {γ : Type} {R : α → β → Prop} {f : α → γ} {g : β → γ} {items : List α}
    {others : List β} (hR : ∀ a b, R a b → f a = g b) (h : List.Forall₂ R items others) :
    items.map f = others.map g := by
  induction h with
  | nil => rfl
  | cons hfirst _ ih => rw [List.map_cons, List.map_cons, hR _ _ hfirst, ih]

/-- In lists that are related item by item, every item of the first is related to one of the
second. -/
theorem exists_of_mem_forall₂ {R : α → β → Prop} {items : List α} {results : List β}
    (h : List.Forall₂ R items results) {a : α} (ha : a ∈ items) : ∃ b ∈ results, R a b := by
  induction h with
  | nil => simp at ha
  | @cons first b rest others hfirst _ ih =>
    rcases List.mem_cons.mp ha with rfl | ha
    · exact ⟨b, List.mem_cons_self, hfirst⟩
    · obtain ⟨c, hc, hrelated⟩ := ih ha
      exact ⟨c, List.mem_cons_of_mem b hc, hrelated⟩

/-- A relation between two lists item by item follows from another one that implies it for their
items. -/
theorem forall₂_imp_of_mem {R S : α → β → Prop} {as : List α} {bs : List β}
    (h : List.Forall₂ R as bs) (himp : ∀ a ∈ as, ∀ b ∈ bs, R a b → S a b) :
    List.Forall₂ S as bs := by
  induction h with
  | nil => exact .nil
  | cons hfirst _ ih =>
    refine .cons (himp _ List.mem_cons_self _ List.mem_cons_self hfirst) (ih ?_)
    exact fun a ha b hb => himp a (List.mem_cons_of_mem _ ha) b (List.mem_cons_of_mem _ hb)

/-- Lists that are related to one list item by item are related to each other by way of it. -/
theorem forall₂_of_forall₂ {γ : Type} {R : α → γ → Prop} {S : β → γ → Prop} {as : List α}
    {bs : List β} {cs : List γ} (hab : List.Forall₂ R as cs) (hbc : List.Forall₂ S bs cs) :
    List.Forall₂ (fun a b => ∃ c, R a c ∧ S b c) as bs := by
  induction hab generalizing bs with
  | nil =>
    cases hbc
    exact .nil
  | cons hfirst _ ih =>
    cases hbc with
    | cons hfirst' hrest => exact .cons ⟨_, hfirst, hfirst'⟩ (ih hrest)

/-- Every result for a list is that for one of its items. -/
theorem exists_of_mem_mapM {f : α → Except ε β} {items : List α} {results : List β}
    (h : items.mapM f = .ok results) {b : β} (hb : b ∈ results) :
    ∃ a ∈ items, f a = .ok b := by
  have hflip : List.Forall₂ (fun b a => f a = .ok b) results items :=
    (forall₂_of_mapM_eq_ok h).flip
  exact exists_of_mem_forall₂ hflip hb

end Intake
