import Intake.Form.Record
import Intake.Proofs.Value.Canonical

/-!
# Values that are written alike

Two values are **written alike** if they have the same text.  What that says about them depends
on their sorts: lists are written alike item by item, records entry by entry, and scalars only if
they are the same.  Nothing is said here of values whose text is quoted, for a quoted text may
stand for a text, a day, a set or a function.

* `WrittenAlike.forall₂` is about lists, `WrittenAlike.entries` about records;
* `WrittenAlike.eq_of_isScalar` is about scalars;
* `WrittenAlike.ofOption_cases` is about what may be there or not.
-/

namespace Intake.Value

/-- Two values are written alike if they have the same text. -/
def WrittenAlike (v w : Value) : Prop := ∃ t, v.canonical? = .ok t ∧ w.canonical? = .ok t

/-- Being written alike goes both ways. -/
theorem WrittenAlike.symm {v w : Value} (h : WrittenAlike v w) : WrittenAlike w v := by
  obtain ⟨t, hv, hw⟩ := h
  exact ⟨t, hw, hv⟩

/-- **Scalars that are written alike are the same.** -/
theorem WrittenAlike.eq_of_isScalar {v w : Value} (h : WrittenAlike v w) (hv : v.IsScalar)
    (hw : w.IsScalar) : v = w := by
  obtain ⟨t, hvt, hwt⟩ := h
  exact eq_of_canonical?_scalar hv hw hvt hwt

/-- **Lists that are written alike** are so item by item. -/
theorem WrittenAlike.forall₂ {items others : List Value}
    (h : WrittenAlike (.list items) (.list others)) : List.Forall₂ WrittenAlike items others := by
  obtain ⟨t, hitems, hothers⟩ := h
  rw [canonical?] at hitems hothers
  obtain ⟨parts, hparts, rfl⟩ := exists_of_map_eq_ok hitems
  obtain ⟨parts', hparts', heq⟩ := exists_of_map_eq_ok hothers
  have hchars := congrArg String.toList heq.symm
  rw [toList_canonicalList, toList_canonicalList, List.cons.injEq] at hchars
  have hwritten := isWritten_canonicalAll? items hparts
  have hsame : parts.map String.toList = parts'.map String.toList :=
    parts_inj (fun part hp => ⟨hwritten part hp, (hwritten part hp).isBounded⟩)
      (isWritten_canonicalAll? others hparts') hchars.2
  have hinj : Function.Injective String.toList := fun _ _ h => String.toList_inj.mp h
  obtain rfl : parts = parts' := List.map_injective_iff.mpr hinj hsame
  exact forall₂_of_forall₂ (forall₂_of_canonicalAll? hparts) (forall₂_of_canonicalAll? hparts')

/-- Dictionaries' texts are told apart by their sorted entries. -/
theorem sortedEntries_inj {entries others : List (String × String)}
    (hentries : ∀ e ∈ entries, IsWritten e.2.toList) (hothers : ∀ e ∈ others, IsWritten e.2.toList)
    (h : canonicalEntries entries = canonicalEntries others) :
    sortedEntries entries = sortedEntries others := by
  have hchars := congrArg String.toList h
  rw [toList_canonicalEntries, toList_canonicalEntries, List.cons.injEq] at hchars
  have hwritten : ∀ {entries : List (String × String)}, (∀ e ∈ entries, IsWritten e.2.toList) →
      ∀ e ∈ (sortedEntries entries).map fun e => (e.1, e.2.toList), IsWritten e.2 := by
    intro entries hentries e he
    obtain ⟨e', he', rfl⟩ := List.mem_map.mp he
    exact hentries e' (mem_of_mem_sortedEntries he')
  have hsame := entries_inj (fun e he => (hwritten hentries e he).isBounded) (hwritten hothers)
    hchars.2
  refine List.map_injective_iff.mpr (fun e e' he => ?_) hsame
  obtain ⟨hkey, htext⟩ := Prod.mk.inj he
  exact Prod.ext hkey (String.toList_inj.mp htext)

/-- **Dictionaries that are written alike** have, sorted, the same entries as texts. -/
theorem WrittenAlike.dict {entries others : List (Value × Value)}
    (h : WrittenAlike (.dict entries) (.dict others)) :
    ∃ texts texts', canonicalEach? entries = .ok texts ∧ canonicalEach? others = .ok texts' ∧
      sortedEntries texts = sortedEntries texts' := by
  obtain ⟨t, hentries, hothers⟩ := h
  rw [canonical?] at hentries hothers
  obtain ⟨texts, htexts, rfl⟩ := exists_of_map_eq_ok hentries
  obtain ⟨texts', htexts', heq⟩ := exists_of_map_eq_ok hothers
  exact ⟨texts, texts', htexts, htexts', sortedEntries_inj (isWritten_canonicalEach? entries htexts)
    (isWritten_canonicalEach? others htexts') heq.symm⟩

/-- The same entries in the order of the same keys are the same list. -/
theorem eq_of_perm_of_keys {α β : Type} {entries others : List (α × β)}
    (hperm : entries.Perm others) (hkeys : entries.map Prod.fst = others.map Prod.fst)
    (hdistinct : (entries.map Prod.fst).Nodup) : entries = others := by
  induction entries generalizing others with
  | nil => exact (List.nil_perm.mp hperm).symm
  | cons e entries ih =>
    cases others with
    | nil => simp at hkeys
    | cons e' others =>
      obtain ⟨-, htail⟩ := List.cons.inj hkeys
      have hmem : e ∈ e' :: others := hperm.mem_iff.mp List.mem_cons_self
      have hsame : e = e' := by
        rcases List.mem_cons.mp hmem with heq | hlater
        · exact heq
        · have hagain : e.1 ∈ entries.map Prod.fst := by
            rw [htail]
            exact List.mem_map_of_mem hlater
          exact absurd hagain (List.nodup_cons.mp hdistinct).1
      subst hsame
      rw [ih (List.Perm.cons_inv hperm) htail (List.nodup_cons.mp hdistinct).2]

/-- The text of a record has the keys of the record. -/
theorem forall₂_of_record {entries : List (String × Value)} {texts : List (String × String)}
    (h : canonicalEach? (entries.map fun e => (.text e.1, e.2)) = .ok texts) :
    List.Forall₂ (fun e t => e.1 = t.1 ∧ canonical? e.2 = .ok t.2) entries texts := by
  refine (List.forall₂_map_left_iff.mp (forall₂_of_canonicalEach? h)).imp fun e t het => ?_
  exact ⟨Except.ok.inj het.1, het.2⟩

/-- **Records of the same keys that are written alike** are so entry by entry. -/
theorem WrittenAlike.entries {entries others : List (String × Value)}
    (hkeys : entries.map Prod.fst = others.map Prod.fst)
    (hdistinct : (entries.map Prod.fst).Nodup)
    (h : WrittenAlike (.record entries) (.record others)) :
    List.Forall₂ (fun e e' => WrittenAlike e.2 e'.2) entries others := by
  obtain ⟨texts, texts', htexts, htexts', hsorted⟩ := WrittenAlike.dict h
  have hfirst := forall₂_of_record htexts
  have hsecond := forall₂_of_record htexts'
  have hfirstKeys := map_eq_map_of_forall₂ (fun _ _ he => he.1) hfirst
  have hsecondKeys := map_eq_map_of_forall₂ (fun _ _ he => he.1) hsecond
  have hdistinct' : (texts'.map Prod.fst).Nodup := by
    rw [← hsecondKeys, ← hkeys]
    exact hdistinct
  rw [hfirstKeys] at hdistinct
  have hperm : texts.Perm texts' :=
    (sortedEntries_perm hdistinct).symm.trans (hsorted ▸ sortedEntries_perm hdistinct')
  obtain rfl := eq_of_perm_of_keys hperm (hfirstKeys.symm.trans (hkeys.trans hsecondKeys)) hdistinct
  exact (forall₂_of_forall₂ hfirst hsecond).imp fun e e' ⟨t, he, he'⟩ => ⟨t.2, he.2, he'.2⟩

/-- The text of a record starts with a brace. -/
theorem head?_of_record {entries : List (String × Value)} {t : String}
    (h : (record entries).canonical? = .ok t) : t.toList.head? = some '\x7b' := by
  rw [record, canonical?] at h
  obtain ⟨texts, -, rfl⟩ := exists_of_map_eq_ok h
  rw [toList_canonicalEntries]
  rfl

/-- Nothing is not written like a record. -/
theorem not_writtenAlike_null_record {entries : List (String × Value)} :
    ¬ WrittenAlike .null (record entries) := by
  rintro ⟨t, hnull, hrecord⟩
  cases hnull
  exact absurd (head?_of_record hrecord) (by decide)

/-- **What may be there or not** is there on both sides or on none, if it is not written like
nothing. -/
theorem WrittenAlike.ofOption_cases {α : Type} {f : α → Value} {o o' : Option α}
    (hne : ∀ a, ¬ WrittenAlike .null (f a)) (h : WrittenAlike (ofOption f o) (ofOption f o')) :
    (o = none ∧ o' = none) ∨ ∃ a a', o = some a ∧ o' = some a' ∧ WrittenAlike (f a) (f a') := by
  cases o with
  | none =>
    cases o' with
    | none => exact .inl ⟨rfl, rfl⟩
    | some a' => exact absurd h (hne a')
  | some a =>
    cases o' with
    | none => exact absurd h.symm (hne a)
    | some a' => exact .inr ⟨a, a', rfl, rfl, h⟩

/-- What may be there or not, and is a scalar, is the same where it is written alike. -/
theorem WrittenAlike.eq_of_ofOption {α : Type} {f : α → Value} {o o' : Option α}
    (h : WrittenAlike (ofOption f o) (ofOption f o')) (hscalar : ∀ a, (f a).IsScalar)
    (hnull : ∀ a, f a ≠ .null) (hinj : Function.Injective f) : o = o' := by
  have hne : ∀ a, ¬ WrittenAlike .null (f a) :=
    fun a ha => hnull a (ha.eq_of_isScalar trivial (hscalar a)).symm
  rcases h.ofOption_cases hne with ⟨rfl, rfl⟩ | ⟨a, a', rfl, rfl, ha⟩
  · rfl
  · rw [hinj (ha.eq_of_isScalar (hscalar a) (hscalar a'))]

end Intake.Value
