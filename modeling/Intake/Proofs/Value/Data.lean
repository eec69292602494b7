import Intake.Proofs.Value.WrittenAlike

/-!
# Data is known by its text

**Data** is what can be written down in full: scalars, lists of data, and records of data under
distinct texts.  Data that is written alike need not be the same, for the entries of a record may
stand in another order, but no comparison tells it apart.

* `IsData` says what data is;
* `IsData.eqvAlike` and `IsData.strictEqv_eq` say that every value equals both of two data that are
  written alike, or neither.
-/

namespace Intake.Value

/-- Scalars, lists of data, and records of data under distinct texts. -/
inductive IsData : Value → Prop where
  | scalar {v : Value} (h : v.IsScalar) : IsData v
  | list {items : List Value} (h : ∀ v ∈ items, IsData v) : IsData (.list items)
  | record {entries : List (String × Value)} (hdistinct : (entries.map Prod.fst).Nodup)
      (h : ∀ e ∈ entries, IsData e.2) : IsData (record entries)

/-- Nothing tells two values apart: every value equals both or neither. -/
def EqvAlike (v w : Value) : Prop := ∀ x : Value, x.eqv v = x.eqv w

/-- The text of a list starts with a bracket. -/
theorem head?_of_list {items : List Value} {t : String} (h : (list items).canonical? = .ok t) :
    t.toList.head? = some '[' := by
  rw [canonical?] at h
  obtain ⟨parts, -, rfl⟩ := exists_of_map_eq_ok h
  rw [toList_canonicalList]
  rfl

/-- The text of a scalar starts with a quote or a character of a word. -/
theorem head?_of_scalar {v : Value} {t : String} (hv : v.IsScalar) (h : v.canonical? = .ok t) :
    ∃ c, t.toList.head? = some c ∧ (c = '"' ∨ isWordChar c = true) := by
  rcases isWord_of_scalar hv h with ⟨s, -, rfl⟩ | ⟨hne, hword⟩
  · rw [toList_canonicalText]
    exact ⟨'"', rfl, .inl rfl⟩
  · obtain ⟨c, more, heq⟩ := List.exists_cons_of_ne_nil hne
    rw [heq] at hword ⊢
    exact ⟨c, rfl, .inr (hword c List.mem_cons_self)⟩

/-- No scalar is written like a list. -/
theorem not_writtenAlike_scalar_list {v : Value} {items : List Value} (hv : v.IsScalar) :
    ¬ WrittenAlike v (.list items) := by
  rintro ⟨t, hscalar, hlist⟩
  obtain ⟨c, hhead, hc⟩ := head?_of_scalar hv hscalar
  obtain rfl : c = '[' := Option.some.inj (hhead.symm.trans (head?_of_list hlist))
  exact absurd hc (by decide)

/-- No scalar is written like a record. -/
theorem not_writtenAlike_scalar_record {v : Value} {entries : List (String × Value)}
    (hv : v.IsScalar) : ¬ WrittenAlike v (record entries) := by
  rintro ⟨t, hscalar, hrecord⟩
  obtain ⟨c, hhead, hc⟩ := head?_of_scalar hv hscalar
  obtain rfl : c = '\x7b' := Option.some.inj (hhead.symm.trans (head?_of_record hrecord))
  exact absurd hc (by decide)

/-- No list is written like a record. -/
theorem not_writtenAlike_list_record {items : List Value} {entries : List (String × Value)} :
    ¬ WrittenAlike (.list items) (record entries) := by
  rintro ⟨t, hlist, hrecord⟩
  have hhead := (head?_of_list hlist).symm.trans (head?_of_record hrecord)
  exact absurd hhead (by decide)

/-- Records that are written alike have an entry of the same key for each entry, written alike. -/
theorem WrittenAlike.exists_entry {entries others : List (String × Value)}
    (hentries : (entries.map Prod.fst).Nodup) (hothers : (others.map Prod.fst).Nodup)
    (h : WrittenAlike (record entries) (record others)) :
    entries.length = others.length ∧
      ∀ e ∈ entries, ∃ e' ∈ others, e.1 = e'.1 ∧ WrittenAlike e.2 e'.2 := by
  obtain ⟨texts, texts', htexts, htexts', hsorted⟩ := WrittenAlike.dict h
  have hfirst := forall₂_of_record htexts
  have hsecond := forall₂_of_record htexts'
  rw [map_eq_map_of_forall₂ (fun _ _ he => he.1) hfirst] at hentries
  rw [map_eq_map_of_forall₂ (fun _ _ he => he.1) hsecond] at hothers
  have hperm : texts.Perm texts' :=
    (sortedEntries_perm hentries).symm.trans (hsorted ▸ sortedEntries_perm hothers)
  refine ⟨(hfirst.length_eq.trans hperm.length_eq).trans hsecond.length_eq.symm, fun e he => ?_⟩
  obtain ⟨t, ht, hkey, htext⟩ := exists_of_mem_forall₂ hfirst he
  obtain ⟨e', he', hkey', htext'⟩ := exists_of_mem_forall₂ hsecond.flip (hperm.mem_iff.mp ht)
  exact ⟨e', he', hkey.trans hkey'.symm, t.2, htext, htext'⟩

/-- Lists of items that nothing tells apart are not told apart. -/
theorem eqvAll_eq_of_forall₂ {vs ws : List Value}
    (h : List.Forall₂ EqvAlike vs ws) (xs : List Value) :
    eqvAll xs vs = eqvAll xs ws := by
  induction h generalizing xs with
  | nil => rfl
  | cons hfirst _ ih =>
    cases xs with
    | nil => rw [eqvAll, eqvAll] <;> simp
    | cons x xs => rw [eqvAll, eqvAll, hfirst x, ih xs]

/-- Where each entry of a dictionary has one among some others that nothing tells from it, what
equals an entry of the dictionary equals one of the others. -/
theorem any_eqv_of_entries {entries others : List (Value × Value)}
    (h : ∀ e ∈ entries, ∃ e' ∈ others, e.1 = e'.1 ∧ EqvAlike e.2 e'.2)
    {k v : Value} (hany : (entries.any fun e => eqv k e.1 && eqv v e.2) = true) :
    (others.any fun e => eqv k e.1 && eqv v e.2) = true := by
  obtain ⟨e, he, heq⟩ := List.any_eq_true.mp hany
  obtain ⟨e', he', hkey, hvalue⟩ := h e he
  refine List.any_eq_true.mpr ⟨e', he', ?_⟩
  rw [← hkey, ← hvalue]
  exact heq

/-- Dictionaries whose entries have each other's equals are not told apart by what is among
them. -/
theorem entriesAmong_eq {entries others : List (Value × Value)}
    (h : ∀ e ∈ entries, ∃ e' ∈ others, e.1 = e'.1 ∧ EqvAlike e.2 e'.2)
    (h' : ∀ e ∈ others, ∃ e' ∈ entries, e.1 = e'.1 ∧ EqvAlike e.2 e'.2)
    (xs : List (Value × Value)) : entriesAmong xs entries = entriesAmong xs others := by
  induction xs with
  | nil => rw [entriesAmong, entriesAmong]
  | cons e xs ih =>
    obtain ⟨k, v⟩ := e
    rw [entriesAmong, entriesAmong, ih,
      Bool.eq_iff_iff.mpr ⟨any_eqv_of_entries (k := k) (v := v) h, any_eqv_of_entries h'⟩]

/-- A list is told from others by its items alone. -/
theorem eqvAlike_list {vs ws : List Value} (h : ∀ xs, eqvAll xs vs = eqvAll xs ws) :
    EqvAlike (.list vs) (.list ws) := by
  intro x
  cases x <;> simp only [eqv, eqvInt, eqvFloat, h]

/-- A dictionary is told from others by its number of entries and what is among them. -/
theorem eqvAlike_dict {entries others : List (Value × Value)}
    (hlength : entries.length = others.length)
    (h : ∀ xs, entriesAmong xs entries = entriesAmong xs others) :
    EqvAlike (.dict entries) (.dict others) := by
  intro x
  cases x <;> simp only [eqv, eqvInt, eqvFloat, hlength, h]

/-- The entries of a record as those of a dictionary. -/
theorem exists_entry_of_record {entries others : List (String × Value)} {R : Value → Value → Prop}
    (h : ∀ e ∈ entries, ∃ e' ∈ others, e.1 = e'.1 ∧ R e.2 e'.2) :
    ∀ e ∈ entries.map fun e => (Value.text e.1, e.2),
      ∃ e' ∈ others.map fun e => (Value.text e.1, e.2), e.1 = e'.1 ∧ R e.2 e'.2 := by
  intro e he
  obtain ⟨entry, hentry, rfl⟩ := List.mem_map.mp he
  obtain ⟨other, hother, hkey, hR⟩ := h entry hentry
  exact ⟨_, List.mem_map_of_mem hother, congrArg Value.text hkey, hR⟩

/-- **Data that is written alike is not told apart**: a value equals both or neither. -/
theorem IsData.eqvAlike {v w : Value} (hv : v.IsData) (hw : w.IsData) (h : WrittenAlike v w) :
    EqvAlike v w := by
  -- The induction is on the first value; the second one is of its sort, by its text.
  induction hv generalizing w with
  | scalar hv =>
    cases hw with
    | scalar hw =>
      rw [h.eq_of_isScalar hv hw]
      exact fun x => rfl
    | list => exact absurd h (not_writtenAlike_scalar_list hv)
    | record => exact absurd h (not_writtenAlike_scalar_record hv)
  | @list items hitems ih =>
    cases hw with
    | scalar hw => exact absurd h.symm (not_writtenAlike_scalar_list hw)
    | @list others hothers =>
      refine eqvAlike_list (eqvAll_eq_of_forall₂ (forall₂_imp_of_mem h.forall₂ ?_))
      exact fun v hv w hw halike => ih v hv (hothers w hw) halike
    | record => exact absurd h not_writtenAlike_list_record
  | @record entries hdistinct hentries ih =>
    cases hw with
    | scalar hw => exact absurd h.symm (not_writtenAlike_scalar_record hw)
    | list => exact absurd h.symm not_writtenAlike_list_record
    | @record others hdistinct' hothers =>
      obtain ⟨hlength, hforth⟩ := h.exists_entry hdistinct hdistinct'
      obtain ⟨-, hback⟩ := h.symm.exists_entry hdistinct' hdistinct
      refine eqvAlike_dict (by simpa using hlength) (entriesAmong_eq ?_ ?_)
      · refine exists_entry_of_record fun e he => ?_
        obtain ⟨e', he', hkey, halike⟩ := hforth e he
        exact ⟨e', he', hkey, ih e he (hothers e' he') halike⟩
      · refine exists_entry_of_record fun e he => ?_
        obtain ⟨e', he', hkey, halike⟩ := hback e he
        exact ⟨e', he', hkey, fun x => (ih e' he' (hothers e he) halike.symm x).symm⟩

/-- What is written like a truth value is no data but that truth value. -/
theorem IsData.eq_of_writtenAlike_bool {v : Value} {b : Bool} (hv : v.IsData)
    (h : WrittenAlike (.bool b) v) : v = .bool b := by
  cases hv with
  | scalar hv => exact (h.eq_of_isScalar trivial hv).symm
  | list => exact absurd h (not_writtenAlike_scalar_list trivial)
  | record => exact absurd h (not_writtenAlike_scalar_record trivial)

/-- What nothing tells apart is the same for conditions, unless one of them is a truth value. -/
theorem EqvAlike.strictEqv_eq {v w : Value} (h : EqvAlike v w) (hv : ∀ b, v ≠ .bool b)
    (hw : ∀ b, w ≠ .bool b) (x : Value) : x.strictEqv v = x.strictEqv w := by
  have hplain : ∀ {u : Value}, (∀ b, u ≠ .bool b) →
      x.strictEqv u = (x.kind != .bool && x.eqv u) := by
    intro u hu
    cases u with
    | bool b => exact absurd rfl (hu b)
    | _ => cases x <;> rfl
  rw [hplain hv, hplain hw, h x]

/-- **Data that is written alike is the same for conditions.** -/
theorem IsData.strictEqv_eq {v w : Value} (hv : v.IsData) (hw : w.IsData) (h : WrittenAlike v w)
    (x : Value) : x.strictEqv v = x.strictEqv w := by
  by_cases hbool : (∃ b, v = .bool b) ∨ ∃ b, w = .bool b
  · rcases hbool with ⟨b, rfl⟩ | ⟨b, rfl⟩
    · rw [hw.eq_of_writtenAlike_bool h]
    · rw [hv.eq_of_writtenAlike_bool h.symm]
  · rw [not_or, not_exists, not_exists] at hbool
    exact (hv.eqvAlike hw h).strictEqv_eq hbool.1 hbool.2 x

end Intake.Value
