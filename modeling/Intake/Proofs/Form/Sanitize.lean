import Intake.Proofs.Answers
import Intake.Proofs.Form.Cleaning
import Intake.Proofs.Form.HiddenFields
import Intake.Proofs.Form.Invariant

/-!
# Sanitizing twice

Sanitized answers can be sanitized again, and stay as they are.  Whatever reconciling writes
into a field, an empty value, a cleaned fallback or a count, is a value that the field's own
cleaning leaves alone; so reconciling keeps answers clean, and on an acyclic form it ends at
rest.

* `Clean` is the invariant: the answers are those of the fields, in order, each as the
  cleaning of its field leaves it;
* `isKept_keeps` says that whatever settling writes is kept by its field, and `Clean.runPasses`
  that passes keep answers clean;
* `cleanAll_of_clean` says that clean answers are not changed by cleaning;
* `sanitize_idem` is the conclusion.
-/

namespace Intake

/-- A cleaner takes no item from a list, and gives it none. -/
theorem Cleaner.itemCount_apply (c : Cleaner) (v : Value) :
    (c.apply v).itemCount = v.itemCount := by
  cases v with
  | list items => simp [apply, Value.itemCount, Value.sequence?]
  | _ => rfl

/-- A number has no items. -/
theorem Cleaning.IsCleanNumber.itemCount_eq {v : Value} (h : IsCleanNumber v) :
    v.itemCount = 0 := by
  cases h with
  | int => rfl
  | float => rfl

/-- Of the items of a list only the empty ones are left out. -/
theorem Cleaning.itemCount_list? {v w : Value}
    (h : (list? v).map (fun texts => Value.list (texts.map .text)) = .ok w) :
    w.itemCount ≤ v.itemCount := by
  obtain ⟨texts, htexts, rfl⟩ := exists_of_map_eq_ok h
  unfold list? at htexts
  cases hitems : v.sequence? with
  | none =>
    rw [hitems] at htexts
    cases htexts
    exact Nat.zero_le _
  | some items =>
    rw [hitems] at htexts
    obtain ⟨all, hall, rfl⟩ := exists_of_map_eq_ok htexts
    have hcount : v.itemCount = items.length := by rw [Value.itemCount, hitems]
    calc (Value.list ((all.filter fun s => !s.isEmpty).map .text)).itemCount
        = (all.filter fun s => !s.isEmpty).length := List.length_map _
      _ ≤ all.length := List.length_filter_le _ _
      _ = v.itemCount := by rw [hcount, (forall₂_of_mapM_eq_ok hall).length_eq]

/-- The cleaning of a type leaves no more items than there were. -/
theorem FieldType.itemCount_clean? {type : FieldType} {v w : Value}
    (h : type.clean? v = .ok w) : w.itemCount ≤ v.itemCount := by
  have htext : ∀ {clean : Except Fault String}, clean.map Value.text = .ok w →
      w.itemCount ≤ v.itemCount := by
    intro clean h
    obtain ⟨s, -, rfl⟩ := exists_of_map_eq_ok h
    exact Nat.zero_le _
  cases type with
  | number =>
    cases h
    rw [(Cleaning.isCleanNumber_number v).itemCount_eq]
    exact Nat.zero_le _
  | checkbox =>
    cases h
    exact Nat.zero_le _
  | date =>
    cases h
    cases v <;> simp [Cleaning.date, Value.itemCount, Value.sequence?]
  | multiSelect => exact Cleaning.itemCount_list? h
  | multiValue => exact Cleaning.itemCount_list? h
  | _ => exact htext h

section Field

variable {host : Host} {fields : List Field} {d : Field}

/-- A field's cleaning leaves no more items than there were. -/
theorem Field.itemCount_clean? (hcleaner : ∀ f ∈ d.cleaner, ∃ c, f = .cleaner c) {v w : Value}
    (h : d.clean? host v = .ok w) : w.itemCount ≤ v.itemCount := by
  unfold Field.clean? at h
  obtain ⟨first, hfirst, h⟩ := exists_of_bind_eq_ok h
  cases hd : d.cleaner with
  | none =>
    simp only [hd] at h
    cases h
    exact FieldType.itemCount_clean? hfirst
  | some f =>
    obtain ⟨c, rfl⟩ := hcleaner f hd
    simp only [hd, Callable.clean?] at h
    calc w.itemCount ≤ (c.apply first).itemCount := FieldType.itemCount_clean? h
      _ = first.itemCount := c.itemCount_apply first
      _ ≤ v.itemCount := FieldType.itemCount_clean? hfirst

/-- A count of items is a number as a field holds it, as far as lists can get long. -/
theorem Field.clean?_count (hcleaner : ∀ f ∈ d.cleaner, ∃ c, f = .cleaner c)
    (htype : d.type = .number) {count : Nat} (hcount : count < 2 ^ 63) :
    d.clean? host (.int count) = .ok (.int count) := by
  have hnumber : d.type.clean? (.int count) = .ok (.int count) := by
    rw [htype]
    exact congrArg Except.ok (Cleaning.isCleanNumber_int (by decide) hcount).number_eq
  unfold Field.clean?
  rw [hnumber]
  cases hd : d.cleaner with
  | none => rfl
  | some f =>
    obtain ⟨c, rfl⟩ := hcleaner f hd
    exact hnumber

/-- A field **keeps** a value if its cleaning leaves the value as it is, and the value is no
longer a list than lists can be. -/
structure Field.Keeps (host : Host) (d : Field) (v : Value) : Prop where
  clean : d.clean? host v = .ok v
  counted : v.itemCount < 2 ^ 63

/-- A field keeps what its cleaning has made of a value. -/
theorem Field.keeps_of_clean? (hcleaner : ∀ f ∈ d.cleaner, ∃ c, f = .cleaner c) {v w : Value}
    (hrereads : d.Rereads v) (hcounted : v.itemCount < 2 ^ 63) (h : d.clean? host v = .ok w) :
    d.Keeps host w :=
  ⟨Field.clean?_idem hcleaner hrereads h, (Field.itemCount_clean? hcleaner h).trans_lt hcounted⟩

/-- A field is **plain** if its own cleaner is one of the engine, and its fallback one that
cleaning makes something lasting of. -/
structure Field.IsPlain (d : Field) : Prop where
  cleaner : ∀ f ∈ d.cleaner, ∃ c, f = .cleaner c
  rereads : d.Rereads d.fallback
  counted : d.fallback.itemCount < 2 ^ 63

/-- Answers are **clean** if they are those of the fields, in order, and every field keeps its
own. -/
structure Clean (host : Host) (fields : List Field) (a : Answers) : Prop where
  keys : a.keys = fieldNames fields
  keeps : ∀ d ∈ fields, d.Keeps host (a.get d.name)

/-- Answers are clean if they meet the demand that every field keeps its own. -/
theorem clean_iff_meets {a : Answers} : Clean host fields a ↔ Meets (Field.Keeps host) fields a :=
  ⟨fun h => ⟨h.keys, h.keeps⟩, fun h => ⟨h.keys, h.each⟩⟩

/-- Where answers are clean no list is longer than lists can be, whatever the name. -/
theorem Clean.counted {a : Answers} (h : Clean host fields a) (name : String) :
    (a.get name).itemCount < 2 ^ 63 :=
  (clean_iff_meets.mp h).get (P := fun v => v.itemCount < 2 ^ 63)
    (fun _ _ _ hkeeps => hkeeps.counted) (by decide) name

/-- **Whatever is written is clean.**  A field keeps what the other answers make of it. -/
theorem Clean.keeps_of_settled? {a : Answers} (h : Clean host fields a)
    (hlint : lint fields = []) (hd : d ∈ fields) (hplain : d.IsPlain) {v : Value}
    (hv : d.settled? host a = .ok (some v)) : d.Keeps host v := by
  cases Field.settled?_eq_ok_iff.mp hv with
  | counted hderivation =>
    have htype := type_eq_number_of_lint hlint hd hderivation
    exact ⟨Field.clean?_count hplain.cleaner htype (h.counted _),
      Nat.two_pow_pos 63⟩
  | hidden =>
    refine ⟨Field.clean?_emptyValue hplain.cleaner, ?_⟩
    cases d.type <;> decide
  | filled _ _ _ _ hclean =>
    exact Field.keeps_of_clean? hplain.cleaner hplain.rereads hplain.counted hclean

/-- Plain fields of a list without a mistake keep whatever settling writes. -/
theorem isKept_keeps (hlint : lint fields = []) (hplain : ∀ d ∈ fields, d.IsPlain) :
    IsKept host (Field.Keeps host) fields :=
  fun _ ha d hd _ hv => (clean_iff_meets.mpr ha).keeps_of_settled? hlint hd (hplain d hd) hv

/-- Any number of passes keeps answers clean. -/
theorem Clean.runPasses {rounds : Nat} {a b : Answers} (h : Clean host fields a)
    (hlint : lint fields = []) (hplain : ∀ d ∈ fields, d.IsPlain)
    (hrun : runPasses host fields rounds a = .ok b) : Clean host fields b := by
  have hnames := (lint_eq_nil_iff.mp hlint).1
  have hkept : IsKept host (Field.Keeps host) fields := isKept_keeps hlint hplain
  exact clean_iff_meets.mpr ((clean_iff_meets.mp h).runPasses hkept hnames hrun)

end Field

variable {host : Host} {fields : List Field}

/-- Cleaning gives clean answers. -/
theorem clean_of_cleanAll {raw cleaned : Answers} (hnames : (fieldNames fields).Nodup)
    (hkeeps : ∀ d ∈ fields, ∀ w, d.clean? host (raw.get d.name) = .ok w → d.Keeps host w)
    (h : cleanAll host raw fields = .ok cleaned) : Clean host fields cleaned :=
  clean_iff_meets.mpr (meets_of_cleanAll hnames hkeeps h)

/-- Clean answers are not changed by cleaning. -/
theorem cleanAll_of_clean {a : Answers} (h : Clean host fields a) :
    cleanAll host a fields = .ok a := by
  have hentries : a.entries = fields.map fun d => (d.name, a.get d.name) := by
    rw [a.entries_eq, h.keys, fieldNames, List.map_map]
    rfl
  have hall : List.Forall₂ (fun (d : Field) e => (do
      return (d.name, ← d.clean? host (a.get d.name)) : Except Fault (String × Value)) = .ok e)
      fields a.entries := by
    rw [hentries]
    refine List.forall₂_map_right_iff.mpr (List.forall₂_same.mpr fun d hd => ?_)
    rw [(h.keeps d hd).clean]
    rfl
  unfold cleanAll
  rw [mapM_eq_ok_of_forall₂ hall]
  exact congrArg Except.ok (Answers.ext_entries (Answers.entries_ofEntries a.distinct))

/-- **Sanitizing twice is sanitizing once.**  On an acyclic form of local fields, in any order,
that a lint finds no mistake in and that names no cleaners but those of the engine, sanitized
answers are sanitized to themselves, in the same order.  The web addresses that are read have to
read back as they are written, and no list is longer than lists can be. -/
theorem sanitize_idem (hlint : lint fields = []) (hacyclic : Acyclic fields)
    (hlocal : ∀ d ∈ fields, d.IsLocal host)
    (hcleaner : ∀ d ∈ fields, ∀ f ∈ d.cleaner, ∃ c, f = .cleaner c) {raw s : Answers}
    (hrereads : ∀ d ∈ fields, d.Rereads (raw.get d.name) ∧ d.Rereads d.fallback)
    (hcounted : ∀ d ∈ fields,
      (raw.get d.name).itemCount < 2 ^ 63 ∧ d.fallback.itemCount < 2 ^ 63)
    (h : sanitize host fields raw = .ok s) : sanitize host fields s = .ok s := by
  have hnames := (lint_eq_nil_iff.mp hlint).1
  have hplain : ∀ d ∈ fields, d.IsPlain := fun d hd =>
    ⟨hcleaner d hd, (hrereads d hd).2, (hcounted d hd).2⟩
  obtain ⟨cleaned, hcleaned, hreconcile⟩ := reconcile_of_sanitize h
  have hclean : Clean host fields cleaned := by
    refine clean_of_cleanAll hnames (fun d hd w hw => ?_) hcleaned
    exact Field.keeps_of_clean? (hcleaner d hd) (hrereads d hd).1 (hcounted d hd).1 hw
  obtain ⟨hrun, hrest⟩ := settlePass_of_reconcile hacyclic hlocal hnames hreconcile
  have hs := hclean.runPasses hlint hplain hrun
  unfold sanitize
  rw [cleanAll_of_clean hs]
  show reconcile host fields s = .ok s
  rw [reconcile, settlePasses_eq_runPasses, runPasses_of_pass hrest]

/-- A form with the count of some tags, the tags and a web address, both asked for while a box
is ticked, and the box. -/
def addressForm : List Field :=
  [{ name := "count", type := .number, derivation := some ⟨"tags"⟩ },
   { name := "tags", type := .multiValue, fallback := .list [.text "new"],
     condition := some ⟨⟨"linked", .bool true⟩, false, none⟩ },
   { name := "link", type := .url, cleaner := some (.cleaner .lower),
     condition := some ⟨⟨"linked", .bool true⟩, false, none⟩ },
   { name := "linked", type := .checkbox }]

/-- The form with an address is sanitized at once, also from an address in capitals. -/
theorem sanitize_addressForm :
    ∃ s, sanitize Host.none addressForm (Answers.ofEntries
        [("linked", .bool true), ("link", .text "HTTP://[::1]/A")]) = .ok s ∧
      sanitize Host.none addressForm s = .ok s := by
  have hclean : cleanAll Host.none (Answers.ofEntries
      [("linked", .bool true), ("link", .text "HTTP://[::1]/A")]) addressForm =
        .ok (Answers.ofEntries [("count", .int 0), ("tags", .list []),
          ("link", .text "http://[::1]/a"), ("linked", .bool true)]) := by rfl
  have hsanitize : sanitize Host.none addressForm (Answers.ofEntries
      [("linked", .bool true), ("link", .text "HTTP://[::1]/A")]) =
        .ok (Answers.ofEntries [("count", .int 1), ("tags", .list [.text "new"]),
          ("link", .text "http://[::1]/a"), ("linked", .bool true)]) := by
    unfold sanitize
    rw [hclean]
    show reconcile Host.none addressForm _ = _
    cbv
  have hacyclic : Acyclic addressForm :=
    acyclic_of_rank (fun name => if name = "count" then 2 else if name = "linked" then 0 else 1)
      (by decide)
  have hlocal : ∀ d ∈ addressForm, d.IsLocal Host.none := by
    intro d hd c hc
    simp only [addressForm, List.mem_cons, List.not_mem_nil, or_false] at hd
    rcases hd with rfl | rfl | rfl | rfl <;> cases hc <;>
      exact ⟨Clause.isLocal_of_literal (by simp), by simp⟩
  -- the address as it is read, and in small letters
  have hread : WebAddress.normal? (Text.strip "HTTP://[::1]/A") = some "http://[::1]/A" := by rfl
  have hback : WebAddress.normal? "http://[::1]/A" = some "http://[::1]/A" := by rfl
  have hsmall : WebAddress.normal? (Text.lower "http://[::1]/A") = some "http://[::1]/a" := by rfl
  have hagain : WebAddress.normal? "http://[::1]/a" = some "http://[::1]/a" ∧
      WebAddress.normal? (Text.lower "http://[::1]/a") = some "http://[::1]/a" := ⟨by rfl, by rfl⟩
  refine ⟨_, hsanitize, sanitize_idem (by rfl) hacyclic hlocal ?_ ?_ ?_ hsanitize⟩
  · intro d hd f hf
    simp only [addressForm, List.mem_cons, List.not_mem_nil, or_false] at hd
    rcases hd with rfl | rfl | rfl | rfl <;> cases hf
    exact ⟨.lower, rfl⟩
  · intro d hd
    simp only [addressForm, List.mem_cons, List.not_mem_nil, or_false] at hd
    rcases hd with rfl | rfl | rfl | rfl
    · exact ⟨Field.rereads_of_ne (by decide) _, Field.rereads_of_ne (by decide) _⟩
    · exact ⟨Field.rereads_of_ne (by decide) _, Field.rereads_of_ne (by decide) _⟩
    · refine ⟨fun _ => ⟨?_, ?_⟩, fun _ => ⟨?_, ?_⟩⟩
      · rintro s u hs hu
        cases hs
        cases hread.symm.trans hu
        exact hback
      · rintro c - hc s u w hs hu hw
        cases hs
        cases hc
        cases hread.symm.trans hu
        cases hsmall.symm.trans hw
        exact hagain
      · rintro s u hs hu
        cases hs
        cases hu
      · rintro c - hc s u w hs hu
        cases hs
        cases hu
    · exact ⟨Field.rereads_of_ne (by decide) _, Field.rereads_of_ne (by decide) _⟩
  · decide

end Intake
