import Intake.Form.Editing
import Intake.Form.Reconcile
import Intake.Proofs.Answers
import Intake.Proofs.Form.Blank

/-!
# Opening a form changes nothing

A form opens with its initial answers: what is given, or else the preset of a field, or else what a
fresh field of its sort shows.  What a fresh field shows is not always the empty value of its sort,
as a number shows an empty text.  But cleaning makes the same of it as of no answer at all.  So if a
form is sent off as it was opened, nothing has been entered but what was given and the presets.

* `withPresets` are the given answers with the presets alone;
* `get_initialAnswers` and `get_withPresets` say what is read of a field in the two;
* `Field.clean?_initial` says that cleaning does not tell a fresh field from one without an answer;
* `sanitize_initialAnswers` is the conclusion.
-/

namespace Intake

/-- Is there nothing under a name? -/
def Answers.lacks (a : Answers) (name : String) : Bool :=
  match a.get name with
  | .null => true
  | _ => false

/-- Does the field have a preset? -/
def Field.hasPreset (d : Field) : Bool :=
  match d.preset with
  | .null => false
  | _ => true

/-- The given answers, in which every field that has none and has a preset is set to it. -/
def withPresets (fields : List Field) (given : Answers) : Answers :=
  given.update ((fields.filter fun d => given.lacks d.name && d.hasPreset).map fun d =>
    (d.name, d.preset))

/-- A value, or another one in place of nothing. -/
def Value.orElse : Value → Value → Value
  | .null, other => other
  | v, _ => v

/-! ## What is read of a field -/

section Read

variable {given : Answers} {fields : List Field} {d : Field}

/-- A value that is something stays. -/
theorem Value.orElse_of_ne {v : Value} (h : v ≠ .null) (other : Value) : v.orElse other = v := by
  cases v with
  | null => exact absurd rfl h
  | _ => rfl

/-- Nothing is under a name exactly if nothing is read there. -/
theorem Answers.lacks_iff {a : Answers} {name : String} :
    a.lacks name = true ↔ a.get name = .null := by
  unfold lacks
  cases a.get name <;> simp

/-- A field without a preset has nothing in its place. -/
theorem Field.hasPreset_iff : d.hasPreset = true ↔ d.preset ≠ .null := by
  unfold hasPreset
  cases d.preset <;> simp

/-- A field that has an answer is not filled in. -/
theorem fillIn_of_ne {a : Answers} (h : a.get d.name ≠ .null) : fillIn a d = a := by
  unfold fillIn
  split
  · rename_i hnull
    exact absurd hnull h
  · rfl

/-- Filling in a field touches its own answer alone, and that only if there is none. -/
theorem get_fillIn (a : Answers) (d : Field) (name : String) :
    (fillIn a d).get name =
      if d.name = name then (a.get name).orElse d.initial else a.get name := by
  by_cases hvalue : a.get d.name = .null
  · rw [fillIn, hvalue, Answers.get_set]
    split
    · rename_i hname
      rw [← hname, hvalue]
      rfl
    · rfl
  · rw [fillIn_of_ne hvalue]
    split
    · rename_i hname
      rw [← hname, Value.orElse_of_ne hvalue]
    · rfl

/-- What no field is named by stays as it was given. -/
theorem get_initialAnswers_of_not_mem {name : String} (hname : name ∉ fieldNames fields) :
    (initialAnswers fields given).get name = given.get name := by
  unfold initialAnswers
  induction fields generalizing given with
  | nil => rfl
  | cons e rest ih =>
    obtain ⟨hne, hrest⟩ := List.ne_and_not_mem_of_not_mem_cons hname
    rw [List.foldl_cons, ih hrest, get_fillIn, if_neg (Ne.symm hne)]

/-- **What a form opens with in a field**: what is given, or else the initial answer of the field.
-/
theorem get_initialAnswers (hnames : (fieldNames fields).Nodup) (hd : d ∈ fields) :
    (initialAnswers fields given).get d.name = (given.get d.name).orElse d.initial := by
  induction fields generalizing given with
  | nil => cases hd
  | cons e rest ih =>
    obtain ⟨hnew, hrest⟩ := List.nodup_cons.mp hnames
    have hfirst : initialAnswers (e :: rest) given = initialAnswers rest (fillIn given e) := rfl
    rw [hfirst]
    rcases List.mem_cons.mp hd with rfl | hd
    · rw [get_initialAnswers_of_not_mem hnew, get_fillIn, if_pos rfl]
    · have hne : e.name ≠ d.name := fun h => hnew (h ▸ List.mem_map_of_mem hd)
      rw [ih hrest hd, get_fillIn, if_neg hne]

/-- Among the presets of some fields of distinct names, that of a field is found if it is one of
them. -/
theorem lookup_presets (hnames : (fieldNames fields).Nodup) (hd : d ∈ fields)
    (chosen : Field → Bool) :
    ((fields.filter chosen).map fun e => (e.name, e.preset)).reverse.lookup d.name =
      if chosen d then some d.preset else none := by
  have hkeys : ((fields.filter chosen).map fun e => (e.name, e.preset)).reverse.map Prod.fst =
      (fieldNames (fields.filter chosen)).reverse := by
    rw [List.map_reverse, List.map_map]
    rfl
  by_cases hchosen : chosen d = true
  · rw [if_pos hchosen]
    refine lookup_eq_some_of_mem ?_ (List.mem_reverse.mpr (List.mem_map.mpr ⟨d, ?_, rfl⟩))
    · rw [hkeys, List.nodup_reverse]
      exact hnames.sublist (List.filter_sublist.map Field.name)
    · exact List.mem_filter.mpr ⟨hd, hchosen⟩
  · rw [if_neg hchosen]
    refine lookup_eq_none_of_not_mem ?_
    rw [hkeys, List.mem_reverse]
    intro hmem
    obtain ⟨e, he, hname⟩ := List.mem_map.mp hmem
    obtain ⟨hfield, hother⟩ := List.mem_filter.mp he
    obtain rfl := List.inj_on_of_nodup_map hnames hfield hd hname
    exact hchosen hother

/-- **What there is in a field with the presets alone**: what is given, or else the preset. -/
theorem get_withPresets (hnames : (fieldNames fields).Nodup) (hd : d ∈ fields) :
    (withPresets fields given).get d.name = (given.get d.name).orElse d.preset := by
  rw [withPresets, Answers.get, Answers.get?_update, lookup_presets hnames hd]
  by_cases hvalue : given.get d.name = .null
  · have hlacks : given.lacks d.name = true := Answers.lacks_iff.mpr hvalue
    rw [hlacks, Bool.true_and, hvalue]
    by_cases hpreset : d.preset = .null
    · rw [if_neg fun h => Field.hasPreset_iff.mp h hpreset, hpreset]
      exact hvalue
    · rw [if_pos (Field.hasPreset_iff.mpr hpreset)]
      rfl
  · have hlacks : ¬ (given.lacks d.name && d.hasPreset) = true := by
      rw [Bool.and_eq_true, Answers.lacks_iff]
      exact fun h => hvalue h.1
    rw [if_neg hlacks, Value.orElse_of_ne hvalue]
    rfl

end Read

/-! ## Cleaning what is read -/

section Clean

variable {host : Host} {fields : List Field}

/-- Cleaning makes the same of what a fresh field shows as of no answer. -/
theorem FieldType.clean?_freshValue (type : FieldType) :
    type.clean? type.freshValue = type.clean? .null := by
  cases type with
  | number => exact congrArg Except.ok (Cleaning.number_of_isEmpty (v := .text "") rfl)
  | _ => rfl

/-- **Cleaning does not tell a fresh field from one without an answer**, whatever the field's own
cleaner does. -/
theorem Field.clean?_initial (host : Host) (d : Field) (v : Value) :
    d.clean? host (v.orElse d.initial) = d.clean? host (v.orElse d.preset) := by
  cases v with
  | null =>
    show d.clean? host d.initial = d.clean? host d.preset
    unfold initial
    split
    · rename_i hpreset
      rw [hpreset, Field.clean?, Field.clean?, FieldType.clean?_freshValue]
    · rfl
  | _ => rfl

/-- Where every field makes the same of two sets of answers, so does cleaning them all. -/
theorem cleanAll_congr {a b : Answers}
    (h : ∀ d ∈ fields, d.clean? host (a.get d.name) = d.clean? host (b.get d.name)) :
    cleanAll host a fields = cleanAll host b fields := by
  unfold cleanAll
  congr 1
  refine mapM_eq_of_forall₂ (List.forall₂_same.mpr fun d hd => ?_)
  rw [h d hd]

/-! ## Opening a form twice -/

/-- The initial answer of a field is something. -/
theorem Field.initial_ne_null (d : Field) : d.initial ≠ .null := by
  unfold initial
  split
  · cases d.type <;> nofun
  · rename_i hpreset
    exact hpreset

/-- What has something in its place is something. -/
theorem Value.orElse_ne_null {other : Value} (h : other ≠ .null) (v : Value) :
    v.orElse other ≠ .null := by
  cases v with
  | null => exact h
  | _ => nofun

/-- Where every field has an answer, none is filled in. -/
theorem initialAnswers_of_forall {a : Answers} (h : ∀ d ∈ fields, a.get d.name ≠ .null) :
    initialAnswers fields a = a := by
  unfold initialAnswers
  induction fields with
  | nil => rfl
  | cons d rest ih =>
    obtain ⟨hfirst, hrest⟩ := List.forall_mem_cons.mp h
    rw [List.foldl_cons, fillIn_of_ne hfirst, ih hrest]

end Clean

/-- **Opening a form changes nothing about what is sent off.**  The answers that a form opens with
are sanitized like the given ones with the presets alone, fault or not; and a form that is opened
with the answers that it opened with shows them as they are. -/
theorem sanitize_initialAnswers {fields : List Field} (hnames : (fieldNames fields).Nodup)
    (host : Host) (given : Answers) :
    sanitize host fields (initialAnswers fields given) =
        sanitize host fields (withPresets fields given) ∧
      initialAnswers fields (initialAnswers fields given) = initialAnswers fields given := by
  constructor
  · have hclean : cleanAll host (initialAnswers fields given) fields =
        cleanAll host (withPresets fields given) fields := by
      refine cleanAll_congr fun d hd => ?_
      rw [get_initialAnswers hnames hd, get_withPresets hnames hd, Field.clean?_initial]
    unfold sanitize
    rw [hclean]
  · refine initialAnswers_of_forall fun d hd => ?_
    rw [get_initialAnswers hnames hd]
    exact Value.orElse_ne_null d.initial_ne_null (given.get d.name)

/-- A form with a number, a box that is ticked at first, tags with one to start with, and a code
that is put in capitals. -/
def seedForm : List Field :=
  [{ name := "hours", type := .number },
   { name := "agreed", type := .checkbox, preset := .bool true },
   { name := "tags", type := .multiValue, preset := .list [.text "new"] },
   { name := "code", type := .text, preset := .text "ab", cleaner := some (.cleaner .upper),
     condition := some ⟨⟨"agreed", .bool false⟩, false, none⟩ }]

/-- Answers of which one is given as no, and another one as nothing. -/
def seedAnswers : Answers := .ofEntries [("agreed", .bool false), ("tags", .null)]

/-- The number is shown as an empty text and sent off as zero, the box stays as it was given, and
the tags and the code are the presets. -/
theorem sanitize_seedForm :
    (fieldNames seedForm).Nodup ∧
      (initialAnswers seedForm seedAnswers).get "hours" = .text "" ∧
      (∃ s, sanitize Host.none seedForm (initialAnswers seedForm seedAnswers) = .ok s ∧
        sanitize Host.none seedForm (withPresets seedForm seedAnswers) = .ok s ∧
        s.entries = [("hours", .int 0), ("agreed", .bool false), ("tags", .list [.text "new"]),
          ("code", .text "AB")]) ∧
      initialAnswers seedForm (initialAnswers seedForm seedAnswers) =
        initialAnswers seedForm seedAnswers := by
  have hnames : (fieldNames seedForm).Nodup := by decide
  obtain ⟨hsame, hopened⟩ := sanitize_initialAnswers hnames Host.none seedAnswers
  have hresult : ∃ s, sanitize Host.none seedForm (withPresets seedForm seedAnswers) = .ok s ∧
      s.entries = [("hours", .int 0), ("agreed", .bool false), ("tags", .list [.text "new"]),
        ("code", .text "AB")] := ⟨_, rfl, rfl⟩
  obtain ⟨s, hs, hentries⟩ := hresult
  exact ⟨hnames, rfl, ⟨s, hsame.trans hs, hs, hentries⟩, hopened⟩

end Intake
