import Intake.Proofs.Form.Cleaning

/-!
# Blank answers

A value is **blank** for a sort of field if nothing has been entered in it.  Cleaning makes the
empty value of the sort of it, or leaves it as it is if the sort is a date.  For most sorts that is
a value in which still nothing has been entered.  But the empty value of a number is zero and that
of a box is that it is not ticked, and these are values like others.

* `FieldType.clean?_of_isBlank` says what cleaning makes of a blank value;
* `Field.isBlank_of_clean?` says the same of a field whose own cleaner leaves blank values blank.
-/

namespace Intake

/-- A value is **blank** for a sort of field if it is empty, or the empty value of the sort.  For
a password only texts, and nothing at all, can be blank. -/
structure FieldType.IsBlank (type : FieldType) (v : Value) : Prop where
  empty : v.isEmpty = true ∨ v = type.emptyValue
  password : type = .password → v = .null ∨ ∃ s, v = .text s

/-- A field **leaves blanks** if its own cleaner makes blank values of those that its sort has
cleaned and that are blank, and leaves them blank where it fails. -/
def Field.LeavesBlanks (host : Host) (d : Field) : Prop :=
  ∀ f ∈ d.cleaner, ∀ v, d.type.IsBlank v → d.type.clean? v = .ok v →
    (∀ w, f.clean? host v = .ok w → d.type.IsBlank w) ∧
    ∀ fault, f.clean? host v = .error fault → d.type.IsBlank (f.leaves host v)

namespace Cleaning

variable {v : Value}

/-- What is empty has blanks as a text. -/
theorem exists_plainText?_of_isEmpty (h : v.isEmpty = true) :
    ∃ s, plainText? v = .ok s ∧ Text.isBlankText s = true := by
  cases v with
  | text s => exact ⟨s, rfl, h⟩
  | null | list | tuple | set => exact ⟨"", rfl, rfl⟩
  | _ => cases h

/-- The text of what is empty is empty. -/
theorem text?_of_isEmpty (h : v.isEmpty = true) : text? v = .ok "" := by
  obtain ⟨s, hs, hblank⟩ := exists_plainText?_of_isEmpty h
  have hfree := Text.isBracketFree_of_isBlankText hblank
  rw [text?, hs, Except.map, Text.stripTags_of_isBracketFree hfree,
    Text.strip_of_isBlankText hblank]

/-- The mail address of what is empty is empty. -/
theorem email?_of_isEmpty (h : v.isEmpty = true) : email? v = .ok "" := by
  obtain ⟨s, hs, hblank⟩ := exists_plainText?_of_isEmpty h
  rw [email?, hs, Except.map, Text.strip_of_isBlankText hblank]
  rfl

/-- The web address of what is empty is empty. -/
theorem url?_of_isEmpty (h : v.isEmpty = true) : url? v = .ok "" := by
  obtain ⟨s, hs, hblank⟩ := exists_plainText?_of_isEmpty h
  rw [url?, hs, Except.map, Text.strip_of_isBlankText hblank]
  rfl

/-- The number of what is empty is zero. -/
theorem number_of_isEmpty (h : v.isEmpty = true) : number v = .int 0 := by
  cases v with
  | text s =>
    have hplain : Numeral.plain s = Numeral.plain "" := by
      have hstrip : Text.stripChars s.toList = [] := by
        have := congrArg String.toList (Text.strip_of_isBlankText h)
        rwa [Text.strip, String.toList_ofList] at this
      rw [Numeral.plain, hstrip]
      rfl
    show numberText s = .int 0
    rw [numberText, Numeral.readInt, Numeral.readFloat?, hplain]
    rfl
  | null | list | tuple | set => rfl
  | _ => cases h

/-- What is empty does not tick a box. -/
theorem checkbox_of_isEmpty (h : v.isEmpty = true) : checkbox v = false := by
  cases v with
  | text s =>
    rw [checkbox, Text.strip_of_isBlankText h]
    rfl
  | null => rfl
  | list items | tuple items | set items =>
    show (!items.isEmpty) = false
    rw [show items.isEmpty = true from h]
    rfl
  | _ => cases h

/-- The list of what is empty is empty. -/
theorem list?_of_isEmpty (h : v.isEmpty = true) : list? v = .ok [] := by
  cases v with
  | list items | tuple items =>
    obtain rfl : items = [] := List.isEmpty_iff.mp h
    rfl
  | null | text | set => rfl
  | _ => cases h

/-- The password of blanks is empty. -/
theorem password?_of_isBlank (h : v.isEmpty = true) (hv : v = .null ∨ ∃ s, v = .text s) :
    password? v = .ok "" := by
  rcases hv with rfl | ⟨s, rfl⟩
  · rfl
  · show Except.ok (Text.strip s) = .ok ""
    rw [Text.strip_of_isBlankText h]

/-- The date of what is empty is empty, and stays as it is. -/
theorem date_of_isEmpty (h : v.isEmpty = true) :
    (date v).isEmpty = true ∧ date (date v) = date v := by
  cases v with
  | text s =>
    show (Value.text (Text.strip s)).isEmpty = true ∧
      date (.text (Text.strip s)) = .text (Text.strip s)
    rw [Text.strip_of_isBlankText h]
    exact ⟨rfl, rfl⟩
  | null => exact ⟨rfl, rfl⟩
  | list | tuple | set => exact ⟨h, rfl⟩
  | _ => cases h

end Cleaning

/-- A cleaner of the engine leaves a date empty. -/
theorem Cleaner.isEmpty_apply_of_date (c : Cleaner) {v : Value} (h : v.isEmpty = true)
    (hclean : Cleaning.date v = v) : (c.apply v).isEmpty = true := by
  cases v with
  | text s =>
    have hstripped : Text.strip s = s := Value.text.inj hclean
    rw [Text.strip_of_isBlankText h] at hstripped
    rw [← hstripped, Cleaner.apply, c.applyText_empty]
    rfl
  | list items =>
    obtain rfl : items = [] := List.isEmpty_iff.mp h
    rfl
  | null | tuple | set => exact h
  | _ => cases h

namespace FieldType

variable {type : FieldType} {v : Value}

/-- The empty value of a sort is blank. -/
theorem isBlank_emptyValue (type : FieldType) : type.IsBlank type.emptyValue :=
  ⟨.inr rfl, by rintro rfl; exact .inr ⟨"", rfl⟩⟩

/-- A blank value is empty, unless it is a number or a box. -/
theorem IsBlank.isEmpty (h : type.IsBlank v) (hnumber : type ≠ .number)
    (hcheckbox : type ≠ .checkbox) : v.isEmpty = true := by
  rcases h.empty with hempty | rfl
  · exact hempty
  · cases type with
    | number => exact absurd rfl hnumber
    | checkbox => exact absurd rfl hcheckbox
    | _ => rfl

/-- **What cleaning makes of a blank value** is blank, and cleaned; it is the empty value of the
sort, unless that is a date. -/
theorem clean?_of_isBlank (h : type.IsBlank v) :
    ∃ w, type.clean? v = .ok w ∧ type.IsBlank w ∧ type.clean? w = .ok w ∧
      (type ≠ .date → w = type.emptyValue) := by
  have hstays : type.clean? v = .ok type.emptyValue → ∃ w, type.clean? v = .ok w ∧
      type.IsBlank w ∧ type.clean? w = .ok w ∧ (type ≠ .date → w = type.emptyValue) :=
    fun hclean => ⟨_, hclean, isBlank_emptyValue type, (clean?_emptyValue type).1, fun _ => rfl⟩
  rcases h.empty with hempty | rfl
  · cases type with
    | text | textarea | select =>
      exact hstays (congrArg (Except.map Value.text) (Cleaning.text?_of_isEmpty hempty))
    | email => exact hstays (congrArg (Except.map Value.text) (Cleaning.email?_of_isEmpty hempty))
    | url => exact hstays (congrArg (Except.map Value.text) (Cleaning.url?_of_isEmpty hempty))
    | number => exact hstays (congrArg Except.ok (Cleaning.number_of_isEmpty hempty))
    | checkbox =>
      exact hstays (congrArg (fun b => Except.ok (Value.bool b))
        (Cleaning.checkbox_of_isEmpty hempty))
    | multiSelect | multiValue =>
      exact hstays (congrArg (Except.map fun texts : List String => Value.list (texts.map .text))
        (Cleaning.list?_of_isEmpty hempty))
    | password =>
      exact hstays (congrArg (Except.map Value.text)
        (Cleaning.password?_of_isBlank hempty (h.password rfl)))
    | date =>
      obtain ⟨hstill, hagain⟩ := Cleaning.date_of_isEmpty hempty
      exact ⟨_, rfl, ⟨.inl hstill, nofun⟩, congrArg Except.ok hagain, fun hne => absurd rfl hne⟩
  · exact hstays (clean?_emptyValue type).1

end FieldType

section Field

variable {host : Host} {d : Field} {v : Value}

/-- The cleaners of the engine leave blanks. -/
theorem Field.leavesBlanks_of_cleaner (h : ∀ f ∈ d.cleaner, ∃ c, f = .cleaner c) :
    d.LeavesBlanks host := by
  intro f hf v hv hclean
  obtain ⟨c, rfl⟩ := h f hf
  refine ⟨?_, nofun⟩
  rintro w ⟨⟩
  obtain ⟨u, hu, -, -, hempty⟩ := FieldType.clean?_of_isBlank hv
  cases hclean.symm.trans hu
  by_cases hdate : d.type = .date
  · have hstill : (c.apply v).isEmpty = true := by
      refine c.isEmpty_apply_of_date (hv.isEmpty ?_ ?_) ?_
      · simp [hdate]
      · simp [hdate]
      · rw [hdate] at hclean
        exact Except.ok.inj hclean
    exact ⟨.inl hstill, by simp [hdate]⟩
  · rw [hempty hdate, (FieldType.clean?_emptyValue d.type).2 c]
    exact FieldType.isBlank_emptyValue d.type

/-- What a cleaner that fails leaves of the empty value of a sort is that value, if it is blank. -/
theorem Callable.leaves_emptyValue {f : Callable Value} {type : FieldType}
    (h : type.IsBlank (f.leaves host type.emptyValue)) :
    f.leaves host type.emptyValue = type.emptyValue := by
  cases f with
  | host name =>
    rw [leaves] at h ⊢
    split at h
    · rename_i hchanged
      rw [if_pos hchanged]
      obtain ⟨hchangeable, hkind⟩ := Bool.and_eq_true_iff.mp hchanged
      have hlist : type.emptyValue = .list [] := by
        cases type <;> first | rfl | cases hchangeable
      rw [hlist] at h hkind ⊢
      obtain hempty | hempty := h.empty
      · cases hleft : host.left name (.list []) with
        | list items =>
          rw [hleft] at hempty
          rw [List.isEmpty_iff.mp hempty]
        | _ =>
          rw [hleft] at hkind
          cases of_decide_eq_true hkind
      · rw [hempty, hlist]
    · rename_i hchanged
      rw [if_neg hchanged]
  | _ => rfl

/-- **What a field makes of a blank value**, if it makes anything, is blank, if the field leaves
blanks; it is the empty value of the sort, unless that is a date. -/
theorem Field.isBlank_of_clean? (hleaves : d.LeavesBlanks host) (h : d.type.IsBlank v) {w : Value}
    (hw : d.clean? host v = .ok w) :
    d.type.IsBlank w ∧ (d.type ≠ .date → w = d.type.emptyValue) := by
  obtain ⟨plain, hplain, hblank, hstays, hempty⟩ := FieldType.clean?_of_isBlank h
  cases Field.clean?_eq_ok_iff.mp hw with
  | plain _ hw =>
    cases hplain.symm.trans hw
    exact ⟨hblank, hempty⟩
  | again hsome hcleaned hown hw =>
    cases hplain.symm.trans hcleaned
    obtain ⟨hgiven, -⟩ := hleaves _ hsome plain hblank hstays
    obtain ⟨w', hw', hblank', -, hempty'⟩ := FieldType.clean?_of_isBlank (hgiven _ hown)
    cases hw.symm.trans hw'
    exact ⟨hblank', hempty'⟩
  | left hsome hcleaned hfault =>
    cases hplain.symm.trans hcleaned
    obtain ⟨-, hleft⟩ := hleaves _ hsome plain hblank hstays
    have hstill := hleft _ hfault
    refine ⟨hstill, fun hdate => ?_⟩
    rw [hempty hdate] at hstill ⊢
    exact Callable.leaves_emptyValue hstill

end Field

end Intake
