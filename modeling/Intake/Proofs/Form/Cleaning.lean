import Intake.Form.Cleaning
import Intake.Proofs.Fault
import Intake.Proofs.Net.WebAddress
import Intake.Proofs.Number.Binary64
import Intake.Proofs.Text.Case

/-!
# Cleaned values stay as they are

Cleaning brings a value to a form in which cleaning has nothing left to do.  A field's own
cleaner comes between two runs of its type's cleaning, so the form has to be one that the two
of them together leave alone.

* `FieldType.clean?_idem` is about the cleaning of a type by itself;
* `FieldType.clean?_apply` is about a cleaner of the engine between two runs of it;
* `Field.CleansTo` lists the ways in which a field brings a value to its form, and
  `Field.clean?_eq_ok_iff` says that there are no others;
* `Field.clean?_idem` is the conclusion for fields.

Web addresses are the exception: that an address reads back as it was written is no fact of
cleaning, so it is asked for where it is needed, by `Field.Rereads`.
-/

namespace Intake

namespace Cleaner

/-- What a cleaner has done to a text it does not do again. -/
theorem applyText_idem (c : Cleaner) (s : String) :
    c.applyText (c.applyText s) = c.applyText s := by
  cases c with
  | collapseBlanks => exact Text.collapseBlanks_idem s
  | lower => exact Text.lower_idem s
  | upper => exact Text.upper_idem s

/-- An empty text has nothing for a cleaner to change. -/
theorem applyText_empty (c : Cleaner) : c.applyText "" = "" := by
  cases c <;> rfl

/-- A cleaner puts no blank at an end of a text. -/
theorem isTrimmed_applyText (c : Cleaner) {s : String} (h : Text.IsTrimmed s) :
    Text.IsTrimmed (c.applyText s) := by
  cases c with
  | collapseBlanks => exact Text.isTrimmed_collapseBlanks s
  | lower => exact h.lower
  | upper => exact h.upper

/-- A cleaner puts no angle bracket into a text. -/
theorem isBracketFree_applyText (c : Cleaner) {s : String} (h : Text.IsBracketFree s) :
    Text.IsBracketFree (c.applyText s) := by
  cases c with
  | collapseBlanks => exact h.collapseBlanks
  | lower => exact h.lower
  | upper => exact h.upper

/-- What a cleaner has done to a value it does not do again. -/
theorem apply_idem (c : Cleaner) (v : Value) : c.apply (c.apply v) = c.apply v := by
  cases v with
  | text s => simp only [apply, applyText_idem]
  | list items =>
    simp only [apply, List.map_map, Value.list.injEq]
    refine List.map_congr_left fun item _ => ?_
    cases item <;> simp [applyText_idem]
  | _ => rfl

end Cleaner

namespace Cleaning

/-- A text as it is after cleaning: no blank at either end, and no angle brackets. -/
def IsCleanText (s : String) : Prop := Text.IsTrimmed s ∧ Text.IsBracketFree s

/-- A cleaned text is clean. -/
theorem isCleanText_of_text? {v : Value} {s : String} (h : text? v = .ok s) : IsCleanText s := by
  obtain ⟨plain, -, rfl⟩ := exists_of_map_eq_ok h
  exact ⟨Text.isTrimmed_strip _, (Text.isBracketFree_stripTags plain).strip⟩

/-- A clean text is left as it is. -/
theorem text?_of_isCleanText {s : String} (h : IsCleanText s) : text? (.text s) = .ok s := by
  simp only [text?, plainText?, Except.map]
  rw [Text.stripTags_of_isBracketFree h.2, Text.strip_of_isTrimmed h.1]

/-- A cleaner keeps a text clean. -/
theorem IsCleanText.applyText {s : String} (h : IsCleanText s) (c : Cleaner) :
    IsCleanText (c.applyText s) :=
  ⟨c.isTrimmed_applyText h.1, c.isBracketFree_applyText h.2⟩

/-- Clean items are left as they are. -/
theorem mapM_text? {texts : List String} (h : ∀ s ∈ texts, IsCleanText s) :
    (texts.map Value.text).mapM text? = .ok texts := by
  refine mapM_eq_ok_of_forall₂ (List.forall₂_map_left_iff.mpr (List.forall₂_same.mpr ?_))
  exact fun s hs => text?_of_isCleanText (h s hs)

/-- A list of clean texts keeps those that are not empty. -/
theorem list?_of_isCleanText {texts : List String} (h : ∀ s ∈ texts, IsCleanText s) :
    list? (.list (texts.map .text)) = .ok (texts.filter fun s => !s.isEmpty) := by
  simp only [list?, Value.sequence?, mapM_text? h, Except.map]

/-- The texts of a cleaned list are clean and not empty. -/
theorem isCleanText_of_list? {v : Value} {texts : List String} (h : list? v = .ok texts) :
    ∀ s ∈ texts, IsCleanText s ∧ s.isEmpty = false := by
  unfold list? at h
  cases hitems : v.sequence? with
  | none =>
    rw [hitems] at h
    cases h
    simp
  | some items =>
    rw [hitems] at h
    obtain ⟨all, hall, rfl⟩ := exists_of_map_eq_ok h
    intro s hs
    obtain ⟨hmem, hne⟩ := List.mem_filter.mp hs
    refine ⟨?_, by simpa using hne⟩
    obtain ⟨item, -, hitem⟩ := exists_of_mem_mapM hall hmem
    exact isCleanText_of_text? hitem

/-- A cleaned mail address has no blank at either end and is small. -/
theorem isSmall_of_email? {v : Value} {s : String} (h : email? v = .ok s) :
    Text.IsTrimmed s ∧ ∀ c ∈ s.toList, Text.IsSmall c := by
  obtain ⟨plain, -, rfl⟩ := exists_of_map_eq_ok h
  exact ⟨(Text.isTrimmed_strip plain).lower, Text.isSmall_of_mem_lower⟩

/-- A small mail address without a blank at either end is left as it is. -/
theorem email?_of_isSmall {s : String} (htrimmed : Text.IsTrimmed s)
    (hsmall : ∀ c ∈ s.toList, Text.IsSmall c) : email? (.text s) = .ok s := by
  simp only [email?, plainText?, Except.map]
  rw [Text.strip_of_isTrimmed htrimmed, Text.lower_of_isSmall hsmall]

/-- A mail address is put in small letters and its outer blanks go. -/
theorem email?_of_isTrimmed {s : String} (htrimmed : Text.IsTrimmed s) :
    email? (.text s) = .ok (Text.lower s) := by
  simp only [email?, plainText?, Except.map]
  rw [Text.strip_of_isTrimmed htrimmed]

/-- A cleaned password has no blank at either end. -/
theorem isTrimmed_of_password? {v : Value} {s : String} (h : password? v = .ok s) :
    Text.IsTrimmed s := by
  unfold password? at h
  split at h
  · cases h
    exact Text.isTrimmed_of_forall (by simp)
  · obtain ⟨plain, -, rfl⟩ := exists_of_map_eq_ok h
    exact Text.isTrimmed_strip plain

/-- A password without a blank at either end is left as it is. -/
theorem password?_of_isTrimmed {s : String} (h : Text.IsTrimmed s) :
    password? (.text s) = .ok s := by
  simp only [password?, Value.text?, Except.map]
  rw [Text.strip_of_isTrimmed h]

/-- A text without a blank at either end is read as a web address as it stands. -/
theorem url?_of_isTrimmed {s : String} (h : Text.IsTrimmed s) :
    url? (.text s) = .ok ((WebAddress.normal? s).getD "") := by
  simp only [url?, plainText?, Except.map]
  rw [Text.strip_of_isTrimmed h]

/-- A cleaned web address was written by reading some text, or is empty. -/
theorem url?_cases {v : Value} {s : String} (h : url? v = .ok s) : s = "" ∨
    ∃ plain, plainText? v = .ok plain ∧ WebAddress.normal? (Text.strip plain) = some s := by
  obtain ⟨plain, hplain, rfl⟩ := exists_of_map_eq_ok h
  cases hnormal : WebAddress.normal? (Text.strip plain) with
  | none => exact .inl rfl
  | some u => exact .inr ⟨plain, hplain, hnormal⟩

/-- An empty text writes no web address. -/
theorem url?_empty : url? (.text "") = .ok "" := by
  rw [url?_of_isTrimmed (Text.isTrimmed_of_forall (by simp))]
  rfl

/-- A web address that reads back as it was written is left as it is. -/
theorem url?_of_normal? {u : String} (h : WebAddress.normal? u = some u) :
    url? (.text u) = .ok u := by
  rw [url?_of_isTrimmed (Text.isTrimmed_of_forall (WebAddress.isBlank_of_mem_normal? h)), h]
  rfl

/-- A **clean number** is an integer in the range of floating point, or a finite number of it. -/
inductive IsCleanNumber : Value → Prop where
  | int {n : Int} (h : (Binary64.ofInt? n).isSome = true) : IsCleanNumber (.int n)
  | float {x : Binary64} (h : x.isFinite = true) : IsCleanNumber (.float x)

/-- An integer of less than 1024 bits is a clean number. -/
theorem isCleanNumber_int {n : Int} {bits : Nat} (hbits : bits < 1024) (h : n.natAbs < 2 ^ bits) :
    IsCleanNumber (.int n) :=
  .int (Binary64.isSome_ofInt? hbits h)

/-- Zero is a clean number. -/
theorem isCleanNumber_zero : IsCleanNumber (.int 0) :=
  isCleanNumber_int (by decide : 0 < 1024) (by decide)

/-- An integer becomes a clean number. -/
theorem isCleanNumber_integer (n : Int) : IsCleanNumber (integer n) := by
  unfold integer
  split
  · rename_i hrange
    exact .int hrange
  · exact isCleanNumber_zero

/-- So does a number of floating point. -/
theorem isCleanNumber_decimal (x : Binary64) : IsCleanNumber (decimal x) := by
  unfold decimal
  split
  · rename_i hfinite
    exact .float hfinite
  · exact isCleanNumber_zero

/-- **A cleaned number is clean**, whatever it was cleaned from. -/
theorem isCleanNumber_number (v : Value) : IsCleanNumber (number v) := by
  cases v with
  | bool b =>
    have hbit : (if b = true then (1 : Int) else 0).natAbs < 2 ^ 1 := by cases b <;> decide
    exact isCleanNumber_int (by decide) hbit
  | int n => exact isCleanNumber_integer n
  | float x => exact isCleanNumber_decimal x
  | text s =>
    simp only [number, numberText]
    cases Numeral.readInt s with
    | ok n => exact isCleanNumber_integer n
    | error fault =>
      cases Numeral.readFloat? s with
      | some x => exact isCleanNumber_decimal x
      | none => exact isCleanNumber_zero
  | _ => exact isCleanNumber_zero

/-- A clean number is left as it is. -/
theorem IsCleanNumber.number_eq {v : Value} (h : IsCleanNumber v) : number v = v := by
  cases h with
  | int h => rw [number, integer, if_pos h]
  | float h => rw [number, decimal, if_pos h]

/-- A cleaner has nothing to do on a clean number. -/
theorem IsCleanNumber.apply_eq {v : Value} (h : IsCleanNumber v) (c : Cleaner) : c.apply v = v := by
  cases h with
  | int => rfl
  | float => rfl

end Cleaning

/-- A web address that was read and written reads back as it was written. -/
def WebAddress.Rereads (v : Value) : Prop :=
  ∀ s u, Cleaning.plainText? v = .ok s → WebAddress.normal? (Text.strip s) = some u →
    WebAddress.normal? u = some u

/-- A web address in which the case was changed reads back as it was written, and so it does
when the case is changed once more. -/
def WebAddress.RereadsInCase (c : Cleaner) (v : Value) : Prop :=
  ∀ s u w, Cleaning.plainText? v = .ok s → WebAddress.normal? (Text.strip s) = some u →
    WebAddress.normal? (c.applyText u) = some w →
      WebAddress.normal? w = some w ∧ WebAddress.normal? (c.applyText w) = some w

/-- A web address that a field reads reads back as it was written, also after the change of
case that the field's own cleaner makes. -/
def Field.Rereads (d : Field) (v : Value) : Prop :=
  d.type = .url → WebAddress.Rereads v ∧
    ∀ c ∈ [Cleaner.lower, Cleaner.upper], d.cleaner = some (.cleaner c) →
      WebAddress.RereadsInCase c v

/-- In a field of another sort no web address is read. -/
theorem Field.rereads_of_ne {d : Field} (h : d.type ≠ .url) (v : Value) : d.Rereads v :=
  fun hurl => absurd hurl h

namespace FieldType

open Cleaning

/-- A cleaned text is not changed by cleaning. -/
theorem map_text?_idem {v w : Value} (h : (text? v).map Value.text = .ok w) :
    (text? w).map Value.text = .ok w := by
  obtain ⟨s, hs, rfl⟩ := exists_of_map_eq_ok h
  rw [text?_of_isCleanText (isCleanText_of_text? hs)]
  rfl

/-- A cleaned list of texts is not changed by cleaning. -/
theorem map_list?_idem {v w : Value}
    (h : (list? v).map (fun texts => Value.list (texts.map .text)) = .ok w) :
    (list? w).map (fun texts => Value.list (texts.map .text)) = .ok w := by
  obtain ⟨texts, htexts, rfl⟩ := exists_of_map_eq_ok h
  have hclean := isCleanText_of_list? htexts
  rw [list?_of_isCleanText fun s hs => (hclean s hs).1,
    List.filter_eq_self.mpr fun s hs => by simp [(hclean s hs).2]]
  rfl

/-- **Cleaned once, cleaned for good**, by the cleaning of a type alone. -/
theorem clean?_idem {type : FieldType} {v w : Value} (h : type.clean? v = .ok w)
    (hurl : type = .url → WebAddress.Rereads v) : type.clean? w = .ok w := by
  cases type with
  | text => exact map_text?_idem h
  | textarea => exact map_text?_idem h
  | select => exact map_text?_idem h
  | multiSelect => exact map_list?_idem h
  | multiValue => exact map_list?_idem h
  | email =>
    obtain ⟨s, hs, rfl⟩ := exists_of_map_eq_ok h
    obtain ⟨htrimmed, hsmall⟩ := isSmall_of_email? hs
    simp only [clean?, email?_of_isSmall htrimmed hsmall, Except.map]
  | url =>
    obtain ⟨s, hs, rfl⟩ := exists_of_map_eq_ok h
    have hkept : url? (.text s) = .ok s := by
      rcases url?_cases hs with rfl | ⟨plain, hplain, hnormal⟩
      · exact url?_empty
      · exact url?_of_normal? (hurl rfl plain s hplain hnormal)
    simp only [clean?, hkept, Except.map]
  | number =>
    cases h
    exact congrArg Except.ok (isCleanNumber_number v).number_eq
  | checkbox =>
    cases h
    rfl
  | date =>
    cases h
    cases v with
    | text s =>
      show Except.ok (Value.text (Text.strip (Text.strip s))) = _
      rw [Text.strip_of_isTrimmed (Text.isTrimmed_strip s)]
      rfl
    | _ => rfl
  | password =>
    obtain ⟨s, hs, rfl⟩ := exists_of_map_eq_ok h
    simp only [clean?, password?_of_isTrimmed (isTrimmed_of_password? hs), Except.map]

/-- A cleaning of texts whose results have a property, which the cleaning keeps and a cleaner
too, leaves alone what it makes of what the cleaner made of its result. -/
theorem map_text_apply {clean : Value → Except Fault String} {P : String → Prop} {c : Cleaner}
    {v first w : Value} (hgives : ∀ {s}, clean v = .ok s → P s)
    (hkeeps : ∀ {s}, P s → clean (.text s) = .ok s) (happly : ∀ {s}, P s → P (c.applyText s))
    (hfirst : (clean v).map .text = .ok first)
    (hsecond : (clean (c.apply first)).map .text = .ok w) :
    (clean (c.apply w)).map .text = .ok w := by
  obtain ⟨s, hs, rfl⟩ := exists_of_map_eq_ok hfirst
  have hown := happly (hgives hs)
  obtain rfl : w = .text (c.applyText s) := by
    rw [Cleaner.apply, hkeeps hown] at hsecond
    cases hsecond
    rfl
  rw [Cleaner.apply, c.applyText_idem, hkeeps hown]
  rfl

/-- The same for the cleaning of lists. -/
theorem map_list_apply {c : Cleaner} {v first w : Value}
    (hfirst : (list? v).map (fun texts => Value.list (texts.map .text)) = .ok first)
    (hsecond : (list? (c.apply first)).map (fun texts => Value.list (texts.map .text)) = .ok w) :
    (list? (c.apply w)).map (fun texts => Value.list (texts.map .text)) = .ok w := by
  obtain ⟨texts, htexts, rfl⟩ := exists_of_map_eq_ok hfirst
  obtain ⟨own, hown, rfl⟩ := exists_of_map_eq_ok hsecond
  have hmap : ∀ texts : List String, c.apply (.list (texts.map .text)) =
      .list ((texts.map c.applyText).map .text) := by
    intro texts
    simp [Cleaner.apply, List.map_map, Function.comp_def]
  have hclean : ∀ s ∈ texts.map c.applyText, IsCleanText s := by
    intro s hs
    obtain ⟨plain, hplain, rfl⟩ := List.mem_map.mp hs
    exact (isCleanText_of_list? htexts plain hplain).1.applyText c
  rw [hmap, list?_of_isCleanText hclean] at hown
  obtain rfl : (texts.map c.applyText).filter (fun s => !s.isEmpty) = own := by simpa using hown
  -- what the cleaner has been over already, it leaves as it is
  have hfixed : ∀ s ∈ (texts.map c.applyText).filter fun s => !s.isEmpty,
      c.applyText s = s := by
    intro s hs
    obtain ⟨plain, -, rfl⟩ := List.mem_map.mp (List.mem_of_mem_filter hs)
    exact c.applyText_idem plain
  have hkept : ∀ s ∈ (texts.map c.applyText).filter fun s => !s.isEmpty, IsCleanText s :=
    fun s hs => hclean s (List.mem_of_mem_filter hs)
  rw [hmap, List.map_congr_left hfixed, List.map_id', list?_of_isCleanText hkept,
    List.filter_filter]
  simp only [Bool.and_self]
  rfl

/-- Between two cleanings of a mail address a cleaner changes it only once. -/
theorem email_apply {c : Cleaner} {v first w : Value}
    (hfirst : (email? v).map .text = .ok first)
    (hsecond : (email? (c.apply first)).map .text = .ok w) :
    (email? (c.apply w)).map .text = .ok w := by
  have hkeeps : ∀ {s}, Text.IsTrimmed s ∧ (∀ c ∈ s.toList, Text.IsSmall c) →
      email? (.text s) = .ok s := fun h => email?_of_isSmall h.1 h.2
  cases c with
  | collapseBlanks =>
    refine map_text_apply isSmall_of_email? hkeeps ?_ hfirst hsecond
    intro s h
    refine ⟨Text.isTrimmed_collapseBlanks s, fun c hc => ?_⟩
    rcases Text.mem_of_mem_collapseBlanks hc with rfl | hmem
    · exact ⟨by decide, by rfl⟩
    · exact h.2 c hmem
  | lower =>
    refine map_text_apply isSmall_of_email? hkeeps ?_ hfirst hsecond
    exact fun h => ⟨h.1.lower, Text.isSmall_of_mem_lower⟩
  | upper =>
    -- the capitals do not stay, but what they become small again does
    obtain ⟨s, hs, rfl⟩ := exists_of_map_eq_ok hfirst
    obtain ⟨htrimmed, hsmall⟩ := isSmall_of_email? hs
    have hread : email? (Cleaner.upper.apply (.text s)) = .ok (Text.lower (Text.upper s)) :=
      email?_of_isTrimmed htrimmed.upper
    obtain rfl : w = .text (Text.lower (Text.upper s)) := by
      rw [hread] at hsecond
      cases hsecond
      rfl
    have hagain : email? (Cleaner.upper.apply (.text (Text.lower (Text.upper s)))) =
        .ok (Text.lower (Text.upper (Text.lower (Text.upper s)))) :=
      email?_of_isTrimmed htrimmed.upper.lower.upper
    rw [hagain, Text.lower_upper_idem hsmall]
    rfl

/-- Between two cleanings of a web address a cleaner changes it only once, as far as the
address reads back. -/
theorem url_apply {c : Cleaner} {v first w : Value} (hrereads : WebAddress.Rereads v)
    (hcase : c ≠ .collapseBlanks → WebAddress.RereadsInCase c v)
    (hfirst : (url? v).map .text = .ok first)
    (hsecond : (url? (c.apply first)).map .text = .ok w) :
    (url? w).map .text = .ok w ∧ (url? (c.apply w)).map .text = .ok w := by
  have hempty : url? (c.apply (.text "")) = .ok "" := by
    rw [Cleaner.apply, c.applyText_empty, url?_empty]
  obtain ⟨u, hu, rfl⟩ := exists_of_map_eq_ok hfirst
  rcases url?_cases hu with rfl | ⟨plain, hplain, hnormal⟩
  · rw [hempty] at hsecond
    cases hsecond
    rw [hempty, url?_empty]
    exact ⟨rfl, rfl⟩
  have hsolid := WebAddress.isBlank_of_mem_normal? hnormal
  by_cases hc : c = .collapseBlanks
  · subst hc
    have hkept : Cleaner.collapseBlanks.apply (.text u) = .text u :=
      congrArg Value.text (Text.collapseBlanks_of_forall hsolid)
    have hread := url?_of_normal? (hrereads plain u hplain hnormal)
    rw [hkept, hread] at hsecond
    cases hsecond
    rw [hkept, hread]
    exact ⟨rfl, rfl⟩
  · have htrimmed := c.isTrimmed_applyText (Text.isTrimmed_of_forall hsolid)
    rw [Cleaner.apply, url?_of_isTrimmed htrimmed] at hsecond
    cases hread : WebAddress.normal? (c.applyText u) with
    | none =>
      rw [hread] at hsecond
      cases hsecond
      exact ⟨congrArg (Except.map Value.text) url?_empty, congrArg (Except.map Value.text) hempty⟩
    | some x =>
      rw [hread] at hsecond
      cases hsecond
      obtain ⟨hback, hagain⟩ := hcase hc plain u x hplain hnormal hread
      have hx := Text.isTrimmed_of_forall (WebAddress.isBlank_of_mem_normal? hread)
      rw [Option.getD_some, Cleaner.apply, url?_of_normal? hback,
        url?_of_isTrimmed (c.isTrimmed_applyText hx), hagain]
      exact ⟨rfl, rfl⟩

/-- Between two cleanings of a day a cleaner changes it only once. -/
theorem date_apply (c : Cleaner) (v : Value) :
    Cleaning.date (c.apply (Cleaning.date (c.apply (Cleaning.date v)))) =
      Cleaning.date (c.apply (Cleaning.date v)) := by
  have htext : ∀ {s}, Text.IsTrimmed s →
      Cleaning.date (c.apply (Cleaning.date (c.apply (.text s)))) =
        Cleaning.date (c.apply (.text s)) := by
    intro s htrimmed
    have hown := Text.strip_of_isTrimmed (c.isTrimmed_applyText htrimmed)
    simp only [Cleaner.apply, Cleaning.date, hown, c.applyText_idem]
  cases v with
  | null => exact htext (Text.isTrimmed_of_forall (by simp))
  | text s => exact htext (Text.isTrimmed_strip s)
  | list items =>
    show Cleaning.date (c.apply (c.apply (.list items))) = _
    rw [c.apply_idem]
    rfl
  | _ => rfl

/-- **A cleaner between two cleanings** has no more to change in what they gave. -/
theorem clean?_apply {type : FieldType} {c : Cleaner} {v first w : Value}
    (hfirst : type.clean? v = .ok first) (hsecond : type.clean? (c.apply first) = .ok w)
    (hurl : type = .url → WebAddress.Rereads v ∧
      (c ≠ .collapseBlanks → WebAddress.RereadsInCase c v)) :
    type.clean? w = .ok w ∧ type.clean? (c.apply w) = .ok w := by
  by_cases hsort : type = .url
  · subst hsort
    exact url_apply (hurl rfl).1 (hurl rfl).2 hfirst hsecond
  refine ⟨clean?_idem hsecond fun h => absurd h hsort, ?_⟩
  have htext : (text? v).map .text = .ok first → (text? (c.apply first)).map .text = .ok w →
      (text? (c.apply w)).map .text = .ok w :=
    map_text_apply isCleanText_of_text? text?_of_isCleanText (fun h => h.applyText c)
  cases type with
  | text => exact htext hfirst hsecond
  | textarea => exact htext hfirst hsecond
  | select => exact htext hfirst hsecond
  | multiSelect => exact map_list_apply hfirst hsecond
  | multiValue => exact map_list_apply hfirst hsecond
  | email => exact email_apply hfirst hsecond
  | url => exact absurd rfl hsort
  | number =>
    cases hfirst
    cases hsecond
    show Except.ok (Cleaning.number (c.apply (Cleaning.number (c.apply (Cleaning.number v))))) = _
    have hclean := isCleanNumber_number v
    rw [hclean.apply_eq, hclean.number_eq, hclean.apply_eq, hclean.number_eq]
  | checkbox =>
    cases hfirst
    cases hsecond
    rfl
  | date =>
    cases hfirst
    cases hsecond
    exact congrArg Except.ok (date_apply c v)
  | password =>
    exact map_text_apply isTrimmed_of_password? password?_of_isTrimmed c.isTrimmed_applyText
      hfirst hsecond

end FieldType

/-- **How a field brings a value to its form.**  Its sort does, and after that its own cleaner, if
it has one: what this gives is cleaned again, and if it fails there remains what it was handed, as
it left it. -/
inductive Field.CleansTo (host : Host) (d : Field) (v : Value) : Value → Prop where
  | plain {w : Value} (hnone : d.cleaner = none) (hw : d.type.clean? v = .ok w) :
      CleansTo host d v w
  | again {f : Callable Value} {cleaned own w : Value} (hsome : d.cleaner = some f)
      (hcleaned : d.type.clean? v = .ok cleaned) (hown : f.clean? host cleaned = .ok own)
      (hw : d.type.clean? own = .ok w) : CleansTo host d v w
  | left {f : Callable Value} {cleaned : Value} {fault : Fault} (hsome : d.cleaner = some f)
      (hcleaned : d.type.clean? v = .ok cleaned) (hfault : f.clean? host cleaned = .error fault)
      (hworded : fault.IsWorded) : CleansTo host d v (f.leaves host cleaned)

theorem Field.clean?_eq_ok_iff {host : Host} {d : Field} {v w : Value} :
    d.clean? host v = .ok w ↔ d.CleansTo host v w := by
  constructor
  · intro h
    obtain ⟨cleaned, hcleaned, h⟩ := exists_of_bind_eq_ok h
    cases hcleaner : d.cleaner with
    | none =>
      rw [hcleaner] at h
      cases h
      exact .plain hcleaner hcleaned
    | some f =>
      rw [hcleaner] at h
      dsimp only at h
      cases hf : f.clean? host cleaned with
      | ok own =>
        rw [hf] at h
        exact .again hcleaner hcleaned hf h
      | error fault =>
        rw [hf] at h
        obtain ⟨hworded, rfl⟩ := Fault.passOver_eq_ok_iff.mp h
        exact .left hcleaner hcleaned hf hworded
  · rintro (⟨hnone, hw⟩ | ⟨hsome, hcleaned, hown, hw⟩ | ⟨hsome, hcleaned, hfault, hworded⟩)
    · rw [clean?, hw, hnone]
      rfl
    · rw [clean?, hcleaned, hsome]
      dsimp only [bind, Except.bind]
      rw [hown]
      exact hw
    · rw [clean?, hcleaned, hsome]
      dsimp only [bind, Except.bind]
      rw [hfault]
      exact hworded.passOver _

/-- **Cleaned once, cleaned for good**: what a field that names no cleaner, or one of the
engine, brings a value to is brought to itself. -/
theorem Field.clean?_idem {host : Host} {d : Field}
    (hcleaner : ∀ f ∈ d.cleaner, ∃ c, f = .cleaner c) {v w : Value} (hrereads : d.Rereads v)
    (h : d.clean? host v = .ok w) : d.clean? host w = .ok w := by
  rw [Field.clean?_eq_ok_iff]
  cases Field.clean?_eq_ok_iff.mp h with
  | plain hnone hw =>
    exact .plain hnone (FieldType.clean?_idem hw fun hsort => (hrereads hsort).1)
  | @again f cleaned own w hd hcleaned hown hw =>
    obtain ⟨c, rfl⟩ := hcleaner f hd
    cases hown
    obtain ⟨hkept, hagain⟩ := FieldType.clean?_apply hcleaned hw fun hsort =>
      ⟨(hrereads hsort).1, fun hc => (hrereads hsort).2 c (by cases c <;> simp_all) hd⟩
    exact .again hd hkept rfl hagain
  | @left f cleaned fault hd hcleaned hfault =>
    obtain ⟨c, rfl⟩ := hcleaner f hd
    cases hfault

/-- The cleaning of a type leaves its empty value as it is, also after a cleaner. -/
theorem FieldType.clean?_emptyValue (type : FieldType) :
    type.clean? type.emptyValue = .ok type.emptyValue ∧
      ∀ c : Cleaner, c.apply type.emptyValue = type.emptyValue := by
  have hclean : Cleaning.IsCleanText "" :=
    ⟨Text.isTrimmed_of_forall (by simp), fun c hc => by simp at hc⟩
  constructor
  · cases type with
    | text | textarea | select =>
      exact congrArg (Except.map Value.text) (Cleaning.text?_of_isCleanText hclean)
    | email =>
      exact congrArg (Except.map Value.text) (Cleaning.email?_of_isTrimmed hclean.1)
    | url => exact congrArg (Except.map Value.text) Cleaning.url?_empty
    | password => exact congrArg (Except.map Value.text) (Cleaning.password?_of_isTrimmed hclean.1)
    | number => exact congrArg Except.ok (Cleaning.isCleanNumber_number .null).number_eq
    | multiSelect | multiValue | checkbox | date => rfl
  · intro c
    cases type <;> first | rfl | exact congrArg Value.text (c.applyText_empty)

/-- A field leaves the empty value of its sort as it is. -/
theorem Field.clean?_emptyValue {host : Host} {d : Field}
    (hcleaner : ∀ f ∈ d.cleaner, ∃ c, f = .cleaner c) :
    d.clean? host d.type.emptyValue = .ok d.type.emptyValue := by
  obtain ⟨hempty, happly⟩ := d.type.clean?_emptyValue
  unfold Field.clean?
  rw [hempty]
  cases hd : d.cleaner with
  | none => rfl
  | some f =>
    obtain ⟨c, rfl⟩ := hcleaner f hd
    show d.type.clean? (c.apply d.type.emptyValue) = _
    rw [happly, hempty]

end Intake
