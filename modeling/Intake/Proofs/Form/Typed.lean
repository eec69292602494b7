import Intake.Proofs.Form.Invariant
import Intake.Proofs.Form.Sanitize
import Intake.Schema.Rule

/-!
# Sanitized values are of their sort

Cleaning and checking go by the sort of a field, each by its own table.  What holds the two
together is what a cleaned value of each sort looks like: `FieldType.Holds`.  A cleaned value is
of this look whatever was entered, and whatever the field's own cleaner gave; so is all that
reconciling writes; and a value of this look is of its sort for the check.  Only a cleaner that has
changed the list that it was handed, and then fails, leaves something of another look:
`Field.KeepsSort` says that there is no such cleaner, and `sanitize_meddled` shows one.

Mail addresses and days are the exception: their texts are only trimmed by cleaning, and the
check may refuse them.  A web address is written in its one form, and that form has to be read
again by the check.

* `FieldType.holds_of_clean?` is about the cleaning of a type, `Field.holds_of_clean?` about that
  of a field;
* `isKept_holds` says that settling writes nothing of another look;
* `FieldType.accepts_of_holds` is about the check;
* `sanitize_wellTyped` is the conclusion.
-/

namespace Intake

/-- What a cleaned value of a sort of field looks like. -/
def FieldType.Holds (type : FieldType) (v : Value) : Prop :=
  match type with
  | .text | .textarea | .select => ∃ s, v = .text s ∧ Cleaning.IsCleanText s
  | .email | .password => ∃ s, v = .text s ∧ Text.IsTrimmed s
  | .url => ∃ s, v = .text s ∧ (s = "" ∨ ∃ plain, WebAddress.normal? plain = some s)
  | .number => (∃ n, v = .int n ∧ (Binary64.ofInt? n).isSome = true) ∨
      ∃ x, v = .float x ∧ x.isFinite = true
  | .checkbox => ∃ b, v = .bool b
  | .multiSelect | .multiValue => ∃ texts : List String, v = .list (texts.map .text) ∧
      ∀ s ∈ texts, s ≠ "" ∧ Cleaning.IsCleanText s
  | .date => ∀ s, v = .text s → Text.IsTrimmed s

/-- A clean number is of the sort of numbers. -/
theorem Cleaning.IsCleanNumber.holds {v : Value} (h : IsCleanNumber v) :
    FieldType.number.Holds v := by
  cases h with
  | int h => exact .inl ⟨_, rfl, h⟩
  | float h => exact .inr ⟨_, rfl, h⟩

namespace FieldType

open Cleaning

/-- **What cleaning gives is of its sort**, whatever it was given. -/
theorem holds_of_clean? {type : FieldType} {v w : Value} (h : type.clean? v = .ok w) :
    type.Holds w := by
  have htext : ∀ {clean : Except Fault String} {P : String → Prop}, (∀ s, clean = .ok s → P s) →
      clean.map Value.text = .ok w → ∃ s, w = .text s ∧ P s := by
    intro clean P hP h
    obtain ⟨s, hs, rfl⟩ := exists_of_map_eq_ok h
    exact ⟨s, rfl, hP s hs⟩
  have hlist : (list? v).map (fun texts => Value.list (texts.map .text)) = .ok w →
      ∃ texts : List String, w = .list (texts.map .text) ∧ ∀ s ∈ texts, s ≠ "" ∧ IsCleanText s := by
    intro h
    obtain ⟨texts, htexts, rfl⟩ := exists_of_map_eq_ok h
    refine ⟨texts, rfl, fun s hs => ?_⟩
    obtain ⟨hclean, hfull⟩ := isCleanText_of_list? htexts s hs
    exact ⟨by simpa using hfull, hclean⟩
  cases type with
  | text => exact htext (fun _ => isCleanText_of_text?) h
  | textarea => exact htext (fun _ => isCleanText_of_text?) h
  | select => exact htext (fun _ => isCleanText_of_text?) h
  | email => exact htext (fun _ hs => (isSmall_of_email? hs).1) h
  | password => exact htext (fun _ => isTrimmed_of_password?) h
  | url =>
    refine htext (fun s hs => ?_) h
    rcases url?_cases hs with hempty | ⟨plain, -, hnormal⟩
    · exact .inl hempty
    · exact .inr ⟨_, hnormal⟩
  | multiSelect => exact hlist h
  | multiValue => exact hlist h
  | number =>
    cases h
    exact (isCleanNumber_number v).holds
  | checkbox =>
    cases h
    exact ⟨_, rfl⟩
  | date =>
    cases h
    intro s hs
    cases v with
    | null =>
      cases hs
      exact Text.isTrimmed_of_forall (by simp)
    | text t =>
      cases hs
      exact Text.isTrimmed_strip t
    | _ => cases hs

/-- The empty value of a sort of field is of that sort. -/
theorem holds_emptyValue (type : FieldType) : type.Holds type.emptyValue :=
  holds_of_clean? type.clean?_emptyValue.1

/-- **The check accepts what is of its sort**, mail addresses and days apart, and web addresses as
far as their written form is read again. -/
theorem accepts_of_holds {type : FieldType} {v : Value} (h : type.Holds v)
    (hfull : v.isEmpty = false) (hemail : type ≠ .email) (hdate : type ≠ .date)
    (hurl : type = .url → ∀ plain u, v = .text u → WebAddress.normal? plain = some u →
      (WebAddress.read? u).isSome = true) : type.accepts v = true := by
  have hlist : (∃ texts : List String, v = .list (texts.map .text) ∧
      ∀ s ∈ texts, s ≠ "" ∧ Cleaning.IsCleanText s) → v.isTextList = true := by
    rintro ⟨texts, rfl, -⟩
    simp [Value.isTextList, Value.sequence?]
  cases type with
  | text | textarea | select | password =>
    obtain ⟨s, rfl, -⟩ := h
    rfl
  | email => exact absurd rfl hemail
  | date => exact absurd rfl hdate
  | url =>
    obtain ⟨s, rfl, rfl | ⟨plain, hnormal⟩⟩ := h
    · cases hfull
    · have hsolid := Text.isTrimmed_of_forall (WebAddress.isBlank_of_mem_normal? hnormal)
      show (WebAddress.read? (Text.strip s)).isSome = true
      rw [Text.strip_of_isTrimmed hsolid]
      exact hurl rfl plain s rfl hnormal
  | number =>
    rcases h with ⟨n, rfl, hrange⟩ | ⟨x, rfl, hfinite⟩
    · exact hrange
    · show (if x.isFinite then some x else none).isSome = true
      rw [if_pos hfinite]
      rfl
  | checkbox =>
    obtain ⟨b, rfl⟩ := h
    rfl
  | multiSelect => exact hlist h
  | multiValue => exact hlist h

end FieldType

section Field

variable {host : Host} {fields : List Field} {d : Field}

/-- A field **keeps its sort** if what its own cleaner leaves, where it fails, of a value of that
sort still is one. -/
def Field.KeepsSort (host : Host) (d : Field) : Prop :=
  ∀ f ∈ d.cleaner, ∀ v w fault, d.type.clean? v = .ok w → f.clean? host w = .error fault →
    d.type.Holds (f.leaves host w)

/-- What cannot be changed is left as it is. -/
theorem Callable.leaves_of_not_isChangeable {f : Callable Value} {v : Value}
    (h : v.isChangeable = false) : f.leaves host v = v := by
  cases f with
  | host name => simp [leaves, h]
  | _ => rfl

/-- Only a list that a cleaner has changed can be of another sort than that of its field. -/
theorem Field.keepsSort_of_not_isListLike (h : d.type.isListLike = false) : d.KeepsSort host := by
  intro f _ v w fault hw _
  have hholds := FieldType.holds_of_clean? hw
  have hkept : w.isChangeable = false → d.type.Holds (f.leaves host w) := fun hfixed => by
    rwa [Callable.leaves_of_not_isChangeable hfixed]
  cases htype : d.type with
  | multiSelect | multiValue => rw [htype] at h; cases h
  | date =>
    intro s hs
    cases hchangeable : w.isChangeable with
    | false => exact (htype ▸ hkept hchangeable) s hs
    | true =>
      -- a list, set or dictionary is no text, whatever there is in it
      exfalso
      cases f with
      | host name =>
        rw [Callable.leaves, hchangeable, Bool.true_and] at hs
        split at hs
        · rename_i hkind
          rw [hs] at hkind
          cases w with
          | list | set | dict => cases of_decide_eq_true hkind
          | _ => cases hchangeable
        · subst hs
          cases hchangeable
      | _ =>
        obtain rfl : w = .text s := hs
        cases hchangeable
  | number =>
    rw [htype] at hholds hkept
    rcases hholds with ⟨n, rfl, -⟩ | ⟨x, rfl, -⟩
    · exact hkept rfl
    · exact hkept rfl
  | _ =>
    rw [htype] at hholds hkept
    obtain ⟨s, rfl, -⟩ := hholds
    exact hkept rfl

/-- What a field brings a value to is of its sort, if the field keeps it. -/
theorem Field.holds_of_clean? (hkeeps : d.KeepsSort host) {v w : Value}
    (h : d.clean? host v = .ok w) : d.type.Holds w := by
  cases Field.clean?_eq_ok_iff.mp h with
  | plain _ hw => exact FieldType.holds_of_clean? hw
  | again _ _ _ hw => exact FieldType.holds_of_clean? hw
  | left hsome hcleaned hfault => exact hkeeps _ hsome _ _ _ hcleaned hfault

/-- The lists that a host returns, or leaves, are no longer than lists can be. -/
structure Host.IsCountable (host : Host) : Prop where
  clean : ∀ name v w, host.clean name v = .ok w → w.itemCount < 2 ^ 63
  left : ∀ name v, v.itemCount < 2 ^ 63 → (host.left name v).itemCount < 2 ^ 63

/-- A field's cleaning keeps lists as short as lists can be, whatever its own cleaner does. -/
theorem Field.itemCount_lt_of_clean? (hhost : host.IsCountable) {v w : Value}
    (hv : v.itemCount < 2 ^ 63) (h : d.clean? host v = .ok w) : w.itemCount < 2 ^ 63 := by
  have hcount : ∀ {cleaned : Value}, d.type.clean? v = .ok cleaned → cleaned.itemCount < 2 ^ 63 :=
    fun hcleaned => (FieldType.itemCount_clean? hcleaned).trans_lt hv
  cases Field.clean?_eq_ok_iff.mp h with
  | plain _ hw => exact hcount hw
  | @again f cleaned own w _ hcleaned hown hw =>
    refine (FieldType.itemCount_clean? hw).trans_lt ?_
    cases f with
    | cleaner c =>
      cases hown
      rw [c.itemCount_apply]
      exact hcount hcleaned
    | host name => exact hhost.clean name cleaned own hown
    | predicate => cases hown
    | test => cases hown
  | @left f cleaned fault _ hcleaned =>
    cases f with
    | host name =>
      rw [Callable.leaves]
      split
      · exact hhost.left name cleaned (hcount hcleaned)
      · exact hcount hcleaned
    | _ => exact hcount hcleaned

/-- What is demanded of the answer for a field: to be of its sort, if the field keeps it, and no
longer a list than lists can be. -/
structure Field.Holds (host : Host) (d : Field) (v : Value) : Prop where
  sort : d.KeepsSort host → d.type.Holds v
  short : v.itemCount < 2 ^ 63

/-- **Whatever is written is of its sort**: the count of a list, an empty value and a cleaned
fallback. -/
theorem isKept_holds (hlint : lint fields = []) (hhost : host.IsCountable)
    (hfallback : ∀ d ∈ fields, d.fallback.itemCount < 2 ^ 63) :
    IsKept host (Field.Holds host) fields := by
  intro a ha d hd v hv
  cases Field.settled?_eq_ok_iff.mp hv with
  | @counted derivation hderivation =>
    have hcount : (a.get derivation.source).itemCount < 2 ^ 63 :=
      ha.get (P := fun v => v.itemCount < 2 ^ 63) (fun _ _ _ hv => hv.short) (by decide) _
    refine ⟨fun _ => ?_, Nat.two_pow_pos 63⟩
    rw [type_eq_number_of_lint hlint hd hderivation]
    exact (Cleaning.isCleanNumber_int (by decide) hcount).holds
  | hidden =>
    refine ⟨fun _ => FieldType.holds_emptyValue d.type, ?_⟩
    cases d.type <;> decide
  | filled _ _ _ _ hclean =>
    exact ⟨fun hkeeps => Field.holds_of_clean? hkeeps hclean,
      Field.itemCount_lt_of_clean? hhost (hfallback d hd) hclean⟩

end Field

variable {host : Host} {fields : List Field}

/-- **Sanitized answers suit the check.**  The sanitized answers of a form that a lint finds no
mistake in are those of its fields, in order.  Each is of the sort of its field, if the field keeps
its sort, as all but those for lists do; and the check of the sort accepts it unless it is empty, or
a mail address or a day.  A web address has to be read again as it is written, and no list is longer
than lists can be. -/
theorem sanitize_wellTyped (hlint : lint fields = []) (hhost : host.IsCountable)
    {raw s : Answers}
    (hcounted : ∀ d ∈ fields,
      (raw.get d.name).itemCount < 2 ^ 63 ∧ d.fallback.itemCount < 2 ^ 63)
    (h : sanitize host fields raw = .ok s) :
    s.keys = fieldNames fields ∧
    ∀ d ∈ fields, (d.type.isListLike = true → d.KeepsSort host) → d.type.Holds (s.get d.name) ∧
      ((s.get d.name).isEmpty = false → d.type ≠ .email → d.type ≠ .date →
        (d.type = .url → ∀ plain u, s.get d.name = .text u → WebAddress.normal? plain = some u →
          (WebAddress.read? u).isSome = true) →
        d.type.accepts (s.get d.name) = true) := by
  have hnames := (lint_eq_nil_iff.mp hlint).1
  have hkept := isKept_holds hlint hhost fun d hd => (hcounted d hd).2
  have hclean : ∀ d ∈ fields, ∀ w, d.clean? host (raw.get d.name) = .ok w → d.Holds host w :=
    fun d hd w hw => ⟨fun hkeeps => Field.holds_of_clean? hkeeps hw,
      Field.itemCount_lt_of_clean? hhost (hcounted d hd).1 hw⟩
  obtain ⟨hkeys, heach⟩ := meets_of_sanitize hnames hkept hclean h
  refine ⟨hkeys, fun d hd hlist => ?_⟩
  have hkeeps : d.KeepsSort host := by
    cases hlike : d.type.isListLike with
    | true => exact hlist hlike
    | false => exact Field.keepsSort_of_not_isListLike hlike
  have hholds := (heach d hd).sort hkeeps
  exact ⟨hholds, fun hfull hemail hdate hurl =>
    FieldType.accepts_of_holds hholds hfull hemail hdate hurl⟩

/-- A host with a cleaner that makes a number of everything, and no other. -/
def numberingHost : Host where
  decide name _ _ := .error (.unknownName name)
  clean name _ := if name = "seven" then .ok (.int 7) else .error (.unknownName name)

/-- A form with two boxes that go round in a circle, a remark that a cleaner of the host makes a
number of, tags with a cleaner that fails, their count, and a web address. -/
def mixedForm : List Field :=
  circularForm ++
    [{ name := "remark", type := .text, cleaner := some (.host "seven") },
     { name := "tags", type := .multiValue, cleaner := some (.host "eight") },
     { name := "count", type := .number, derivation := some ⟨"tags"⟩ },
     { name := "link", type := .url }]

/-- Answers of all sorts, none of them as its field has it. -/
def mixedAnswers : Answers :=
  Answers.ofEntries [("tags", .tuple [.text " a ", .int 5, .null]), ("count", .float .nan),
    ("link", .text "HTTP://[::1]/A"), ("other", .null)]

/-- The boxes of the mixed form end ticked, and the count is that of the tags. -/
theorem sanitize_mixedForm :
    sanitize numberingHost mixedForm mixedAnswers = .ok (Answers.ofEntries
      [("first", .bool true), ("second", .bool true), ("remark", .text "7"),
        ("tags", .list [.text "a", .text "5"]), ("count", .int 2),
        ("link", .text "http://[::1]/A")]) := by
  have hclean : cleanAll numberingHost mixedAnswers mixedForm = .ok (Answers.ofEntries
      [("first", .bool false), ("second", .bool false), ("remark", .text "7"),
        ("tags", .list [.text "a", .text "5"]), ("count", .int 0),
        ("link", .text "http://[::1]/A")]) := by rfl
  unfold sanitize
  rw [hclean]
  show reconcile numberingHost mixedForm _ = _
  cbv

/-- In the mixed form the check accepts the remark, the count and the address, each of the sort of
its field. -/
theorem accepts_mixedForm :
    ∃ s, sanitize numberingHost mixedForm mixedAnswers = .ok s ∧ s.keys = fieldNames mixedForm ∧
      FieldType.text.accepts (s.get "remark") = true ∧
      FieldType.number.accepts (s.get "count") = true ∧
      FieldType.url.accepts (s.get "link") = true := by
  have hhost : numberingHost.IsCountable := by
    refine ⟨fun name v w h => ?_, fun _ _ hv => hv⟩
    simp only [numberingHost] at h
    split at h <;> cases h
    decide
  obtain ⟨hkeys, heach⟩ := sanitize_wellTyped (by rfl) hhost (by decide) sanitize_mixedForm
  have hremark := (heach _ (.tail _ (.tail _ (.head _))) nofun).2
  have hcount := (heach _ (.tail _ (.tail _ (.tail _ (.tail _ (.head _))))) nofun).2
  have hlink := (heach _ (.tail _ (.tail _ (.tail _ (.tail _ (.tail _ (.head _)))))) nofun).2
  refine ⟨_, sanitize_mixedForm, hkeys,
    hremark (by rfl) (by decide) (by decide) (fun hurl => absurd hurl (by decide)),
    hcount (by rfl) (by decide) (by decide) (fun hurl => absurd hurl (by decide)),
    hlink (by rfl) (by decide) (by decide) ?_⟩
  rintro - plain u hu -
  cases hu
  rfl

/-- A host with a cleaner that puts a number in front of a list and fails. -/
def meddlingHost : Host :=
  { Host.none with
    left := fun _ v => .list (.int 1 :: v.sequence?.getD []) }

/-- **A list can be left with something else in it**: the list of colours that was cleaned has a
number in it after the cleaner of its field has failed, and the check of the sort refuses it. -/
theorem sanitize_meddled :
    let colours : Field :=
      { name := "colours", type := .multiValue, cleaner := some (.host "sort") }
    lint [colours] = [] ∧
      ∃ s, sanitize meddlingHost [colours] (.ofEntries [("colours", .list [.text "blue"])]) =
          .ok s ∧
        s.get "colours" = .list [.int 1, .text "blue"] ∧
        ¬ FieldType.multiValue.Holds (s.get "colours") ∧
        (s.get "colours").isEmpty = false ∧
        FieldType.multiValue.accepts (s.get "colours") = false := by
  have hsanitize : sanitize meddlingHost
      [{ name := "colours", type := .multiValue, cleaner := some (.host "sort") }]
      (.ofEntries [("colours", .list [.text "blue"])]) =
        .ok (.ofEntries [("colours", .list [.int 1, .text "blue"])]) := by rfl
  refine ⟨by rfl, _, hsanitize, rfl, ?_, rfl, rfl⟩
  rintro ⟨texts, htexts, -⟩
  cases texts with
  | nil => cases htexts
  | cons first rest => cases htexts

end Intake
