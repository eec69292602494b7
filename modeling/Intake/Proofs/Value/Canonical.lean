import Intake.Proofs.Fault
import Intake.Proofs.Number.Shortest
import Intake.Proofs.Value.Written
import Mathlib.Data.List.Perm.Basic

/-!
# What the text of a value tells

Every text of a value is one that can be read in one way, so what it tells about the value can
be said sort by sort.

* `isWritten_canonical?` says that the texts of values are written;
* `forall₂_of_canonicalAll?` and `forall₂_of_canonicalEach?` say what the texts of items and
  entries are, `sortedEntries_perm` in which order those of a dictionary stand;
* `eq_of_canonical?_scalar` says that the text of nothing, a truth value, a number or a text tells
  which it is.
-/

namespace Intake.Value

/-- An integer's text is its sign and its digits. -/
theorem toList_of_intText? {n : Int} {t : String} (h : intText? n = .ok t) :
    t.toList = (if n < 0 then ['-'] else []) ++ Nat.toDigits 10 n.natAbs := by
  unfold intText? at h
  dsimp only at h
  split at h
  · cases h
  · cases h
    split
    · rw [String.toList_append, Nat.toString_eq_repr, Nat.toList_repr]
      rfl
    · rw [Nat.toString_eq_repr, Nat.toList_repr]
      rfl

/-- Integers are told apart by their texts. -/
theorem int_inj_of_intText? {m n : Int} {t : String} (hm : intText? m = .ok t)
    (hn : intText? n = .ok t) : m = n := by
  have htexts := (toList_of_intText? hm).symm.trans (toList_of_intText? hn)
  have hdash : ∀ {m n : Nat}, Nat.toDigits 10 m ≠ '-' :: Nat.toDigits 10 n := by
    intro m n h
    have hmem : '-' ∈ Nat.toDigits 10 m := by simp [h]
    exact absurd (Nat.isDigit_of_mem_toDigits (by decide) (by decide) hmem) (by decide)
  have hdigits : ∀ {m n : Nat}, Nat.toDigits 10 m = Nat.toDigits 10 n → m = n := by
    intro m n h
    rw [← Nat.ofDigitChars_ten_toDigits (n := m), h, Nat.ofDigitChars_ten_toDigits]
  by_cases hmNeg : m < 0 <;> by_cases hnNeg : n < 0 <;> simp only [hmNeg, hnNeg, if_true, if_false,
    List.cons_append, List.nil_append, List.cons.injEq, true_and] at htexts
  · have := hdigits htexts
    omega
  · exact absurd htexts.symm hdash
  · exact absurd htexts hdash
  · have := hdigits htexts
    omega

/-- An integer's text is of digits and perhaps a sign. -/
theorem chars_of_intText? {n : Int} {t : String} (h : intText? n = .ok t) :
    t.toList ≠ [] ∧ ∀ c ∈ t.toList, c.isDigit = true ∨ c = '-' := by
  have htext := toList_of_intText? h
  constructor
  · rw [htext]
    exact fun hnil => Nat.toDigits_ne_nil (List.append_eq_nil_iff.mp hnil).2
  · intro c hc
    rw [htext] at hc
    rcases List.mem_append.mp hc with hc | hc
    · split at hc
      · exact .inr (by simpa using hc)
      · simp at hc
    · exact .inl (Nat.isDigit_of_mem_toDigits (by decide) (by decide) hc)

/-- A finite number's text is of characters of numbers, one of which no integer's text has. -/
theorem chars_text_finite (negative : Bool) {m p : Nat} (h : isSignificand m p = true) :
    (∀ c ∈ (Binary64.finite negative m p h).text.toList, Binary64.isNumeralChar c = true) ∧
      ∃ c ∈ (Binary64.finite negative m p h).text.toList, c.isDigit = false ∧ c ≠ '-' := by
  obtain ⟨digits, exponent, htext, -⟩ := Binary64.text_finite negative h
  obtain ⟨first, rest, hdecimal, hfirst, hrest, c, hc, hnot⟩ :=
    Binary64.decimalText_chars digits exponent
  rw [htext, String.toList_append, hdecimal]
  refine ⟨?_, c, by simp [hc], hnot⟩
  intro d hd
  rcases List.mem_append.mp hd with hd | hd
  · split at hd
    · obtain rfl : d = '-' := by simpa using hd
      rfl
    · simp at hd
  · rcases List.mem_cons.mp hd with rfl | hd
    · simp [Binary64.isNumeralChar, hfirst]
    · exact hrest d hd

/-- The values that have a word of their own for a text. -/
def namedWords : List (String × Value) :=
  [("null", .null), ("true", .bool true), ("false", .bool false), ("NaN", .float .nan),
    ("Infinity", .float (.infinite false)), ("-Infinity", .float (.infinite true))]

/-- The words are of letters, among them one that stands in no number. -/
theorem chars_of_mem_namedWords {t : String} {v : Value} (h : (t, v) ∈ namedWords) :
    (∀ c ∈ t.toList, isWordChar c = true) ∧
      ∃ c ∈ t.toList, Binary64.isNumeralChar c = false := by
  have hall : ∀ t ∈ namedWords.map Prod.fst, t.toList.all isWordChar = true ∧
      (t.toList.any fun c => !Binary64.isNumeralChar c) = true := by decide
  obtain ⟨hword, hother⟩ := hall t (List.mem_map.mpr ⟨_, h, rfl⟩)
  obtain ⟨c, hc, hnot⟩ := List.any_eq_true.mp hother
  exact ⟨List.all_eq_true.mp hword, c, hc, by simpa using hnot⟩

/-- A scalar is nothing, a truth value, a number or a text. -/
def IsScalar : Value → Prop
  | .null | .bool _ | .int _ | .float _ | .text _ => True
  | _ => False

/-- **The texts of scalars**: words of their own, numbers, and quoted texts. -/
theorem scalar_cases {v : Value} {t : String} (hv : v.IsScalar) (h : v.canonical? = .ok t) :
    (t, v) ∈ namedWords ∨ (∃ n, v = .int n ∧ intText? n = .ok t) ∨
      (∃ negative m p, ∃ hm : isSignificand m p = true, v = .float (.finite negative m p hm) ∧
        t = (Binary64.finite negative m p hm).text) ∨
      ∃ s, v = .text s ∧ t = canonicalText s := by
  cases v with
  | null =>
    cases h
    exact .inl (by simp [namedWords])
  | bool b =>
    cases h
    cases b <;> exact .inl (by simp [namedWords])
  | int n => exact .inr (.inl ⟨n, rfl, h⟩)
  | float x =>
    cases h
    cases x with
    | nan => exact .inl (by simp [namedWords, canonicalFloat])
    | infinite negative =>
      cases negative <;> exact .inl (by simp [namedWords, canonicalFloat])
    | finite negative m p hm => exact .inr (.inr (.inl ⟨negative, m, p, hm, rfl, rfl⟩))
  | text s =>
    cases h
    exact .inr (.inr (.inr ⟨s, rfl, rfl⟩))
  | _ => exact hv.elim

/-- A character of a number can stand in a word. -/
theorem isWordChar_of_isNumeralChar {c : Char} (h : Binary64.isNumeralChar c = true) :
    isWordChar c = true := by
  simp only [Binary64.isNumeralChar, Bool.or_eq_true, beq_iff_eq] at h
  rcases h with (((hdigit | rfl) | rfl) | rfl) | rfl
  · simp [isWordChar, Char.isAlphanum, hdigit]
  all_goals rfl

/-- The characters of an integer are characters of numbers. -/
theorem isNumeralChar_of_intText? {n : Int} {t : String} (h : intText? n = .ok t) :
    ∀ c ∈ t.toList, Binary64.isNumeralChar c = true := by
  intro c hc
  rcases (chars_of_intText? h).2 c hc with hdigit | rfl
  · simp [Binary64.isNumeralChar, hdigit]
  · rfl

/-- Scalars but texts are written as words. -/
theorem isWord_of_scalar {v : Value} {t : String} (hv : v.IsScalar) (h : v.canonical? = .ok t) :
    (∃ s, v = .text s ∧ t = canonicalText s) ∨
      t.toList ≠ [] ∧ ∀ c ∈ t.toList, isWordChar c = true := by
  rcases scalar_cases hv h with hnamed | ⟨n, rfl, hn⟩ | ⟨negative, m, p, hm, rfl, rfl⟩ | htext
  · obtain ⟨hword, c, hc, -⟩ := chars_of_mem_namedWords hnamed
    exact .inr ⟨List.ne_nil_of_mem hc, hword⟩
  · refine .inr ⟨(chars_of_intText? hn).1, fun c hc => ?_⟩
    exact isWordChar_of_isNumeralChar (isNumeralChar_of_intText? hn c hc)
  · obtain ⟨hnumeral, c, hc, -⟩ := chars_text_finite negative hm
    exact .inr ⟨List.ne_nil_of_mem hc, fun c hc => isWordChar_of_isNumeralChar (hnumeral c hc)⟩
  · exact .inl htext

/-- A quoted text is no word. -/
theorem canonicalText_not_word (s : String) :
    ¬ ∀ c ∈ (canonicalText s).toList, isWordChar c = true := by
  intro h
  have hquote : '"' ∈ (canonicalText s).toList := by
    rw [toList_canonicalText]
    simp
  exact absurd (h '"' hquote) (by decide)

/-- A word with a name of its own is no numeral. -/
theorem not_numeral_of_mem_namedWords {t : String} {v : Value} (h : (t, v) ∈ namedWords) :
    ¬ ∀ c ∈ t.toList, Binary64.isNumeralChar c = true := by
  intro hall
  obtain ⟨c, hc, hnot⟩ := (chars_of_mem_namedWords h).2
  rw [hall c hc] at hnot
  cases hnot

/-- An integer is not written as a number of floating point is, which has a point or an exponent. -/
theorem intText?_ne_text {n : Int} {t : String} (h : intText? n = .ok t) (negative : Bool)
    {m p : Nat} (hm : isSignificand m p = true) : t ≠ (Binary64.finite negative m p hm).text := by
  rintro rfl
  obtain ⟨c, hc, hdigit, hdash⟩ := (chars_text_finite negative hm).2
  rcases (chars_of_intText? h).2 c hc with hc | hc
  · rw [hc] at hdigit
    cases hdigit
  · exact hdash hc

/-- **The text of a scalar tells which it is.** -/
theorem eq_of_canonical?_scalar {v w : Value} {t : String} (hv : v.IsScalar) (hw : w.IsScalar)
    (hvt : v.canonical? = .ok t) (hwt : w.canonical? = .ok t) : v = w := by
  rcases isWord_of_scalar hv hvt with ⟨s, rfl, rfl⟩ | ⟨-, hvWord⟩ <;>
    rcases isWord_of_scalar hw hwt with ⟨s', rfl, hs'⟩ | ⟨-, hwWord⟩
  · have hchars : (canonicalText s).toList ++ [] = (canonicalText s').toList ++ [] := by rw [hs']
    rw [(canonicalText_inj hchars).1]
  · exact absurd hwWord (canonicalText_not_word s)
  · exact absurd (hs' ▸ hvWord) (canonicalText_not_word s')
  rcases scalar_cases hv hvt with hvNamed | ⟨n, rfl, hn⟩ | ⟨a, m, p, hm, rfl, hvText⟩ | ⟨s, -, rfl⟩
  · rcases scalar_cases hw hwt with hwNamed | ⟨n, rfl, hn⟩ | ⟨b, k, r, hk, rfl, rfl⟩ | ⟨s, -, rfl⟩
    · have hdistinct : (namedWords.map Prod.fst).Nodup := by decide
      exact congrArg Prod.snd (List.inj_on_of_nodup_map hdistinct hvNamed hwNamed rfl)
    · exact absurd (isNumeralChar_of_intText? hn) (not_numeral_of_mem_namedWords hvNamed)
    · exact absurd (chars_text_finite b hk).1 (not_numeral_of_mem_namedWords hvNamed)
    · exact absurd hwWord (canonicalText_not_word s)
  · rcases scalar_cases hw hwt with hwNamed | ⟨n', rfl, hn'⟩ |
      ⟨b, k, r, hk, rfl, hwText⟩ | ⟨s, -, rfl⟩
    · exact absurd (isNumeralChar_of_intText? hn) (not_numeral_of_mem_namedWords hwNamed)
    · rw [int_inj_of_intText? hn hn']
    · exact absurd hwText (intText?_ne_text hn b hk)
    · exact absurd hwWord (canonicalText_not_word s)
  · rcases scalar_cases hw hwt with hwNamed | ⟨n, rfl, hn⟩ |
      ⟨b, k, r, hk, rfl, hwText⟩ | ⟨s, -, rfl⟩
    · exact absurd (hvText ▸ (chars_text_finite a hm).1) (not_numeral_of_mem_namedWords hwNamed)
    · exact absurd hvText (intText?_ne_text hn a hm)
    · rw [Binary64.finite_inj_of_text (hvText.symm.trans hwText)]
    · exact absurd hwWord (canonicalText_not_word s)
  · exact absurd hvWord (canonicalText_not_word s)

/-- The texts for some values are made one by one. -/
theorem canonicalAll?_eq_mapM (items : List Value) :
    canonicalAll? items = items.mapM canonical? := by
  induction items with
  | nil => rfl
  | cons v items ih => rw [canonicalAll?, List.mapM_cons, ih]

/-- The texts for some values are one for each. -/
theorem forall₂_of_canonicalAll? {items : List Value} {parts : List String}
    (h : canonicalAll? items = .ok parts) :
    List.Forall₂ (fun v t => canonical? v = .ok t) items parts := by
  rw [canonicalAll?_eq_mapM] at h
  exact forall₂_of_mapM_eq_ok h

/-- The texts for the entries of a dictionary are a key and a text for each. -/
theorem forall₂_of_canonicalEach? {entries : List (Value × Value)} {texts : List (String × String)}
    (h : canonicalEach? entries = .ok texts) :
    List.Forall₂ (fun e t => text? e.1 = .ok t.1 ∧ canonical? e.2 = .ok t.2) entries texts := by
  induction entries generalizing texts with
  | nil =>
    cases h
    exact .nil
  | cons e entries ih =>
    obtain ⟨k, v⟩ := e
    rw [canonicalEach?] at h
    obtain ⟨key, hkey, h⟩ := exists_of_bind_eq_ok h
    obtain ⟨value, hvalue, h⟩ := exists_of_bind_eq_ok h
    obtain ⟨others, hothers, h⟩ := exists_of_bind_eq_ok h
    cases h
    exact .cons ⟨hkey, hvalue⟩ (ih hothers)

/-- The characters of a list's text. -/
theorem toList_canonicalList (parts : List String) :
    ("[" ++ ", ".intercalate parts ++ "]").toList =
      '[' :: (joined (parts.map String.toList) ++ [']']) := by
  rw [String.toList_append, String.toList_append, String.toList_intercalate]
  rfl

/-- The entries of a record as characters. -/
def entriesChars (entries : List (String × String)) : List (List Char) :=
  (entries.map fun e => (e.1, e.2.toList)).map entryChars

/-- The characters of a dictionary's text. -/
theorem toList_canonicalEntries (entries : List (String × String)) :
    (canonicalEntries entries).toList =
      '\x7b' :: (joined (entriesChars (sortedEntries entries)) ++ ['\x7d']) := by
  rw [canonicalEntries, String.toList_append, String.toList_append, String.toList_intercalate,
    entriesChars, List.map_map, List.map_map]
  have hentry : (String.toList ∘ fun e : String × String => canonicalText e.1 ++ ": " ++ e.2) =
      entryChars ∘ fun e => (e.1, e.2.toList) := by
    funext e
    simp only [Function.comp_apply, entryChars, String.toList_append, List.append_assoc]
    rfl
  rw [hentry]
  rfl

/-- What is left of a list without repetitions was in it. -/
theorem mem_of_mem_eraseDupsBy {α : Type} {r : α → α → Bool} (n : Nat) {l : List α}
    (hlength : l.length ≤ n) {a : α} (h : a ∈ l.eraseDupsBy r) : a ∈ l := by
  induction n generalizing l with
  | zero =>
    obtain rfl : l = [] := by simpa using hlength
    exact h
  | succ n ih =>
    cases l with
    | nil => exact h
    | cons b l =>
      rw [List.eraseDupsBy_cons] at h
      rcases List.mem_cons.mp h with rfl | h
      · exact List.mem_cons_self
      · have hshorter : (l.filter fun b' => r b' b = false).length ≤ n :=
          (List.length_filter_le _ _).trans (Nat.le_of_succ_le_succ hlength)
        exact List.mem_cons_of_mem b (List.mem_of_mem_filter (ih hshorter h))

/-- A list without repetitions stays as it is. -/
theorem eraseDupsBy_of_pairwise {α : Type} {r : α → α → Bool} {l : List α}
    (h : l.Pairwise fun a b => r b a = false) : l.eraseDupsBy r = l := by
  induction l with
  | nil => rfl
  | cons a l ih =>
    obtain ⟨hfirst, hrest⟩ := List.pairwise_cons.mp h
    have hall : (l.filter fun b => r b a = false) = l :=
      List.filter_eq_self.mpr fun b hb => by simpa using hfirst b hb
    rw [List.eraseDupsBy_cons, hall, ih hrest]

/-- Sorting entries makes none up. -/
theorem mem_of_mem_sortedEntries {entries : List (String × String)} {e : String × String}
    (h : e ∈ sortedEntries entries) : e ∈ entries := by
  unfold sortedEntries at h
  exact List.mem_reverse.mp (mem_of_mem_eraseDupsBy _ le_rfl (List.mem_mergeSort.mp h))

/-- Sorting entries of distinct keys leaves none out. -/
theorem sortedEntries_perm {entries : List (String × String)}
    (h : (entries.map Prod.fst).Nodup) : (sortedEntries entries).Perm entries := by
  have hdistinct : entries.reverse.Pairwise fun a b => (b.1 == a.1) = false := by
    rw [List.pairwise_reverse]
    refine (List.pairwise_map.mp h).imp fun hne => ?_
    simpa using hne
  unfold sortedEntries
  dsimp only
  rw [eraseDupsBy_of_pairwise hdistinct]
  exact (List.mergeSort_perm _ _).trans (List.reverse_perm entries)

/-- The text of a scalar is written. -/
theorem isWritten_scalar (v : Value) {t : String} (hv : v.IsScalar) (h : v.canonical? = .ok t) :
    IsWritten t.toList := by
  rcases isWord_of_scalar hv h with ⟨s, -, rfl⟩ | ⟨hne, hword⟩
  · exact .text s
  · exact .word hne hword

/-- The text of a dictionary is written if those in its entries are. -/
theorem isWritten_canonicalEntries {entries : List (String × String)}
    (h : ∀ e ∈ entries, IsWritten e.2.toList) : IsWritten (canonicalEntries entries).toList := by
  rw [toList_canonicalEntries]
  refine .record fun e he => ?_
  obtain ⟨e', he', rfl⟩ := List.mem_map.mp he
  exact h e' (mem_of_mem_sortedEntries he')

/-- The text of a function is written, being quoted. -/
theorem isWritten_canonicalCallable? {f : Callable Value} {t : String}
    (h : canonicalCallable? f = .ok t) : IsWritten t.toList := by
  obtain ⟨name, -, rfl⟩ := exists_of_map_eq_ok h
  exact .text _

mutual

/-- **The texts of values are written.** -/
theorem isWritten_canonical? : ∀ (v : Value) {t : String}, v.canonical? = .ok t → IsWritten t.toList
  | .null, _, h => isWritten_scalar .null trivial h
  | .bool b, _, h => isWritten_scalar (.bool b) trivial h
  | .int n, _, h => isWritten_scalar (.int n) trivial h
  | .float x, _, h => isWritten_scalar (.float x) trivial h
  | .text s, _, h => isWritten_scalar (.text s) trivial h
  | .list items, _, h => by
    rw [canonical?] at h
    obtain ⟨parts, hparts, rfl⟩ := exists_of_map_eq_ok h
    rw [toList_canonicalList]
    exact .list (isWritten_canonicalAll? items hparts)
  | .tuple items, _, h => by
    rw [canonical?] at h
    obtain ⟨parts, hparts, rfl⟩ := exists_of_map_eq_ok h
    rw [toList_canonicalList]
    exact .list (isWritten_canonicalAll? items hparts)
  | .set items, _, h => by
    rw [canonical?] at h
    obtain ⟨shown, -, rfl⟩ := exists_of_map_eq_ok h
    exact .text shown
  | .day d, _, h => by
    rw [canonical?] at h
    rw [← Except.ok.inj h]
    exact .text _
  | .moment m, _, h => by
    rw [canonical?] at h
    rw [← Except.ok.inj h]
    exact .text _
  | .dict entries, _, h => by
    rw [canonical?] at h
    obtain ⟨texts, htexts, rfl⟩ := exists_of_map_eq_ok h
    exact isWritten_canonicalEntries (isWritten_canonicalEach? entries htexts)
  | .callable f, _, h => isWritten_canonicalCallable? h
  | .rule test message, _, h => by
    rw [canonical?] at h
    obtain ⟨t, ht, rfl⟩ := exists_of_map_eq_ok h
    refine isWritten_canonicalEntries
      (List.forall_mem_cons.mpr ⟨isWritten_canonicalCallable? ht, ?_⟩)
    exact List.forall_mem_singleton.mpr (.text message)

/-- The texts of several values are written. -/
theorem isWritten_canonicalAll? : ∀ (items : List Value) {parts : List String},
    canonicalAll? items = .ok parts → ∀ part ∈ parts.map String.toList, IsWritten part
  | [], _, h => by
    cases h
    simp
  | v :: items, _, h => by
    rw [canonicalAll?] at h
    obtain ⟨first, hfirst, h⟩ := exists_of_bind_eq_ok h
    obtain ⟨rest, hrest, h⟩ := exists_of_bind_eq_ok h
    cases h
    rw [List.map_cons]
    exact List.forall_mem_cons.mpr
      ⟨isWritten_canonical? v hfirst, isWritten_canonicalAll? items hrest⟩

/-- The texts in the entries of a dictionary are written. -/
theorem isWritten_canonicalEach? : ∀ (entries : List (Value × Value))
    {texts : List (String × String)}, canonicalEach? entries = .ok texts →
      ∀ t ∈ texts, IsWritten t.2.toList
  | [], _, h => by
    cases h
    simp
  | (k, v) :: entries, _, h => by
    rw [canonicalEach?] at h
    obtain ⟨key, -, h⟩ := exists_of_bind_eq_ok h
    obtain ⟨value, hvalue, h⟩ := exists_of_bind_eq_ok h
    obtain ⟨others, hothers, h⟩ := exists_of_bind_eq_ok h
    cases h
    exact List.forall_mem_cons.mpr
      ⟨isWritten_canonical? v hvalue, isWritten_canonicalEach? entries hothers⟩

end

end Intake.Value
