import Intake.DateEntry
import Intake.Proofs.Text.Digit
import Intake.Proofs.Value.Integer
import Mathlib.Data.Nat.Digits.Defs

/-!
# The grammar of days

A text writes a day in one of two forms, blanks around it aside.  Digits are taken off its front as
many as there are, up to the most of their place.  None of them is ever put back: a place that is
not full is followed by a mark, by a time or by nothing, and none of these is a digit.  So a text is
read exactly if it is of one of the two forms and there is such a day.

* `Writes` says which number some digits write, `YearFirst` and `DayFirst` are the two forms;
* `digits?_eq_some_iff` says what is taken off the front;
* `yearFirst?_eq_some_iff` and `dayFirst?_eq_some_iff` say that a text is read by its form, and
  `YearFirst.not_dayFirst` that no text is of both;
* `YearFirst.stripChars` and `DayFirst.stripChars` say that a form stays what it is without blanks;
* `Day.read_by_grammar` is the conclusion, with what it means for the texts of a day.
-/

namespace Intake

namespace DateEntry

open Text

/-! ## The two forms -/

/-- Digits of whatever scripts, at least `least` and at most `most`, that write a number, the first
of them counting most. -/
structure Writes (least most : Nat) (digits : List Char) (n : Nat) : Prop where
  enough : least ≤ digits.length
  few : digits.length ≤ most
  value : ∃ values : List Nat, digits.map digitValue? = values.map some ∧
    Nat.ofDigits 10 values.reverse = n

/-- Nothing, or a time on the same line. -/
def IsTime (cs : List Char) : Prop :=
  cs = [] ∨ ∃ mark rest, cs = mark :: rest ∧ (mark = 'T' ∨ mark = ' ') ∧ '\n' ∉ rest

/-- Year, month and day with dashes, and perhaps a time. -/
inductive YearFirst : List Char → Nat → Nat → Nat → Prop where
  | intro {ys ms ds time : List Char} {year month day : Nat} (hyear : Writes 4 4 ys year)
      (hmonth : Writes 1 2 ms month) (hday : Writes 1 2 ds day) (htime : IsTime time) :
      YearFirst (ys ++ '-' :: (ms ++ '-' :: (ds ++ time))) year month day

/-- Day, month and year with points, slashes or dashes. -/
inductive DayFirst : List Char → Nat → Nat → Nat → Prop where
  | intro {ds ms ys : List Char} {mark mark' : Char} {year month day : Nat}
      (hday : Writes 1 2 ds day) (hmark : mark ∈ ['.', '/', '-']) (hmonth : Writes 1 2 ms month)
      (hmark' : mark' ∈ ['.', '/', '-']) (hyear : Writes 4 4 ys year) :
      DayFirst (ds ++ mark :: (ms ++ mark' :: ys)) year month day

/-! ## What digits write -/

/-- The number of some digits has their values for its digits. -/
theorem number_eq (cs : List Char) :
    number cs = Nat.ofDigits 10 (cs.map fun c => (digitValue? c).getD 0).reverse := by
  rw [Nat.ofDigits_eq_foldr, List.foldr_reverse, List.foldl_map, number]
  congr 1
  funext n c
  rw [Nat.cast_id]
  omega

/-- Digits write the number that is read from them, and no other. -/
theorem writes_iff {least most n : Nat} {digits : List Char} : Writes least most digits n ↔
    least ≤ digits.length ∧ digits.length ≤ most ∧ (∀ c ∈ digits, isDecimal c = true) ∧
      number digits = n := by
  rw [number_eq]
  constructor
  · intro h
    obtain ⟨values, hvalues, hn⟩ := h.value
    have hself : digits.map (fun c => (digitValue? c).getD 0) = values := by
      have hread := congrArg (List.map fun v => v.getD 0) hvalues
      simpa [Function.comp_def] using hread
    refine ⟨h.enough, h.few, ?_, by rw [hself, hn]⟩
    intro c hc
    have hmem : digitValue? c ∈ values.map some := hvalues ▸ List.mem_map_of_mem hc
    obtain ⟨v, -, hv⟩ := List.mem_map.mp hmem
    rw [isDecimal, ← hv]
    rfl
  · intro h
    obtain ⟨henough, hfew, hdecimal, hn⟩ := h
    refine ⟨henough, hfew, _, ?_, hn⟩
    rw [List.map_map]
    refine List.map_congr_left fun c hc => ?_
    obtain ⟨v, hv⟩ := Option.isSome_iff_exists.mp (hdecimal c hc)
    simp [hv]

/-- Every one of the digits is a decimal one. -/
theorem Writes.isDecimal {least most n : Nat} {digits : List Char}
    (h : Writes least most digits n) : ∀ c ∈ digits, isDecimal c = true :=
  (writes_iff.mp h).2.2.1

/-- No blank is among the digits. -/
theorem Writes.isInk {least most n : Nat} {digits : List Char} (h : Writes least most digits n) :
    ∀ c ∈ digits, isBlank c = false :=
  fun c hc => isBlank_of_isDecimal (h.isDecimal c hc)

/-- The digits of a numeral write what they write there. -/
theorem number_of_isDigit {cs : List Char} (h : ∀ c ∈ cs, Numeral.isDigit c = true) :
    number cs = Numeral.ofDigits cs := by
  refine List.foldl_ext _ _ _ fun n c hc => ?_
  obtain ⟨d, hd, hback⟩ := Numeral.digitValue?_of_isDigit (h c hc)
  have hcode : digitValue? c = some (c.toNat - '0'.toNat) := by
    obtain ⟨hlow, hhigh⟩ := Numeral.code_of_isDigit (h c hc)
    rw [digitValue?, if_pos (by omega), if_pos ⟨char_le_iff.mpr hlow, char_le_iff.mpr hhigh⟩]
  rw [hcode, Option.getD_some]

/-- Zeros in front do not count. -/
theorem number_append_zeros (k : Nat) (cs : List Char) :
    number (List.replicate k '0' ++ cs) = number cs := by
  induction k with
  | zero => rfl
  | succ k ih => exact ih

/-- A padded number is zeros and its digits. -/
theorem toList_padded (width n : Nat) : (padded width n).toList =
    List.replicate (width - (Nat.toDigits 10 n).length) '0' ++ Nat.toDigits 10 n := by
  have hlength : (toString n).length = (Nat.toDigits 10 n).length := by
    rw [← String.length_toList, Nat.toString_eq_repr, Nat.toList_repr]
  rw [padded, String.toList_append, String.toList_ofList, hlength, Nat.toString_eq_repr,
    Nat.toList_repr]

/-- **A padded number** writes that number. -/
theorem writes_padded {least most width n : Nat} (hleast : least ≤ max width 1)
    (hwidth : width ≤ most) (hn : n < 10 ^ most) (hmost : 0 < most) :
    Writes least most (padded width n).toList n := by
  obtain ⟨hne, hdigits⟩ := Numeral.digits_toDigits n
  have hsome : 0 < (Nat.toDigits 10 n).length := List.length_pos_iff.mpr hne
  have hshort : (Nat.toDigits 10 n).length ≤ most :=
    (Nat.length_toDigits_le_iff (by decide) hmost).mpr hn
  rw [toList_padded, writes_iff, List.length_append, List.length_replicate]
  refine ⟨by omega, by omega, ?_, ?_⟩
  · intro c hc
    rcases List.mem_append.mp hc with hzero | hdigit
    · rw [List.eq_of_mem_replicate hzero]
      rfl
    · obtain ⟨d, hd, -⟩ := Numeral.digitValue?_of_isDigit (hdigits c hdigit)
      rw [Text.isDecimal, hd]
      rfl
  · rw [number_append_zeros, number_of_isDigit hdigits, Numeral.ofDigits_toDigits]

/-! ## Reading by the forms -/

/-- **Digits are taken off the front** as many as there are, up to the most. -/
theorem digits?_eq_some_iff {least most n : Nat} {cs rest : List Char} :
    digits? least most cs = some (n, rest) ↔ ∃ digits, Writes least most digits n ∧
      (digits.length < most → ∀ c ∈ rest.head?, isDecimal c = false) ∧ cs = digits ++ rest := by
  unfold digits?
  dsimp only
  constructor
  · intro h
    generalize hfront : (cs.take most).takeWhile isDecimal = front at h
    generalize hstop : (cs.take most).dropWhile isDecimal = stop
    obtain ⟨hdecimal, hhead, hcut⟩ := parted_iff.mp ⟨hfront, hstop⟩
    have hcs : cs = front ++ (stop ++ cs.drop most) := by
      rw [← List.append_assoc, ← hcut, List.take_append_drop]
    have hlength : min most cs.length = front.length + stop.length := by
      rw [← List.length_append, ← hcut, List.length_take]
    rw [hcs, List.drop_left] at h
    split at h
    · cases h
    · rename_i henough
      obtain ⟨rfl, rfl⟩ : number front = n ∧ stop ++ cs.drop most = rest := by simpa using h
      refine ⟨front, writes_iff.mpr ⟨by omega, by omega, hdecimal, rfl⟩, ?_, hcs⟩
      intro hroom c hc
      by_cases hempty : stop = []
      · -- the text ended before the place was full
        rw [hempty, List.length_nil] at hlength
        rw [hempty, List.drop_of_length_le (by omega)] at hc
        cases hc
      · rw [List.head?_append_of_ne_nil _ hempty] at hc
        exact hhead c hc
  · intro h
    obtain ⟨digits, hwrites, hstop, rfl⟩ := h
    obtain ⟨henough, hfew, hdecimal, hn⟩ := writes_iff.mp hwrites
    have hfront : ((digits ++ rest).take most).takeWhile isDecimal = digits := by
      rw [List.take_append, List.take_of_length_le hfew]
      refine (parted_iff.mpr ⟨hdecimal, ?_, rfl⟩).1
      intro c hc
      rw [List.head?_take] at hc
      split at hc
      · cases hc
      · exact hstop (by omega) c hc
    rw [hfront, if_neg (by omega), hn, List.drop_left]

/-- Digits that fill their place, or that no digit follows, are taken off the front. -/
theorem Writes.taken {least most n : Nat} {digits rest : List Char}
    (h : Writes least most digits n)
    (hstop : digits.length < most → ∀ c ∈ rest.head?, Text.isDecimal c = false) :
    digits? least most (digits ++ rest) = some (n, rest) :=
  digits?_eq_some_iff.mpr ⟨digits, h, hstop, rfl⟩

/-- A mark is neither a digit nor a blank. -/
theorem apart_of_mark {c : Char} (h : c ∈ dayFirstMarks) :
    isDecimal c = false ∧ isBlank c = false := by
  simp only [dayFirstMarks, List.mem_cons, List.not_mem_nil, or_false] at h
  rcases h with rfl | rfl | rfl
  · exact ⟨rfl, rfl⟩
  · exact ⟨rfl, rfl⟩
  · exact ⟨rfl, rfl⟩

/-- Where a mark follows, the digits before it are taken off the front. -/
theorem Writes.taken_before_mark {least most n : Nat} {digits rest : List Char} {mark : Char}
    (h : Writes least most digits n) (hmark : mark ∈ dayFirstMarks) :
    digits? least most (digits ++ mark :: rest) = some (n, mark :: rest) := by
  refine h.taken fun _ c hc => ?_
  obtain rfl : mark = c := by simpa using hc
  exact (apart_of_mark hmark).1

/-- A mark is taken off the front. -/
theorem mark?_eq_some_iff {marks cs rest : List Char} :
    mark? marks cs = some rest ↔ ∃ mark ∈ marks, cs = mark :: rest := by
  cases cs with
  | nil => simp [mark?]
  | cons c cs =>
    rw [mark?]
    by_cases hmark : c ∈ marks
    · simp [hmark]
    · simp [hmark]

/-- One of the marks is taken off the front. -/
theorem mark?_of_mem {marks rest : List Char} {mark : Char} (h : mark ∈ marks) :
    mark? marks (mark :: rest) = some rest :=
  mark?_eq_some_iff.mpr ⟨mark, h, rfl⟩

/-- What may be left behind the day is nothing or a time. -/
theorem isTimeOrNothing_iff {cs : List Char} : isTimeOrNothing cs = true ↔ IsTime cs := by
  cases cs with
  | nil => simp [isTimeOrNothing, IsTime]
  | cons c cs => simp [isTimeOrNothing, IsTime]

/-- No time starts with a digit. -/
theorem IsTime.not_isDecimal {cs : List Char} (h : IsTime cs) :
    ∀ c ∈ cs.head?, isDecimal c = false := by
  intro c hc
  rcases h with rfl | ⟨mark, rest, rfl, hmark, -⟩
  · cases hc
  · obtain rfl : mark = c := by simpa using hc
    rcases hmark with rfl | rfl
    · rfl
    · rfl

/-- **The year is read first** exactly from the texts that have it first. -/
theorem yearFirst?_eq_some_iff {cs : List Char} {year month day : Nat} :
    yearFirst? cs = some (year, month, day) ↔ YearFirst cs year month day := by
  constructor
  · intro h
    simp only [yearFirst?, Option.bind_eq_bind, Option.bind_eq_some_iff, Prod.exists] at h
    obtain ⟨y, cs₁, hy, cs₂, hmark, m, cs₃, hm, cs₄, hmark', d, time, hd, h⟩ := h
    obtain ⟨htime, heq⟩ := Option.ite_none_right_eq_some.mp h
    obtain ⟨rfl, rfl, rfl⟩ : y = year ∧ m = month ∧ d = day := by simpa using heq
    obtain ⟨ys, hys, -, rfl⟩ := digits?_eq_some_iff.mp hy
    obtain ⟨ms, hms, -, rfl⟩ := digits?_eq_some_iff.mp hm
    obtain ⟨ds, hds, -, rfl⟩ := digits?_eq_some_iff.mp hd
    obtain ⟨_, hdash, rfl⟩ := mark?_eq_some_iff.mp hmark
    obtain ⟨_, hdash', rfl⟩ := mark?_eq_some_iff.mp hmark'
    rw [List.mem_singleton] at hdash hdash'
    subst hdash hdash'
    exact .intro hys hms hds (isTimeOrNothing_iff.mp htime)
  · intro h
    obtain ⟨hys, hms, hds, htime⟩ := h
    have hdash : '-' ∈ dayFirstMarks := by decide
    simp only [yearFirst?, Option.bind_eq_bind, hys.taken_before_mark hdash,
      hms.taken_before_mark hdash, hds.taken fun _ => htime.not_isDecimal,
      mark?_of_mem (List.mem_singleton_self '-'), Option.bind_some,
      isTimeOrNothing_iff.mpr htime, if_true]

/-- **The day is read first** exactly from the texts that have it first. -/
theorem dayFirst?_eq_some_iff {cs : List Char} {year month day : Nat} :
    dayFirst? cs = some (year, month, day) ↔ DayFirst cs year month day := by
  constructor
  · intro h
    simp only [dayFirst?, Option.bind_eq_bind, Option.bind_eq_some_iff, Prod.exists] at h
    obtain ⟨d, cs₁, hd, cs₂, hmark, m, cs₃, hm, cs₄, hmark', y, rest, hy, h⟩ := h
    obtain ⟨hend, heq⟩ := Option.ite_none_right_eq_some.mp h
    obtain ⟨rfl, rfl, rfl⟩ : y = year ∧ m = month ∧ d = day := by simpa using heq
    obtain rfl : rest = [] := List.isEmpty_iff.mp hend
    obtain ⟨ds, hds, -, rfl⟩ := digits?_eq_some_iff.mp hd
    obtain ⟨ms, hms, -, rfl⟩ := digits?_eq_some_iff.mp hm
    obtain ⟨ys, hys, -, rfl⟩ := digits?_eq_some_iff.mp hy
    obtain ⟨mark, hmem, rfl⟩ := mark?_eq_some_iff.mp hmark
    obtain ⟨mark', hmem', rfl⟩ := mark?_eq_some_iff.mp hmark'
    rw [List.append_nil]
    exact .intro hds hmem hms hmem' hys
  · intro h
    obtain ⟨hds, hmark, hms, hmark', hys⟩ := h
    rename_i mark mark'
    have hfirst : mark ∈ dayFirstMarks := hmark
    have hsecond : mark' ∈ dayFirstMarks := hmark'
    have hend : ∀ c ∈ ([] : List Char).head?, isDecimal c = false := by simp
    have hyear := hys.taken fun _ => hend
    rw [List.append_nil] at hyear
    simp only [dayFirst?, Option.bind_eq_bind, hds.taken_before_mark hfirst, mark?_of_mem hfirst,
      hms.taken_before_mark hsecond, mark?_of_mem hsecond, hyear, Option.bind_some,
      List.isEmpty_nil, if_true]

/-- **No text is of both forms.**  Where a text with the day first has its first mark, a text with
the year first has a digit of the year. -/
theorem YearFirst.not_dayFirst {cs : List Char} {year month day year' month' day' : Nat}
    (h : YearFirst cs year month day) : ¬ DayFirst cs year' month' day' := by
  intro hother
  obtain @⟨ys, ms, ds, time, _, _, _, hys, -, -, -⟩ := h
  generalize hcs : ys ++ '-' :: (ms ++ '-' :: (ds ++ time)) = cs at hother
  obtain @⟨ds', ms', ys', mark, mark', _, _, _, hds, hmark, -, -, -⟩ := hother
  have hlong := hys.enough
  have hshort := hds.few
  rcases List.append_eq_append_iff.mp hcs with ⟨more, hmore, -⟩ | ⟨more, hmore, hrest⟩
  · have hlength := congrArg List.length hmore
    rw [List.length_append] at hlength
    omega
  · cases more with
    | nil =>
      rw [List.append_nil] at hmore
      rw [hmore] at hlong
      omega
    | cons c more =>
      obtain rfl := (List.cons.inj hrest).1
      have hdigit := hys.isDecimal _ (hmore ▸ List.mem_append_right _ List.mem_cons_self)
      rw [(apart_of_mark hmark).1] at hdigit
      cases hdigit

/-! ## Blanks around -/

/-- Blanks after some characters without blanks are dropped, and nothing else is. -/
theorem stripChars_append_more {front : List Char} (hne : front ≠ [])
    (hink : ∀ c ∈ front, isBlank c = false) (more : List Char) :
    stripChars (front ++ more) = front ++ more.rdropWhile isBlank := by
  have hfirst : ∀ c ∈ (front ++ more).head?, isBlank c = false := by
    intro c hc
    rw [List.head?_append_of_ne_nil _ hne] at hc
    exact hink c (List.mem_of_head? hc)
  have hlast : front.reverse.dropWhile isBlank = front.reverse := by
    refine dropWhile_isBlank_of_head? fun c hc => hink c ?_
    exact List.mem_reverse.mp (List.mem_of_head? hc)
  rw [stripChars, dropWhile_isBlank_of_head? hfirst, List.reverse_append, List.dropWhile_append]
  split
  · rename_i hblank
    rw [List.rdropWhile, List.isEmpty_iff.mp hblank, hlast, List.reverse_reverse, List.reverse_nil,
      List.append_nil]
  · rw [List.reverse_append, List.reverse_reverse, List.rdropWhile]

/-- What a time starts with is a time. -/
theorem IsTime.of_prefix {kept cs : List Char} (h : IsTime cs) (hkept : kept <+: cs) :
    IsTime kept := by
  cases kept with
  | nil => exact .inl rfl
  | cons c kept =>
    rcases h with rfl | ⟨mark, rest, rfl, hmark, hline⟩
    · cases List.prefix_nil.mp hkept
    · obtain ⟨rfl, hrest⟩ := List.cons_prefix_cons.mp hkept
      exact .inr ⟨c, kept, rfl, hmark, fun hmem => hline (hrest.subset hmem)⟩

/-- **Without its blanks** a text with the year first is one of the same day. -/
theorem YearFirst.stripChars {cs : List Char} {year month day : Nat}
    (h : YearFirst cs year month day) : YearFirst (stripChars cs) year month day := by
  obtain @⟨ys, ms, ds, time, _, _, _, hys, hms, hds, htime⟩ := h
  have hne : ys ++ '-' :: (ms ++ '-' :: ds) ≠ [] := by simp
  have hink : ∀ c ∈ ys ++ '-' :: (ms ++ '-' :: ds), isBlank c = false := by
    intro c hc
    simp only [List.mem_append, List.mem_cons] at hc
    rcases hc with hc | rfl | hc | rfl | hc
    · exact hys.isInk c hc
    · rfl
    · exact hms.isInk c hc
    · rfl
    · exact hds.isInk c hc
  have hkept : IsTime (time.rdropWhile isBlank) := htime.of_prefix (List.rdropWhile_prefix _ _)
  have hcut := stripChars_append_more hne hink time
  simp only [List.append_assoc, List.cons_append] at hcut
  rw [hcut]
  exact .intro hys hms hds hkept

/-- **Without its blanks** a text with the day first is what it was: it has none at its ends. -/
theorem DayFirst.stripChars {cs : List Char} {year month day : Nat}
    (h : DayFirst cs year month day) : DayFirst (stripChars cs) year month day := by
  have hink : ∀ c ∈ cs, isBlank c = false := by
    obtain @⟨ds, ms, ys, mark, mark', _, _, _, hds, hmark, hms, hmark', hys⟩ := h
    intro c hc
    simp only [List.mem_append, List.mem_cons] at hc
    rcases hc with hc | rfl | hc | rfl | hc
    · exact hds.isInk c hc
    · exact (apart_of_mark hmark).2
    · exact hms.isInk c hc
    · exact (apart_of_mark hmark').2
    · exact hys.isInk c hc
  rwa [Trimmed.stripChars_eq
    ⟨fun c hc => hink c (List.mem_of_head? hc), fun c hc => hink c (List.mem_of_getLast? hc)⟩]

end DateEntry

/-! ## The day that is read -/

open DateEntry Text

namespace Day

/-- A day is the one with its numbers, and no other. -/
theorem of?_eq_some_iff {year month day : Nat} {d : Day} :
    Day.of? year month day = some d ↔ year = d.year ∧ month = d.month ∧ day = d.day := by
  constructor
  · intro h
    obtain ⟨_, hd⟩ := Option.dite_none_right_eq_some.mp h
    cases hd
    exact ⟨rfl, rfl, rfl⟩
  · intro h
    obtain ⟨rfl, rfl, rfl⟩ := h
    exact dif_pos d.exists_

/-- **A text gives a day** exactly if it has one of the two forms, blanks aside, with the numbers of
that day. -/
theorem ofText?_eq_some_iff {s : String} {d : Day} : Day.ofText? s = some d ↔
    YearFirst (stripChars s.toList) d.year d.month d.day ∨
      DayFirst (stripChars s.toList) d.year d.month d.day := by
  rw [Day.ofText?, Option.bind_eq_some_iff]
  constructor
  · intro h
    obtain ⟨⟨year, month, day⟩, hread, hday⟩ := h
    obtain ⟨rfl, rfl, rfl⟩ := of?_eq_some_iff.mp hday
    rcases Option.or_eq_some_iff.mp hread with hyear | ⟨-, hday⟩
    · exact .inl (yearFirst?_eq_some_iff.mp hyear)
    · exact .inr (dayFirst?_eq_some_iff.mp hday)
  · intro h
    refine ⟨(d.year, d.month, d.day), ?_, of?_eq_some_iff.mpr ⟨rfl, rfl, rfl⟩⟩
    rcases h with hyear | hday
    · rw [yearFirst?_eq_some_iff.mpr hyear]
      rfl
    · have hnone : yearFirst? (stripChars s.toList) = none := by
        refine Option.eq_none_iff_forall_ne_some.mpr fun found hfound => ?_
        obtain ⟨year, month, day⟩ := found
        exact (yearFirst?_eq_some_iff.mp hfound).not_dayFirst hday
      rw [hnone, dayFirst?_eq_some_iff.mpr hday]
      rfl

/-- The numbers of a day fit their places. -/
theorem fits (d : Day) : d.year < 10 ^ 4 ∧ d.month < 10 ^ 2 ∧ d.day < 10 ^ 2 := by
  have hexists := d.exists_
  have hdays : daysInMonth d.year d.month ≤ 31 := by
    unfold daysInMonth
    split_ifs <;> omega
  simp only [isCalendarDay, Bool.and_eq_true, decide_eq_true_eq] at hexists
  omega

/-- The text of a day, with a time behind it, has the year first. -/
theorem yearFirst_text (d : Day) {time : List Char} (htime : IsTime time) :
    YearFirst (d.text.toList ++ time) d.year d.month d.day := by
  obtain ⟨hyear, hmonth, hday⟩ := d.fits
  have hform := YearFirst.intro (writes_padded (by decide) (Nat.le_refl 4) hyear (by decide))
    (writes_padded (by decide) (Nat.le_refl 2) hmonth (by decide))
    (writes_padded (by decide) (Nat.le_refl 2) hday (by decide)) htime
  simpa [text] using hform

/-- The text of a day as day, month and year, with a mark at either place. -/
def dayFirstText (dayWidth monthWidth : Nat) (mark mark' : Char) (d : Day) : String :=
  padded dayWidth d.day ++ String.singleton mark ++ padded monthWidth d.month ++
    String.singleton mark' ++ padded 4 d.year

/-- The text of a day with the day first has the day first. -/
theorem dayFirst_dayFirstText (d : Day) {dayWidth monthWidth : Nat} {mark mark' : Char}
    (hdayWidth : dayWidth ≤ 2) (hmonthWidth : monthWidth ≤ 2) (hmark : mark ∈ ['.', '/', '-'])
    (hmark' : mark' ∈ ['.', '/', '-']) :
    DayFirst (d.dayFirstText dayWidth monthWidth mark mark').toList d.year d.month d.day := by
  obtain ⟨hyear, hmonth, hday⟩ := d.fits
  have hform := DayFirst.intro (writes_padded (by omega) hdayWidth hday (by decide)) hmark
    (writes_padded (by omega) hmonthWidth hmonth (by decide)) hmark'
    (writes_padded (by decide) (Nat.le_refl 4) hyear (by decide))
  simpa [dayFirstText] using hform

/-- **Days are read by their grammar.**  A text gives a day exactly if it has one of the two forms,
blanks around it aside, with the numbers of that day; what has neither form, or names no day of the
calendar, gives none.  No text has both forms.  So the text of a day is read as that day, whatever
time on its line and whatever blanks are around it, and so is each text of it with the day first. -/
theorem read_by_grammar :
    (∀ (s : String) (d : Day), (Value.text s).day? = some d ↔
      YearFirst (stripChars s.toList) d.year d.month d.day ∨
        DayFirst (stripChars s.toList) d.year d.month d.day) ∧
    (∀ (s : String) (year month day year' month' day' : Nat),
      YearFirst (stripChars s.toList) year month day →
        ¬ DayFirst (stripChars s.toList) year' month' day') ∧
    (∀ (d : Day) (before time after : String), isBlankText before = true →
      isBlankText after = true → IsTime time.toList →
        (Value.text (before ++ (d.text ++ time) ++ after)).day? = some d) ∧
    ∀ (d : Day) (before after : String) (dayWidth monthWidth : Nat) (mark mark' : Char),
      isBlankText before = true → isBlankText after = true → dayWidth ≤ 2 → monthWidth ≤ 2 →
        mark ∈ ['.', '/', '-'] → mark' ∈ ['.', '/', '-'] →
          (Value.text (before ++ d.dayFirstText dayWidth monthWidth mark mark' ++ after)).day? =
            some d := by
  have hpad : ∀ {before s after : String}, isBlankText before = true → isBlankText after = true →
      stripChars (before ++ s ++ after).toList = stripChars s.toList := by
    intro before s after hbefore hafter
    rw [String.toList_append, String.toList_append]
    exact stripChars_append (List.all_eq_true.mp hbefore) (List.all_eq_true.mp hafter)
  refine ⟨fun s d => ofText?_eq_some_iff, fun s _ _ _ _ _ _ => YearFirst.not_dayFirst, ?_, ?_⟩
  · intro d before time after hbefore hafter htime
    refine ofText?_eq_some_iff.mpr (.inl ?_)
    rw [hpad hbefore hafter, String.toList_append]
    exact (d.yearFirst_text htime).stripChars
  · intro d before after dayWidth monthWidth mark mark' hbefore hafter hday hmonth hmark hmark'
    refine ofText?_eq_some_iff.mpr (.inr ?_)
    rw [hpad hbefore hafter]
    exact (d.dayFirst_dayFirstText hday hmonth hmark hmark').stripChars

/-- Both ways to write the 29th of February 2024, with a time, blanks and short numbers, and a day
that there is not. -/
theorem read_leapDay :
    (Value.text "\u00A02024-02-29T10:00 \n").day? = some ⟨2024, 2, 29, rfl⟩ ∧
      (Value.text " 29.2/2024\t").day? = some ⟨2024, 2, 29, rfl⟩ ∧
      (Value.text "2023-02-29").day? = none := by
  obtain ⟨-, -, hyear, hday⟩ := read_by_grammar
  refine ⟨hyear ⟨2024, 2, 29, rfl⟩ "\u00A0" "T10:00 " "\n" rfl rfl ?_,
    hday ⟨2024, 2, 29, rfl⟩ " " "\t" 2 1 '.' '/' rfl rfl (by decide) (by decide) (by decide)
      (by decide), rfl⟩
  exact .inr ⟨'T', "10:00 ".toList, rfl, .inl rfl, by decide⟩

end Day

end Intake
