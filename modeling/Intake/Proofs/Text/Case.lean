import Intake.Proofs.Lookup
import Intake.Proofs.Text.Chart
import Intake.Proofs.Text.Markup

/-!
# What changing the case does to a text

Small letters stay as they are under `lower` and capitals under `upper`; and a small text that
has been put in capitals and back is not changed by going that way once more.  Neither way puts
a blank at an end of a text or an angle bracket into it.

* `smallLetters`, `capitalLetters` and `capitalParts` are all letters that the charts of case
  lead to, and `smallLetters_settled` and its like are what the charts say of these;
* `lowerOf_cases` and `upperOf_cases` say that the forms of a letter are itself, or made of these
  letters;
* `Spelled` relates a text to one in which every character is spelled in its own way, as
  `lower` and `upper` do; facts about characters become facts about texts by it;
* `lower_idem`, `upper_idem` and `lower_upper_idem` are the main results.
-/

namespace Intake.Text

/-- The letters that small forms beyond ASCII are made of. -/
def smallLetters : List Nat :=
  0x307 :: 0x3C2 :: lowerRuns.toList.flatMap CaseRun.images

/-- The letters that are a capital form. -/
def capitalLetters : List Nat := upperRuns.toList.flatMap CaseRun.images

/-- The letters that are part of a capital form of several. -/
def capitalParts : List Nat := upperMany.flatMap Prod.snd

/-- The single small form of a code point. -/
def smallOf? (n : Nat) : Option Nat := findRun lowerRuns n 0 lowerRuns.size

/-- The single capital form of a code point. -/
def capitalOf? (n : Nat) : Option Nat := findRun upperRuns n 0 upperRuns.size

/-- Is a code point no capital letter? -/
def isSettledSmall (n : Nat) : Bool :=
  !(n.beq 0x130) && !(n.beq 0x3A3) && (n.blt 65 || Nat.blt 90 n) && (smallOf? n).isNone

/-- Is a code point no small letter, and is its small form, if it has one, beyond ASCII and
back to it in capitals? -/
def isSettledCapital (n : Nat) : Bool :=
  if n.blt 128 then n.blt 97 || Nat.blt 122 n
  else !(n.beq 0x130) && (capitalOf? n).isNone &&
    (smallOf? n).all fun small => Nat.blt 127 small && (Char.ofNat small).toNat.beq small &&
      (capitalOf? small).any fun back => back.beq n

/-- Is a code point the capital form of its small form? -/
def comesBack (n : Nat) : Bool :=
  (smallOf? n).any fun small => (capitalOf? small).any fun back => back.beq n

/-- Is a code point neither a blank nor an angle bracket? -/
def isInk (n : Nat) : Bool := !isBlank (Char.ofNat n) && !Markup.isBracket (Char.ofNat n)

/-- The runs of small forms, from the characters that write them. -/
theorem lowerRuns_eq : lowerRuns = (caseRuns (readNumbers none lowerRow.toList)).toArray := by
  rw [lowerRuns, numbers_eq]

/-- The runs of capital forms, from the characters that write them. -/
theorem upperRuns_eq : upperRuns = (caseRuns (readNumbers none upperRow.toList)).toArray := by
  rw [upperRuns, numbers_eq]

/-- The letters with several capitals, from the characters that write them. -/
theorem upperMany_eq : upperMany =
    manyEntries (readNumbers none upperManyRow.toList).length
      (readNumbers none upperManyRow.toList) := by
  rw [upperMany, numbers_eq]

section Charts

set_option maxRecDepth 100000

/-- Small forms have no small form of their own. -/
theorem smallLetters_settled : smallLetters.all isSettledSmall = true := by
  unfold smallLetters isSettledSmall smallOf?
  simp only [lowerRuns_eq, lowerRow, String.toList_join, List.flatMap_cons, List.flatMap_nil]
  repeat rw [String.toList_ofList]
  decide +kernel

/-- Capital forms have no capital form of their own, and come back. -/
theorem capitalLetters_settled :
    capitalLetters.all (fun n => isSettledCapital n && (n.blt 128 || comesBack n)) = true := by
  unfold capitalLetters isSettledCapital comesBack capitalOf? smallOf?
  simp only [lowerRuns_eq, lowerRow, upperRuns_eq, upperRow, String.toList_join,
    List.flatMap_cons, List.flatMap_nil]
  repeat rw [String.toList_ofList]
  decide +kernel

/-- The parts of capital forms have no capital form of their own. -/
theorem capitalParts_settled :
    capitalParts.all (fun n =>
      isSettledCapital n && upperMany.all fun e => !e.1.beq n) = true := by
  unfold capitalParts isSettledCapital capitalOf? smallOf?
  simp only [lowerRuns_eq, lowerRow, upperRuns_eq, upperRow, upperMany_eq, upperManyRow,
    String.toList_join, List.flatMap_cons, List.flatMap_nil]
  repeat rw [String.toList_ofList]
  decide +kernel

/-- The forms of letters are no blanks and no angle brackets. -/
theorem letters_ink :
    (smallLetters ++ (capitalLetters ++ capitalParts)).all isInk = true := by
  unfold smallLetters capitalLetters capitalParts
  simp only [lowerRuns_eq, lowerRow, upperRuns_eq, upperRow, upperMany_eq, upperManyRow,
    String.toList_join, List.flatMap_cons, List.flatMap_nil]
  repeat rw [String.toList_ofList]
  decide +kernel

/-- A letter with a capital form of several has no single one, and does not come back. -/
theorem upperMany_settled :
    upperMany.all (fun e =>
      (capitalOf? e.1).isNone && !comesBack e.1 && !e.2.isEmpty) = true := by
  unfold comesBack capitalOf? smallOf?
  simp only [lowerRuns_eq, lowerRow, upperRuns_eq, upperRow, upperMany_eq, upperManyRow,
    String.toList_join, List.flatMap_cons, List.flatMap_nil]
  repeat rw [String.toList_ofList]
  decide +kernel

/-- Both small forms of a capital sigma have it as their capital. -/
theorem sigma_settled :
    (smallLetters.contains 0x3C3 && (capitalOf? 0x3C2).any (Nat.beq 0x3A3) &&
      (capitalOf? 0x3C3).any (Nat.beq 0x3A3)) = true := by
  unfold smallLetters capitalOf?
  simp only [lowerRuns_eq, lowerRow, upperRuns_eq, upperRow, String.toList_join,
    List.flatMap_cons, List.flatMap_nil]
  repeat rw [String.toList_ofList]
  decide +kernel

/-- The letters of ASCII are among the forms of letters. -/
theorem ascii_letters :
    (List.range 26).all (fun k =>
      smallLetters.contains (97 + k) && capitalLetters.contains (65 + k)) = true := by
  unfold smallLetters capitalLetters
  simp only [lowerRuns_eq, lowerRow, upperRuns_eq, upperRow, String.toList_join,
    List.flatMap_cons, List.flatMap_nil]
  repeat rw [String.toList_ofList]
  decide +kernel

end Charts

/-- A letter that `lower` leaves as it is, wherever it stands. -/
def IsSmall (c : Char) : Prop := c.toNat ≠ 0x3A3 ∧ lowerOf c = [c]

/-- A letter that `upper` leaves as it is. -/
def IsCapital (c : Char) : Prop := upperOf c = [c]

/-- The small form of a character is itself, or is made of small letters. -/
theorem lowerOf_cases (c : Char) : lowerOf c = [c] ∨
    lowerOf c ≠ [] ∧ ∀ x ∈ lowerOf c, ∃ n ∈ smallLetters, x = Char.ofNat n := by
  unfold lowerOf
  split
  · split
    · rename_i hascii hcapital
      have hlow : 65 ≤ c.toNat := char_le_iff.mp hcapital.1
      have hhigh : c.toNat ≤ 90 := char_le_iff.mp hcapital.2
      have hmem := List.all_eq_true.mp ascii_letters (c.toNat - 65)
        (List.mem_range.mpr (by omega))
      rw [Bool.and_eq_true, List.contains_iff_mem] at hmem
      refine .inr ⟨by simp, fun x hx => ⟨97 + (c.toNat - 65), hmem.1, ?_⟩⟩
      rw [List.mem_singleton.mp hx]
      congr 1
      omega
    · exact .inl rfl
  · split
    · have hmem := List.all_eq_true.mp ascii_letters 8 (List.mem_range.mpr (by omega))
      rw [Bool.and_eq_true, List.contains_iff_mem] at hmem
      refine .inr ⟨by simp, fun x hx => ?_⟩
      rcases List.mem_cons.mp hx with rfl | hx
      · exact ⟨105, hmem.1, rfl⟩
      · exact ⟨0x307, List.mem_cons_self, List.mem_singleton.mp hx⟩
    · split
      · rename_i n hn
        refine .inr ⟨by simp, fun x hx => ⟨n, ?_, List.mem_singleton.mp hx⟩⟩
        exact List.mem_cons_of_mem _ (List.mem_cons_of_mem _ (mem_images_of_findRun hn))
      · exact .inl rfl

/-- The capital form of a character is itself, or is made of capitals and parts of them. -/
theorem upperOf_cases (c : Char) : upperOf c = [c] ∨ upperOf c ≠ [] ∧
    ∀ x ∈ upperOf c, ∃ n ∈ capitalLetters ++ capitalParts, x = Char.ofNat n := by
  unfold upperOf
  by_cases hascii : c.toNat < 128
  · rw [if_pos hascii]
    split
    · rename_i hsmall
      have hlow : 97 ≤ c.toNat := char_le_iff.mp hsmall.1
      have hhigh : c.toNat ≤ 122 := char_le_iff.mp hsmall.2
      have hmem := List.all_eq_true.mp ascii_letters (c.toNat - 97)
        (List.mem_range.mpr (by omega))
      rw [Bool.and_eq_true, List.contains_iff_mem, List.contains_iff_mem] at hmem
      refine .inr ⟨by simp, fun x hx => ?_⟩
      refine ⟨65 + (c.toNat - 97), List.mem_append_left _ hmem.2, ?_⟩
      rw [List.mem_singleton.mp hx]
      congr 1
      omega
    · exact .inl rfl
  · rw [if_neg hascii]
    cases hlookup : upperMany.lookup c.toNat with
    | some ns =>
      have hentry := mem_of_lookup_eq_some hlookup
      have hparts := List.all_eq_true.mp upperMany_settled _ hentry
      simp only [Bool.and_eq_true, Bool.not_eq_true', List.isEmpty_eq_false_iff] at hparts
      refine .inr ⟨mt List.map_eq_nil_iff.mp hparts.2, fun x hx => ?_⟩
      obtain ⟨n, hn, rfl⟩ := List.mem_map.mp hx
      exact ⟨n, List.mem_append_right _ (List.mem_flatMap.mpr ⟨_, hentry, hn⟩), rfl⟩
    | none =>
      cases hrun : findRun upperRuns c.toNat 0 upperRuns.size with
      | some n =>
        refine .inr ⟨List.cons_ne_nil _ _, fun x hx => ⟨n, ?_, List.mem_singleton.mp hx⟩⟩
        exact List.mem_append_left _ (mem_images_of_findRun hrun)
      | none => exact .inl rfl

/-- Letters that small forms are made of are small. -/
theorem isSmall_of_mem {n : Nat} (hn : n ∈ smallLetters) : IsSmall (Char.ofNat n) := by
  have hsettled := List.all_eq_true.mp smallLetters_settled n hn
  simp only [isSettledSmall, smallOf?, Bool.and_eq_true, Bool.or_eq_true, Bool.not_eq_true',
    ← Bool.not_eq_true, Nat.beq_eq, Nat.blt_eq, Option.isNone_iff_eq_none] at hsettled
  obtain ⟨⟨⟨hdotted, hsigma⟩, hascii⟩, hnone⟩ := hsettled
  rcases ofNat_cases n with hzero | hcode
  · rw [hzero]
    exact ⟨by decide, rfl⟩
  · refine ⟨by rwa [hcode], ?_⟩
    have hcapital : ¬ ('A' ≤ Char.ofNat n ∧ Char.ofNat n ≤ 'Z') := by
      rintro ⟨hlow, hhigh⟩
      have hlow : 65 ≤ (Char.ofNat n).toNat := char_le_iff.mp hlow
      have hhigh : (Char.ofNat n).toNat ≤ 90 := char_le_iff.mp hhigh
      omega
    unfold lowerOf
    rw [if_neg hcapital, hcode, if_neg hdotted, hnone]
    split <;> rfl

/-- What stands in the small form of a character, a capital sigma apart, is small. -/
theorem isSmall_of_mem_lowerOf {c x : Char} (hsigma : c.toNat ≠ 0x3A3) (hx : x ∈ lowerOf c) :
    IsSmall x := by
  rcases lowerOf_cases c with hself | ⟨-, hletters⟩
  · rw [hself, List.mem_singleton] at hx
    exact ⟨by rwa [hx], by rw [hx, hself]⟩
  · obtain ⟨n, hn, rfl⟩ := hletters x hx
    exact isSmall_of_mem hn

/-- A letter with a capital form of several has no single one. -/
theorem lookup_of_capitalOf? {n back : Nat} (h : capitalOf? n = some back) :
    upperMany.lookup n = none := by
  cases hlookup : upperMany.lookup n with
  | none => rfl
  | some ns =>
    have hparts := List.all_eq_true.mp upperMany_settled _ (mem_of_lookup_eq_some hlookup)
    simp only [Bool.and_eq_true, Option.isNone_iff_eq_none] at hparts
    rw [h] at hparts
    cases hparts.1.1

/-- A letter that small forms are made of is no blank and no angle bracket. -/
theorem isInk_of_mem {n : Nat} (hn : n ∈ smallLetters) : isInk n = true :=
  List.all_eq_true.mp letters_ink n (List.mem_append_left (capitalLetters ++ capitalParts) hn)

/-- What is known of the letters that capital forms are made of. -/
theorem capital_settled {n : Nat} (hn : n ∈ capitalLetters ++ capitalParts) :
    isSettledCapital n = true ∧ (128 ≤ n → upperMany.lookup n = none) ∧ isInk n = true := by
  have hink := List.all_eq_true.mp letters_ink n (List.mem_append_right smallLetters hn)
  rcases List.mem_append.mp hn with hn | hn
  · have hsettled := List.all_eq_true.mp capitalLetters_settled n hn
    simp only [Bool.and_eq_true, Bool.or_eq_true, Nat.blt_eq] at hsettled
    refine ⟨hsettled.1, fun hbeyond => ?_, hink⟩
    have hback := hsettled.2.resolve_left (Nat.not_lt.mpr hbeyond)
    cases hlookup : upperMany.lookup n with
    | none => rfl
    | some ns =>
      have hparts := List.all_eq_true.mp upperMany_settled _ (mem_of_lookup_eq_some hlookup)
      simp only [Bool.and_eq_true, hback] at hparts
      cases hparts.1.2
  · have hsettled := List.all_eq_true.mp capitalParts_settled n hn
    simp only [Bool.and_eq_true] at hsettled
    refine ⟨hsettled.1, fun _ => ?_, hink⟩
    rw [List.lookup_eq_none_iff]
    intro e he
    have hother := List.all_eq_true.mp hsettled.2 e he
    simp only [Bool.not_eq_true', ← Bool.not_eq_true, Nat.beq_eq] at hother
    simpa using Ne.symm hother

/-- Capitals and parts of capital forms are left as they are. -/
theorem isCapital_of_mem {n : Nat} (hn : n ∈ capitalLetters ++ capitalParts) :
    IsCapital (Char.ofNat n) := by
  obtain ⟨hsettled, hlookup, -⟩ := capital_settled hn
  rcases ofNat_cases n with hzero | hcode
  · rw [hzero]
    rfl
  · unfold IsCapital upperOf
    rw [hcode]
    by_cases hascii : n < 128
    · have hsmall : ¬ ('a' ≤ Char.ofNat n ∧ Char.ofNat n ≤ 'z') := by
        rintro ⟨hlow, hhigh⟩
        have hlow : 97 ≤ (Char.ofNat n).toNat := char_le_iff.mp hlow
        have hhigh : (Char.ofNat n).toNat ≤ 122 := char_le_iff.mp hhigh
        simp only [isSettledCapital, Nat.blt_eq, hascii, if_true, Bool.or_eq_true] at hsettled
        omega
      rw [if_pos hascii, if_neg hsmall]
    · simp only [isSettledCapital, capitalOf?, Nat.blt_eq, hascii, if_false, Bool.and_eq_true,
        Option.isNone_iff_eq_none] at hsettled
      rw [if_neg hascii, hlookup (Nat.not_lt.mp hascii), hsettled.1.2]

/-- What stands in the capital form of a character is left as it is in capitals. -/
theorem isCapital_of_mem_upperOf {c x : Char} (hx : x ∈ upperOf c) : IsCapital x := by
  rcases upperOf_cases c with hself | ⟨-, hletters⟩
  · rw [hself, List.mem_singleton] at hx
    rw [hx]
    exact hself
  · obtain ⟨n, hn, rfl⟩ := hletters x hx
    exact isCapital_of_mem hn

/-- A letter beyond ASCII with a single capital form is written as that in capitals. -/
theorem upperOf_of_capitalOf? {n back : Nat} (hbeyond : 128 ≤ n) (hcode : (Char.ofNat n).toNat = n)
    (h : capitalOf? n = some back) : upperOf (Char.ofNat n) = [Char.ofNat back] := by
  unfold upperOf
  rw [hcode, if_neg (Nat.not_lt.mpr hbeyond), lookup_of_capitalOf? h]
  unfold capitalOf? at h
  rw [h]

/-- The small form of a letter that stands in a capital form is that letter in capitals. -/
theorem flatMap_upperOf_lowerOf {n : Nat} (hn : n ∈ capitalLetters ++ capitalParts) :
    (lowerOf (Char.ofNat n)).flatMap upperOf = [Char.ofNat n] := by
  rcases ofNat_cases n with hzero | hcode
  · rw [hzero]
    rfl
  · have hself := isCapital_of_mem hn
    obtain ⟨hsettled, -, -⟩ := capital_settled hn
    by_cases hascii : n < 128
    · have hall : ∀ k < 128, (k < 97 ∨ 122 < k) →
          (lowerOf (Char.ofNat k)).flatMap upperOf = [Char.ofNat k] := by decide
      simp only [isSettledCapital, Nat.blt_eq, hascii, if_true, Bool.or_eq_true] at hsettled
      exact hall n hascii hsettled
    · simp only [isSettledCapital, Nat.blt_eq, hascii, if_false, Bool.and_eq_true,
        Bool.not_eq_true', ← Bool.not_eq_true, Nat.beq_eq] at hsettled
      obtain ⟨⟨hdotted, -⟩, hsmall⟩ := hsettled
      unfold lowerOf
      rw [hcode, if_neg hascii, if_neg hdotted]
      cases hfound : findRun lowerRuns n 0 lowerRuns.size with
      | none =>
        rw [List.flatMap_singleton]
        exact hself
      | some small =>
        rw [smallOf?, hfound] at hsmall
        simp only [Option.all_some, Bool.and_eq_true, Nat.blt_eq, Nat.beq_eq,
          Option.any_eq_true] at hsmall
        obtain ⟨⟨hbeyond, hsmallCode⟩, back, hback, rfl⟩ := hsmall
        simpa using upperOf_of_capitalOf? hbeyond hsmallCode hback

/-- A character is ink if it is neither a blank nor an angle bracket; what replaces another one
has to be as much of it. -/
def IsInkOf (c x : Char) : Prop :=
  (isBlank c = false → isBlank x = false) ∧
    (Markup.isBracket c = false → Markup.isBracket x = false)

/-- Ink may replace any character. -/
theorem isInkOf_of_isInk {n : Nat} (h : isInk n = true) (c : Char) : IsInkOf c (Char.ofNat n) := by
  simp only [isInk, Bool.and_eq_true, Bool.not_eq_true'] at h
  exact ⟨fun _ => h.1, fun _ => h.2⟩

/-- The small form of a character is as much ink as the character. -/
theorem isInkOf_of_mem_lowerOf {c x : Char} (hx : x ∈ lowerOf c) : IsInkOf c x := by
  rcases lowerOf_cases c with hself | ⟨-, hletters⟩
  · rw [hself, List.mem_singleton] at hx
    exact hx ▸ ⟨id, id⟩
  · obtain ⟨n, hn, rfl⟩ := hletters x hx
    exact isInkOf_of_isInk (isInk_of_mem hn) c

/-- The capital form of a character is as much ink as the character. -/
theorem isInkOf_of_mem_upperOf {c x : Char} (hx : x ∈ upperOf c) : IsInkOf c x := by
  rcases upperOf_cases c with hself | ⟨-, hletters⟩
  · rw [hself, List.mem_singleton] at hx
    exact hx ▸ ⟨id, id⟩
  · obtain ⟨n, hn, rfl⟩ := hletters x hx
    exact isInkOf_of_isInk (capital_settled hn).2.2 c

/-- The second text spells out the first, each character in one of its own ways. -/
inductive Spelled (spelling : Char → List Char → Prop) : List Char → List Char → Prop
  | nil : Spelled spelling [] []
  | cons {c part cs out} : spelling c part → Spelled spelling cs out →
      Spelled spelling (c :: cs) (part ++ out)

namespace Spelled

variable {spelling : Char → List Char → Prop} {cs out : List Char}

/-- What holds of all spellings of all characters holds of the whole spelling. -/
theorem forall_mem {P : Char → Prop} (h : Spelled spelling cs out)
    (hparts : ∀ c ∈ cs, ∀ part, spelling c part → ∀ x ∈ part, P x) : ∀ x ∈ out, P x := by
  induction h with
  | nil => simp
  | cons hpart _ ih =>
    obtain ⟨hfirst, hrest⟩ := List.forall_mem_cons.mp hparts
    intro x hx
    rcases List.mem_append.mp hx with hx | hx
    · exact hfirst _ hpart x hx
    · exact ih hrest x hx

/-- Where every spelling of a character can be read back, the text can. -/
theorem flatMap_eq {read : Char → List Char} (h : Spelled spelling cs out)
    (hparts : ∀ c ∈ cs, ∀ part, spelling c part → part.flatMap read = [c]) :
    out.flatMap read = cs := by
  induction h with
  | nil => rfl
  | cons hpart _ ih =>
    obtain ⟨hfirst, hrest⟩ := List.forall_mem_cons.mp hparts
    rw [List.flatMap_append, hfirst _ hpart, ih hrest]
    rfl

/-- Spellings that are not empty and of as much ink put no blank at either end. -/
theorem trimmed (h : Spelled spelling cs out)
    (hparts : ∀ c part, spelling c part → part ≠ [] ∧ ∀ x ∈ part, IsInkOf c x)
    (htrimmed : Trimmed cs) : Trimmed out := by
  obtain ⟨hhead, hlast⟩ := htrimmed
  constructor
  · cases h with
    | nil => simp
    | @cons c part cs out hpart hrest =>
      obtain ⟨hne, hink⟩ := hparts c part hpart
      intro x hx
      cases part with
      | nil => exact absurd rfl hne
      | cons y part =>
        obtain rfl : y = x := by simpa using hx
        exact (hink y List.mem_cons_self).1 (hhead c rfl)
  · clear hhead
    induction h with
    | nil => simp
    | @cons c part cs out hpart hrest ih =>
      obtain ⟨hne, hink⟩ := hparts c part hpart
      intro x hx
      cases hrest with
      | nil =>
        rw [List.append_nil] at hx
        exact (hink x (List.mem_of_getLast? hx)).1 (hlast c rfl)
      | @cons d next cs out hnext hrest =>
        have hmore : next ++ out ≠ [] := by simp [(hparts d next hnext).1]
        rw [List.getLast?_append_of_ne_nil _ hmore] at hx
        exact ih (by simpa using hlast) x hx

end Spelled

/-- The ways in which `lower` writes a character. -/
def IsLowerOf (c : Char) (part : List Char) : Prop :=
  (c.toNat = 0x3A3 ∧ (part = [Char.ofNat 0x3C2] ∨ part = [Char.ofNat 0x3C3])) ∨
    (c.toNat ≠ 0x3A3 ∧ part = lowerOf c)

/-- A text in small letters spells out the text. -/
theorem spelled_lowerAfter (before cs : List Char) :
    Spelled IsLowerOf cs (lowerAfter before cs) := by
  induction cs generalizing before with
  | nil => exact .nil
  | cons c rest ih =>
    rw [lowerAfter]
    refine .cons ?_ (ih _)
    split
    · rename_i hsigma
      refine .inl ⟨hsigma, ?_⟩
      split
      · exact .inl rfl
      · exact .inr rfl
    · rename_i hsigma
      exact .inr ⟨hsigma, rfl⟩

/-- A text in capitals spells out the text. -/
theorem spelled_flatMap (cs : List Char) :
    Spelled (fun c part => part = upperOf c) cs (cs.flatMap upperOf) := by
  induction cs with
  | nil => exact .nil
  | cons c rest ih =>
    rw [List.flatMap_cons]
    exact .cons rfl ih

/-- Both small sigmas are among the small letters, and have the capital one. -/
theorem sigma_cases {part : List Char}
    (h : part = [Char.ofNat 0x3C2] ∨ part = [Char.ofNat 0x3C3]) :
    ∃ n ∈ smallLetters, part = [Char.ofNat n] ∧ upperOf (Char.ofNat n) = [Char.ofNat 0x3A3] := by
  have hsettled := sigma_settled
  simp only [Bool.and_eq_true, List.contains_iff_mem, Option.any_eq_true, Nat.beq_eq] at hsettled
  obtain ⟨⟨hmem, back, hfinal, rfl⟩, back, hplain, rfl⟩ := hsettled
  rcases h with rfl | rfl
  · exact ⟨0x3C2, List.mem_cons_of_mem _ List.mem_cons_self, rfl,
      upperOf_of_capitalOf? (by decide) (by decide) hfinal⟩
  · exact ⟨0x3C3, hmem, rfl, upperOf_of_capitalOf? (by decide) (by decide) hplain⟩

/-- However `lower` writes a character, it writes small letters of as much ink. -/
theorem IsLowerOf.spec {c : Char} {part : List Char} (h : IsLowerOf c part) :
    part ≠ [] ∧ ∀ x ∈ part, IsSmall x ∧ IsInkOf c x := by
  rcases h with ⟨-, hsigma⟩ | ⟨hother, rfl⟩
  · obtain ⟨n, hn, rfl, -⟩ := sigma_cases hsigma
    refine ⟨by simp, fun x hx => ?_⟩
    rw [List.mem_singleton.mp hx]
    exact ⟨isSmall_of_mem hn, isInkOf_of_isInk (isInk_of_mem hn) c⟩
  · refine ⟨?_, fun x hx => ⟨isSmall_of_mem_lowerOf hother hx, isInkOf_of_mem_lowerOf hx⟩⟩
    rcases lowerOf_cases c with hself | ⟨hne, -⟩
    · simp [hself]
    · exact hne

/-- The capital form of a character is not empty. -/
theorem upperOf_ne_nil (c : Char) : upperOf c ≠ [] := by
  rcases upperOf_cases c with hself | ⟨hne, -⟩
  · simp [hself]
  · exact hne

/-- A text in small letters is made of small letters. -/
theorem isSmall_of_mem_lower {s : String} : ∀ c ∈ (lower s).toList, IsSmall c := by
  rw [lower, String.toList_ofList]
  exact (spelled_lowerAfter [] s.toList).forall_mem fun _ _ _ hpart x hx => (hpart.spec.2 x hx).1

/-- Small letters are left as they are. -/
theorem lowerAfter_of_isSmall {cs : List Char} (before : List Char) (h : ∀ c ∈ cs, IsSmall c) :
    lowerAfter before cs = cs := by
  induction cs generalizing before with
  | nil => rfl
  | cons c rest ih =>
    obtain ⟨⟨hsigma, hself⟩, hrest⟩ := List.forall_mem_cons.mp h
    rw [lowerAfter, if_neg hsigma, hself, ih _ hrest]
    rfl

/-- A text of small letters is left as it is. -/
theorem lower_of_isSmall {s : String} (h : ∀ c ∈ s.toList, IsSmall c) : lower s = s := by
  rw [lower, lowerAfter_of_isSmall [] h, String.ofList_toList]

/-- **A text in small letters stays as it is.** -/
theorem lower_idem (s : String) : lower (lower s) = lower s :=
  lower_of_isSmall isSmall_of_mem_lower

/-- **A text in capitals stays as it is.** -/
theorem upper_idem (s : String) : upper (upper s) = upper s := by
  have hcapital : ∀ x ∈ s.toList.flatMap upperOf, upperOf x = [x] := by
    intro x hx
    obtain ⟨c, -, hc⟩ := List.mem_flatMap.mp hx
    exact isCapital_of_mem_upperOf hc
  apply String.toList_inj.mp
  simp only [upper, String.toList_ofList]
  calc (s.toList.flatMap upperOf).flatMap upperOf
      = (s.toList.flatMap upperOf).flatMap fun x => [x] := List.flatMap_congr hcapital
    _ = s.toList.flatMap upperOf := List.flatMap_singleton' _

/-- Capitals of the small form of a capital text of small letters are that text. -/
theorem upper_lower_upper {s : String} (h : ∀ c ∈ s.toList, IsSmall c) :
    upper (lower (upper s)) = upper s := by
  apply String.toList_inj.mp
  simp only [upper, lower, String.toList_ofList]
  refine (spelled_lowerAfter [] (s.toList.flatMap upperOf)).flatMap_eq fun u hu part hpart => ?_
  obtain ⟨c, hc, hu⟩ := List.mem_flatMap.mp hu
  rcases hpart with ⟨hcode, hsigma⟩ | ⟨-, rfl⟩
  · obtain ⟨n, -, rfl, hback⟩ := sigma_cases hsigma
    rw [List.flatMap_singleton, hback, ← hcode, Char.ofNat_toNat]
  · rcases upperOf_cases c with hself | ⟨-, hletters⟩
    · rw [hself, List.mem_singleton] at hu
      rw [hu, (h c hc).2, List.flatMap_singleton, hself]
    · obtain ⟨n, hn, rfl⟩ := hletters u hu
      exact flatMap_upperOf_lowerOf hn

/-- **There and back once is enough.**  A text of small letters that has been put in capitals
and in small letters again is not changed by doing so once more. -/
theorem lower_upper_idem {s : String} (h : ∀ c ∈ s.toList, IsSmall c) :
    lower (upper (lower (upper s))) = lower (upper s) := by
  rw [upper_lower_upper h]

/-- Small letters put no blank at an end of a text. -/
theorem IsTrimmed.lower {s : String} (h : IsTrimmed s) : IsTrimmed (lower s) := by
  rw [IsTrimmed, Text.lower, String.toList_ofList]
  exact (spelled_lowerAfter [] s.toList).trimmed
    (fun _ _ hpart => ⟨hpart.spec.1, fun x hx => (hpart.spec.2 x hx).2⟩) h

/-- Capitals put no blank at an end of a text. -/
theorem IsTrimmed.upper {s : String} (h : IsTrimmed s) : IsTrimmed (upper s) := by
  rw [IsTrimmed, Text.upper, String.toList_ofList]
  refine (spelled_flatMap s.toList).trimmed (fun c part hpart => ?_) h
  subst hpart
  exact ⟨upperOf_ne_nil c, fun x hx => isInkOf_of_mem_upperOf hx⟩

/-- Small letters put no angle brackets in. -/
theorem IsBracketFree.lower {s : String} (h : IsBracketFree s) : IsBracketFree (lower s) := by
  rw [IsBracketFree, Text.lower, String.toList_ofList]
  exact (spelled_lowerAfter [] s.toList).forall_mem fun c hc _ hpart x hx =>
    (hpart.spec.2 x hx).2.2 (h c hc)

/-- Capitals put no angle brackets in. -/
theorem IsBracketFree.upper {s : String} (h : IsBracketFree s) : IsBracketFree (upper s) := by
  rw [IsBracketFree, Text.upper, String.toList_ofList]
  intro x hx
  obtain ⟨c, hc, hx⟩ := List.mem_flatMap.mp hx
  exact (isInkOf_of_mem_upperOf hx).2 (h c hc)

end Intake.Text
