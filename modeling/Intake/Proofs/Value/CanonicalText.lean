import Intake.Value.Canonical
import Mathlib.Algebra.Order.Ring.Nat
import Mathlib.Tactic.SplitIfs

/-!
# Reading a quoted text back

Between double quotes every character is written so that it can be told where it ends and
which it is: as itself, as a backslash with a letter, or as one or two units by number.  So from
a quoted text, whatever follows it, the text can be read back.

* `canonicalChar_cases` lists the ways in which a character is written;
* `canonicalChar_inj` tells two characters apart, `canonicalText_inj` two texts.
-/

namespace Intake

namespace Text

/-- Hexadecimal digits of different numbers differ. -/
theorem hexDigit_inj {m n : Nat} (hm : m < 16) (hn : n < 16) (h : hexDigit m = hexDigit n) :
    m = n := by
  have hall : ∀ m < 16, ∀ n < 16, hexDigit m = hexDigit n → m = n := by decide
  exact hall m hm n hn h

/-- A number is written with as many hexadecimal digits as are asked for. -/
theorem length_hexDigits (width n : Nat) : (hexDigits width n).length = width := by
  induction width generalizing n with
  | zero => rfl
  | succ width ih => rw [hexDigits, List.length_append, ih, List.length_singleton]

/-- Numbers within the range of some hexadecimal digits are told apart by them. -/
theorem hexDigits_inj {width m n : Nat} (hm : m < 16 ^ width) (hn : n < 16 ^ width)
    (h : hexDigits width m = hexDigits width n) : m = n := by
  induction width generalizing m n with
  | zero =>
    rw [Nat.lt_one_iff.mp hm, Nat.lt_one_iff.mp hn]
  | succ width ih =>
    rw [hexDigits, hexDigits] at h
    obtain ⟨hfront, hlast⟩ := List.append_inj' h rfl
    rw [Nat.pow_succ] at hm hn
    have hquotient : m / 16 = n / 16 := ih (by omega) (by omega) hfront
    have hrest : m % 16 = n % 16 := hexDigit_inj (Nat.mod_lt _ (by decide))
      (Nat.mod_lt _ (by decide)) (by simpa using hlast)
    omega

end Text

namespace Value

/-- Two units with something after them are the same units with the same after them. -/
theorem unitText_inj {m n : Nat} (hm : m < 0x10000) (hn : n < 0x10000) {rest rest' : List Char}
    (h : unitText m ++ rest = unitText n ++ rest') : m = n ∧ rest = rest' := by
  simp only [unitText, List.cons_append, List.cons.injEq, true_and] at h
  obtain ⟨hdigits, hrest⟩ := List.append_inj h
    (by rw [Text.length_hexDigits, Text.length_hexDigits])
  exact ⟨Text.hexDigits_inj hm hn hdigits, hrest⟩

/-- The character that a backslash and a letter stand for. -/
def escaped (letter : Char) : Char :=
  if letter = 'n' then '\n' else if letter = 'r' then '\r' else if letter = 't' then '\t'
  else if letter = 'b' then Char.ofNat 8 else if letter = 'f' then Char.ofNat 12 else letter

/-- The second unit of a character that takes two, or nothing, and what the first one is. -/
def IsUnitsOf (c : Char) (first : Nat) (more : List Char) : Prop :=
  (more = [] ∧ first = c.toNat ∧ (first < 0xD800 ∨ 0xDFFF < first)) ∨
    (0x10000 ≤ c.toNat ∧ c.toNat < 0x110000 ∧ first = 0xD800 + (c.toNat - 0x10000) / 0x400 ∧
      more = unitText (0xDC00 + (c.toNat - 0x10000) % 0x400))

/-- **How a character is written**: by a letter, as itself, or in units. -/
theorem canonicalChar_cases (c : Char) :
    (∃ letter, canonicalChar c = ['\\', letter] ∧ letter ≠ 'u' ∧ escaped letter = c) ∨
    (canonicalChar c = [c] ∧ c ≠ '\\' ∧ c ≠ '"') ∨
    ∃ first more, canonicalChar c = unitText first ++ more ∧ first < 0x10000 ∧
      IsUnitsOf c first more := by
  have hvalid : c.toNat < 0xD800 ∨ 0xDFFF < c.toNat ∧ c.toNat < 0x110000 := c.valid
  have hcode : ∀ n, c.toNat = n → Char.ofNat n = c := by
    rintro n rfl
    exact Char.ofNat_toNat c
  generalize hwritten : canonicalChar c = written
  unfold canonicalChar at hwritten
  dsimp only at hwritten
  split_ifs at hwritten with hquote hslash hline hreturn htab hback hpage hplain hunit <;>
    subst hwritten
  · exact .inl ⟨'"', rfl, by decide, hquote.symm⟩
  · exact .inl ⟨'\\', rfl, by decide, hslash.symm⟩
  · exact .inl ⟨'n', rfl, by decide, hline.symm⟩
  · exact .inl ⟨'r', rfl, by decide, hreturn.symm⟩
  · exact .inl ⟨'t', rfl, by decide, htab.symm⟩
  · exact .inl ⟨'b', rfl, by decide, hcode 8 hback⟩
  · exact .inl ⟨'f', rfl, by decide, hcode 12 hpage⟩
  · exact .inr (.inl ⟨rfl, hslash, hquote⟩)
  · have hunits : IsUnitsOf c c.toNat [] := .inl ⟨rfl, rfl, hvalid.imp_right And.left⟩
    exact .inr (.inr ⟨c.toNat, [], (List.append_nil _).symm, hunit, hunits⟩)
  · have hfar : 0x10000 ≤ c.toNat ∧ c.toNat < 0x110000 := by omega
    have hfirst : 0xD800 + (c.toNat - 0x10000) / 0x400 < 0x10000 := by omega
    exact .inr (.inr ⟨_, _, rfl, hfirst, .inr ⟨hfar.1, hfar.2, rfl, rfl⟩⟩)

/-- No character is written so that it starts with a double quote. -/
theorem canonicalChar_ne_quote {c : Char} {rest rest' : List Char} :
    canonicalChar c ++ rest ≠ '"' :: rest' := by
  intro h
  rcases canonicalChar_cases c with ⟨letter, hc, -⟩ | ⟨hc, -, hquote⟩ | ⟨first, more, hc, -⟩
  · rw [hc] at h
    cases h
  · rw [hc] at h
    cases h
    exact hquote rfl
  · rw [hc] at h
    cases h

/-- Characters are told apart by their units. -/
theorem IsUnitsOf.inj {c d : Char} {first : Nat} {more more' rest rest' : List Char}
    (hc : IsUnitsOf c first more) (hd : IsUnitsOf d first more')
    (h : more ++ rest = more' ++ rest') : c = d ∧ rest = rest' := by
  rcases hc with ⟨rfl, rfl, hplain⟩ | ⟨hcLow, hcHigh, hcFirst, rfl⟩ <;>
    rcases hd with ⟨rfl, hdFirst, hplain'⟩ | ⟨hdLow, hdHigh, hdFirst, rfl⟩
  · exact ⟨Char.toNat_inj.mp hdFirst, by simpa using h⟩
  -- the first of two units is in a range in which there are no characters
  · omega
  · omega
  · obtain ⟨hsecond, hrest⟩ := unitText_inj (by omega) (by omega) h
    exact ⟨Char.toNat_inj.mp (by omega), hrest⟩

/-- **A written character is read back**, whatever follows it. -/
theorem canonicalChar_inj {c d : Char} {rest rest' : List Char}
    (h : canonicalChar c ++ rest = canonicalChar d ++ rest') : c = d ∧ rest = rest' := by
  rcases canonicalChar_cases c with ⟨letter, hc, hu, rfl⟩ | ⟨hc, hslash, -⟩ |
      ⟨first, more, hc, hfirst, hunits⟩ <;>
    rcases canonicalChar_cases d with ⟨letter', hd, hu', rfl⟩ | ⟨hd, hslash', -⟩ |
      ⟨first', more', hd, hfirst', hunits'⟩ <;>
    rw [hc, hd] at h
  · cases h
    exact ⟨rfl, rfl⟩
  · cases h
    exact absurd rfl hslash'
  · cases h
    exact absurd rfl hu
  · cases h
    exact absurd rfl hslash
  · cases h
    exact ⟨rfl, rfl⟩
  · cases h
    exact absurd rfl hslash
  · cases h
    exact absurd rfl hu'
  · cases h
    exact absurd rfl hslash'
  · rw [List.append_assoc, List.append_assoc] at h
    obtain ⟨rfl, hmore⟩ := unitText_inj hfirst hfirst' h
    exact hunits.inj hunits' hmore

/-- The characters of a quoted text. -/
theorem toList_canonicalText (s : String) :
    (canonicalText s).toList = '"' :: (s.toList.flatMap canonicalChar ++ ['"']) := by
  rw [canonicalText, String.toList_ofList]
  rfl

/-- **A quoted text is read back**, whatever follows it. -/
theorem canonicalText_inj {s t : String} {rest rest' : List Char}
    (h : (canonicalText s).toList ++ rest = (canonicalText t).toList ++ rest') :
    s = t ∧ rest = rest' := by
  have hchars : ∀ {cs ds : List Char}, cs.flatMap canonicalChar ++ '"' :: rest =
      ds.flatMap canonicalChar ++ '"' :: rest' → cs = ds ∧ rest = rest' := by
    intro cs
    induction cs with
    | nil =>
      intro ds h
      cases ds with
      | nil => exact ⟨rfl, by simpa using h⟩
      | cons d ds =>
        rw [List.flatMap_nil, List.flatMap_cons, List.append_assoc] at h
        exact absurd h.symm canonicalChar_ne_quote
    | cons c cs ih =>
      intro ds h
      cases ds with
      | nil =>
        rw [List.flatMap_nil, List.flatMap_cons, List.append_assoc] at h
        exact absurd h canonicalChar_ne_quote
      | cons d ds =>
        rw [List.flatMap_cons, List.flatMap_cons, List.append_assoc, List.append_assoc] at h
        obtain ⟨rfl, hlater⟩ := canonicalChar_inj h
        obtain ⟨rfl, hrest⟩ := ih hlater
        exact ⟨rfl, hrest⟩
  rw [toList_canonicalText, toList_canonicalText] at h
  simp only [List.cons_append, List.append_assoc, List.nil_append, List.cons.injEq, true_and] at h
  obtain ⟨htext, hrest⟩ := hchars h
  exact ⟨String.toList_inj.mp htext, hrest⟩

end Value

end Intake
