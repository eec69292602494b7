import Intake.Net.HostName
import Intake.Proofs.Text.Blank
import Intake.Proofs.Text.Chart

/-!
# Names of hosts travel in visible ASCII

Whatever characters a name is given in, the form in which it travels is made of visible ASCII
characters: neither controls nor blanks, and nothing beyond ASCII.

* `isAscii_of_mem_encode` says so of the labels that are put into ASCII;
* `isAscii_of_decode?` says that a label which can be read is in ASCII as it stands;
* `isVisible_of_asciiName?` is the conclusion for whole names.
-/

namespace Intake.Net

/-- Is `c` an ASCII character that can be seen? -/
def isVisible (c : Char) : Bool := 32 < c.toNat && c.toNat < 127

namespace Punycode

/-- Digits are in ASCII. -/
theorem isAscii_digitChar {d : Nat} (h : d < 36) : isAscii (digitChar d) = true := by
  have hall : ∀ d < 36, isAscii (digitChar d) = true := by decide
  exact hall d h

/-- Numbers are written in ASCII. -/
theorem isAscii_of_mem_digits {bias k q : Nat} {c : Char} (hc : c ∈ digits bias k q) :
    isAscii c = true := by
  fun_induction digits bias k q with
  | case1 k q t hlast =>
    rw [List.mem_singleton.mp hc]
    have hle : t ≤ 26 := threshold_le k bias
    exact isAscii_digitChar (by omega)
  | case2 k q t hmore ih =>
    rcases List.mem_cons.mp hc with rfl | hc
    · have hle : t ≤ 26 := threshold_le k bias
      have hmod := Nat.mod_lt (q - t) (show 0 < 36 - t by omega)
      exact isAscii_digitChar (by omega)
    · exact ih hc

/-- Passing a character writes in ASCII. -/
theorem isAscii_pass {basic code : Nat} {w : Writing} (c : Char)
    (h : w.done.all isAscii = true) : (w.pass basic code c).done.all isAscii = true := by
  unfold Writing.pass
  split
  · exact h
  · split
    · rw [List.all_append, h, Bool.true_and, List.all_eq_true]
      exact fun x hx => isAscii_of_mem_digits hx
    · exact h

/-- Passing all characters writes in ASCII. -/
theorem isAscii_foldl_pass {basic code : Nat} {w : Writing} (label : List Char)
    (h : w.done.all isAscii = true) :
    (label.foldl (Writing.pass basic code) w).done.all isAscii = true := by
  induction label generalizing w with
  | nil => exact h
  | cons c rest ih => exact ih (isAscii_pass c h)

/-- Putting code points in writes in ASCII. -/
theorem isAscii_writeCodes {label : List Char} {basic from_ : Nat} {w : Writing}
    {codes : List Nat} (h : w.done.all isAscii = true) :
    (writeCodes label basic from_ w codes).done.all isAscii = true := by
  induction codes generalizing from_ w with
  | nil => exact h
  | cons code rest ih =>
    rw [writeCodes]
    refine ih ?_
    exact isAscii_foldl_pass label h

/-- **A label is written in ASCII**, whatever it holds. -/
theorem isAscii_of_mem_encode {label : List Char} {c : Char} (hc : c ∈ encode label) :
    isAscii c = true := by
  unfold encode at hc
  rcases List.mem_append.mp hc with hc | hc
  · split at hc
    · simp at hc
    · rcases List.mem_append.mp hc with hc | hc
      · exact (List.mem_filter.mp hc).2
      · rw [List.mem_singleton.mp hc]
        rfl
  · exact List.all_eq_true.mp (isAscii_writeCodes rfl) c hc

/-- A label is split at its last dash. -/
theorem splitAtDash_append {before after : List Char} (h : '-' ∉ after) :
    splitAtDash (before ++ '-' :: after) = (before, after) := by
  have hafter : ((before ++ '-' :: after).reverse.takeWhile (· ≠ '-')).reverse = after := by
    rw [List.reverse_append, List.reverse_cons, List.append_assoc, List.takeWhile_append_of_pos]
    · simp
    · intro c hc
      simpa using fun heq : c = '-' => h (heq ▸ List.mem_reverse.mp hc)
  have hlength : (before ++ '-' :: after).length - after.length - 1 = before.length := by
    rw [List.length_append, List.length_cons]
    omega
  unfold splitAtDash
  rw [if_pos (by simp), hafter]
  dsimp only
  rw [hlength, List.take_left]

/-- A digit is in ASCII. -/
theorem isAscii_of_digitValue? {c : Char} {value : Nat} (h : digitValue? c = some value) :
    isAscii c = true := by
  rw [isAscii, decide_eq_true_eq]
  unfold digitValue? at h
  split at h
  · rename_i hletter
    have : c.toNat ≤ 122 := Text.char_le_iff.mp hletter.2
    omega
  · split at h
    · rename_i hcapital
      have : c.toNat ≤ 90 := Text.char_le_iff.mp hcapital.2
      omega
    · split at h
      · rename_i hdigit
        have : c.toNat ≤ 57 := Text.char_le_iff.mp hdigit.2
        omega
      · cases h

/-- Numbers that can be read are in ASCII. -/
theorem isAscii_of_foldlM_step? {numbers : List Char} {r r' : Reading}
    (h : numbers.foldlM Reading.step? r = some r') : ∀ c ∈ numbers, isAscii c = true := by
  induction numbers generalizing r with
  | nil => simp
  | cons c rest ih =>
    rw [List.foldlM_cons] at h
    obtain ⟨next, hstep, hrest⟩ := Option.bind_eq_some_iff.mp h
    obtain ⟨value, hvalue, -⟩ := Option.bind_eq_some_iff.mp hstep
    exact List.forall_mem_cons.mpr ⟨isAscii_of_digitValue? hvalue, ih hrest⟩

/-- **A label that can be read is in ASCII** as it stands. -/
theorem isAscii_of_decode? {cs label : List Char} (h : decode? cs = some label) :
    ∀ c ∈ cs, isAscii c = true := by
  have hparts : (∀ c ∈ (splitAtDash cs).1, isAscii c = true) ∧
      ∀ c ∈ (splitAtDash cs).2, isAscii c = true := by
    unfold decode? at h
    cases hsplit : splitAtDash cs with
    | mk basic numbers =>
      simp only [hsplit] at h
      split at h
      · cases h
      · rename_i hbasic
        obtain ⟨r, hread, -⟩ := Option.bind_eq_some_iff.mp h
        rw [Bool.not_eq_true', Bool.not_eq_false] at hbasic
        exact ⟨List.all_eq_true.mp hbasic, isAscii_of_foldlM_step? hread⟩
  obtain ⟨hfirst, hnumbers⟩ := hparts
  by_cases hdash : '-' ∈ cs
  · obtain ⟨after, before, hcs, hlast⟩ :=
      List.eq_append_cons_of_mem (List.mem_reverse.mpr hdash)
    obtain rfl : cs = before.reverse ++ '-' :: after.reverse := by
      rw [← List.reverse_reverse cs, hcs]
      simp
    rw [splitAtDash_append (mt List.mem_reverse.mp hlast)] at hfirst hnumbers
    intro c hc
    rcases List.mem_append.mp hc with hc | hc
    · exact hfirst c hc
    · rcases List.mem_cons.mp hc with rfl | hc
      · rfl
      · exact hnumbers c hc
  · have hall : splitAtDash cs = ([], cs) := by
      unfold splitAtDash
      rw [if_neg (by simpa using hdash)]
    rw [hall] at hnumbers
    exact hnumbers

end Punycode

/-- A label is written in ASCII. -/
theorem isAscii_of_hostLabel? {label : List Char} {l : HostLabel} (h : hostLabel? label = some l) :
    ∀ c ∈ l.written, isAscii c = true := by
  unfold hostLabel? at h
  split at h
  · rename_i written hmark
    obtain ⟨read, hread, rfl⟩ := Option.map_eq_some_iff.mp h
    obtain ⟨decoded, hdecode, -⟩ := Option.bind_eq_some_iff.mp hread
    have hwritten := Punycode.isAscii_of_decode? hdecode
    unfold afterMark? at hmark
    split at hmark
    · rename_i hprefix
      obtain rfl : label.drop asciiMark.length = written := by simpa using hmark
      obtain ⟨rest, rfl⟩ := List.isPrefixOf_iff_prefix.mp hprefix
      rw [List.drop_left] at hwritten
      intro c hc
      rcases List.mem_append.mp hc with hc | hc
      · exact List.all_eq_true.mp (show asciiMark.all isAscii = true by decide) c hc
      · exact hwritten c hc
    · cases hmark
  · split at h
    · rename_i hascii
      cases h
      exact List.all_eq_true.mp hascii
    · split at h
      · cases h
        intro c hc
        rcases List.mem_append.mp hc with hc | hc
        · exact List.all_eq_true.mp (show asciiMark.all isAscii = true by decide) c hc
        · exact Punycode.isAscii_of_mem_encode hc
      · cases h

/-- Where every label can be written, each written label comes from one of them. -/
theorem exists_of_mem_mapM {parts : List (List Char)} {name : List HostLabel}
    (h : parts.mapM hostLabel? = some name) {l : HostLabel} (hl : l ∈ name) :
    ∃ label ∈ parts, hostLabel? label = some l := by
  induction parts generalizing name with
  | nil =>
    cases h
    simp at hl
  | cons label rest ih =>
    rw [List.mapM_cons] at h
    obtain ⟨first, hfirst, h⟩ := Option.bind_eq_some_iff.mp h
    obtain ⟨others, hothers, h⟩ := Option.bind_eq_some_iff.mp h
    cases h
    rcases List.mem_cons.mp hl with rfl | hl
    · exact ⟨label, List.mem_cons_self, hfirst⟩
    · obtain ⟨other, hother, heq⟩ := ih hothers hl
      exact ⟨other, List.mem_cons_of_mem label hother, heq⟩

/-- **The name of a host travels in visible ASCII.** -/
theorem isVisible_of_asciiName? {cs name : List Char} (h : asciiName? cs = some name) :
    ∀ c ∈ name, isVisible c = true := by
  obtain ⟨plain, -, h⟩ := Option.bind_eq_some_iff.mp h
  obtain ⟨written, hwritten, h⟩ := Option.bind_eq_some_iff.mp h
  dsimp only at h
  split at h
  · rename_i hfits
    obtain rfl : ['.'].intercalate (written.map HostLabel.written) = name := by simpa using h
    intro c hc
    have hallowed : isForbidden c = false := by
      simp only [Bool.and_eq_true, Bool.not_eq_true', List.any_eq_false] at hfits
      simpa using hfits.2 c hc
    have hascii : isAscii c = true := by
      rcases Text.mem_of_mem_intercalate hc with rfl | ⟨part, hpart, hc⟩
      · rfl
      · obtain ⟨l, hl, rfl⟩ := List.mem_map.mp hpart
        obtain ⟨label, -, hlabel⟩ := exists_of_mem_mapM hwritten hl
        exact isAscii_of_hostLabel? hlabel c hc
    simp only [isForbidden, Bool.or_eq_false_iff, decide_eq_false_iff_not, beq_eq_false_iff_ne,
      isAscii, decide_eq_true_eq] at hallowed hascii
    simp only [isVisible, Bool.and_eq_true, decide_eq_true_eq]
    omega
  · cases h

/-- A visible ASCII character is no blank. -/
theorem isBlank_of_isVisible {c : Char} (h : isVisible c = true) : Text.isBlank c = false := by
  simp only [isVisible, Bool.and_eq_true, decide_eq_true_eq] at h
  simp only [Text.isBlank, Bool.or_eq_false_iff, Bool.and_eq_false_iff, decide_eq_false_iff_not,
    beq_eq_false_iff_ne]
  omega

end Intake.Net
