import Intake.Text.Case

/-!
# Code points, rows of numbers, and what halving finds

A code point stands for a character, or for none.  A row is read from left to right into an array.
`readNumbers` reads the same numbers one after the other, so that what a row says can be worked out
from its characters.

`mem_images_of_findRun` says that halving finds no image that is not one of a run.
-/

namespace Intake.Text

/-- The character of a code point has that code point. -/
theorem toNat_ofNat {n : Nat} (hvalid : n.isValidChar) : (Char.ofNat n).toNat = n := by
  rw [Char.ofNat, dif_pos hvalid]
  rfl

/-- A code point that is no character stands for the first one of all. -/
theorem ofNat_cases (n : Nat) : Char.ofNat n = Char.ofNat 0 ∨ (Char.ofNat n).toNat = n := by
  by_cases hvalid : n.isValidChar
  · exact .inr (toNat_ofNat hvalid)
  · refine .inl ?_
    rw [Char.ofNat, dif_neg hvalid]
    rfl

/-- Characters are in the order of their code points. -/
theorem char_le_iff {a b : Char} : a ≤ b ↔ a.toNat ≤ b.toNat := by
  rw [Char.le_def, UInt32.le_iff_toNat_le]
  rfl

/-- The numbers of a row from its characters, the number being read first. -/
def readNumbers : Option Nat → List Char → List Nat
  | none, [] => []
  | some n, [] => [n]
  | none, c :: rest =>
    if c = ' ' then readNumbers none rest else readNumbers (some (digit36 c)) rest
  | some n, c :: rest =>
    if c = ' ' then n :: readNumbers none rest else readNumbers (some (n * 36 + digit36 c)) rest

/-- The numbers that a row holds once it has been read up to some point. -/
def RowState.numbers (st : RowState) : List Nat :=
  match st.open? with
  | some n => (st.done.push n).toList
  | none => st.done.toList

/-- Reading on adds the numbers of the rest to those that are done. -/
theorem RowState.numbers_foldl (st : RowState) (cs : List Char) :
    (cs.foldl RowState.step st).numbers = st.done.toList ++ readNumbers st.open? cs := by
  induction cs generalizing st with
  | nil =>
    obtain ⟨done, open?⟩ := st
    cases open? <;> simp [RowState.numbers, readNumbers]
  | cons c rest ih =>
    rw [List.foldl_cons, ih]
    obtain ⟨done, open?⟩ := st
    by_cases hblank : c = ' '
    · cases open? <;> simp [RowState.step, readNumbers, hblank]
    · cases open? <;> simp [RowState.step, readNumbers, hblank]

/-- A row read number by number. -/
theorem numbers_eq (row : String) : numbers row = readNumbers none row.toList := by
  have := RowState.numbers_foldl ⟨#[], none⟩ row.toList
  rw [List.nil_append] at this
  exact this

/-- The images of the letters of a run. -/
def CaseRun.images (run : CaseRun) : List Nat :=
  (List.range (run.count - 1 + 1)).map fun k => run.image + k * run.stride

/-- The image of a letter that a run covers is one of the images of the run. -/
theorem CaseRun.mem_images_of_apply? {run : CaseRun} {n image : Nat} (hfirst : run.first ≤ n)
    (hlast : n ≤ run.last) (h : run.apply? n = some image) : image ∈ run.images := by
  unfold CaseRun.apply? at h
  split at h
  · rename_i hmod
    obtain rfl : run.image + (n - run.first) = image := by simpa using h
    have hplace : (n - run.first) / run.stride * run.stride = n - run.first :=
      Nat.div_mul_cancel (Nat.dvd_of_mod_eq_zero hmod)
    have hwithin : n - run.first ≤ run.stride * (run.count - 1) := by
      rw [Nat.mul_comm]
      unfold last at hlast
      omega
    refine List.mem_map.mpr ⟨(n - run.first) / run.stride, ?_, by rw [hplace]⟩
    exact List.mem_range.mpr (Nat.lt_succ_of_le (Nat.div_le_of_le_mul hwithin))
  · cases h

/-- What halving finds is an image of some run. -/
theorem mem_images_of_findRun {runs : Array CaseRun} {n image : Nat} {lo hi : Nat}
    (h : findRun runs n lo hi = some image) : image ∈ runs.toList.flatMap CaseRun.images := by
  fun_induction findRun runs n lo hi with
  | case1 => cases h
  | case2 lo hi hlt run hrun hbelow ih => exact ih h
  | case3 lo hi hlt run hrun hbelow habove ih => exact ih h
  | case4 lo hi hlt run hrun hbelow habove =>
    have hmem : run ∈ runs.toList := by
      rw [← Array.getElem?_toList] at hrun
      exact List.mem_of_getElem? hrun
    exact List.mem_flatMap.mpr ⟨run, hmem,
      CaseRun.mem_images_of_apply? (Nat.not_lt.mp hbelow) (Nat.not_lt.mp habove) h⟩
  | case5 => cases h

end Intake.Text
