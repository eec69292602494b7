import Intake.Net.WebAddress
import Intake.Proofs.Net.HostName

/-!
# Web addresses are written in visible ASCII

Every part of an address is written so that nothing but visible ASCII characters stands in it:
the host by its name's form or in digits, all other parts with octets in place of what cannot
be seen.  So an address that was read and written has no blanks, neither at its ends nor
inside: `isBlank_of_mem_normal?`.
-/

namespace Intake

open Net

/-- A hexadecimal digit can be seen, small or capital. -/
theorem isVisible_hexDigit {n : Nat} (h : n < 16) :
    isVisible (Text.hexDigit n) = true ∧ isVisible (Text.hexDigit n).toUpper = true := by
  have hall : ∀ n < 16, isVisible (Text.hexDigit n) = true ∧
      isVisible (Text.hexDigit n).toUpper = true := by decide
  exact hall n h

/-- The digits of a number in hexadecimal are hexadecimal digits. -/
theorem exists_of_mem_hexDigits {width n : Nat} {c : Char} (hc : c ∈ Text.hexDigits width n) :
    ∃ d < 16, c = Text.hexDigit d := by
  induction width generalizing n with
  | zero => simp [Text.hexDigits] at hc
  | succ width ih =>
    rcases List.mem_append.mp hc with hc | hc
    · exact ih hc
    · exact ⟨n % 16, Nat.mod_lt n (by decide), List.mem_singleton.mp hc⟩

/-- A number in decimal can be seen. -/
theorem isVisible_of_mem_toString {n : Nat} {c : Char} (hc : c ∈ (toString n).toList) :
    isVisible c = true := by
  have hdigits : c ∈ Nat.toDigits 10 n := by simpa [toString, Nat.repr] using hc
  have hdigit := Char.isDigit_iff_toNat.mp
    (Nat.isDigit_of_mem_toDigits (by decide) (by decide) hdigits)
  have hlow : 48 ≤ c.toNat := hdigit.1
  have hhigh : c.toNat ≤ 57 := hdigit.2
  simp only [isVisible, Bool.and_eq_true, decide_eq_true_eq]
  omega

/-- An address of four octets can be seen. -/
theorem isVisible_of_mem_octetsText {n : Nat} {c : Char} (hc : c ∈ octetsText n) :
    isVisible c = true := by
  rcases Text.mem_of_mem_intercalate hc with rfl | ⟨part, hpart, hc⟩
  · rfl
  · obtain ⟨d, -, rfl⟩ := List.mem_map.mp hpart
    exact isVisible_of_mem_toString hc

/-- Groups with colons between them can be seen. -/
theorem isVisible_of_mem_colonText {groups : List Nat} {c : Char} (hc : c ∈ colonText groups) :
    isVisible c = true := by
  rcases Text.mem_of_mem_intercalate hc with rfl | ⟨part, hpart, hc⟩
  · rfl
  · obtain ⟨d, -, rfl⟩ := List.mem_map.mp hpart
    unfold hexText at hc
    split at hc
    · rw [List.mem_singleton.mp hc]
      rfl
    · rename_i ds hds
      have hdigit := List.dropWhile_subset (l := Text.hexDigits 4 d) (· == '0') hc
      obtain ⟨d, hd, rfl⟩ := exists_of_mem_hexDigits hdigit
      exact (isVisible_hexDigit hd).1

/-- An address of eight groups can be seen. -/
theorem isVisible_of_mem_groupsText {groups : List Nat} {c : Char}
    (hc : c ∈ groupsText groups) : isVisible c = true := by
  unfold groupsText at hc
  simp only at hc
  split at hc
  · exact isVisible_of_mem_colonText hc
  · rcases List.mem_append.mp hc with hc | hc
    · rcases List.mem_append.mp hc with hc | hc
      · exact isVisible_of_mem_colonText hc
      · exact List.all_eq_true.mp (show [':', ':'].all isVisible = true by decide) c hc
    · exact isVisible_of_mem_colonText hc

namespace WebAddress

/-- The form in which a host is written can be seen. -/
theorem isVisible_of_hostText? {cs host : List Char} (h : hostText? cs = some host) :
    ∀ c ∈ host, isVisible c = true := by
  unfold hostText? at h
  split at h
  · split at h
    · obtain ⟨groups, -, h⟩ := Option.bind_eq_some_iff.mp h
      cases h
      intro c hc
      rcases List.mem_cons.mp hc with rfl | hc
      · rfl
      · rcases List.mem_append.mp hc with hc | hc
        · exact isVisible_of_mem_groupsText hc
        · rw [List.mem_singleton.mp hc]
          rfl
    · cases h
  · split at h
    · cases h
    · obtain ⟨name, hname, h⟩ := Option.bind_eq_some_iff.mp h
      split at h
      · cases h
      · split at h
        · obtain ⟨n, -, rfl⟩ := Option.map_eq_some_iff.mp h
          exact fun c hc => isVisible_of_mem_octetsText hc
        · cases h
          exact isVisible_of_asciiName? hname

/-- An encoded part of an address that cannot hold spaces can be seen. -/
theorem isVisible_of_mem_encoded {others cs : List Char} (hspace : ' ' ∈ others) {c : Char}
    (hc : c ∈ encoded others cs) : isVisible c = true := by
  obtain ⟨d, -, hc⟩ := List.mem_flatMap.mp hc
  split at hc
  · rename_i hplain
    obtain rfl : c = d := by simpa using hc
    simp only [Bool.and_eq_true, isAscii, isControl, Bool.not_eq_true', ← Bool.not_eq_true,
      Bool.or_eq_true, decide_eq_true_eq, beq_iff_eq, List.contains_iff_mem] at hplain
    obtain ⟨⟨hascii, hcontrol⟩, hother⟩ := hplain
    have hseen : c.toNat ≠ ' '.toNat := by
      intro hcode
      rw [Char.toNat_inj.mp hcode] at hother
      exact hother hspace
    have hcode : ' '.toNat = 32 := rfl
    simp only [isVisible, Bool.and_eq_true, decide_eq_true_eq]
    omega
  · obtain ⟨octet, -, hc⟩ := List.mem_flatMap.mp hc
    rcases List.mem_cons.mp hc with rfl | hc
    · rfl
    · obtain ⟨digit, hdigit, rfl⟩ := List.mem_map.mp hc
      obtain ⟨d, hd, rfl⟩ := exists_of_mem_hexDigits hdigit
      exact (isVisible_hexDigit hd).2

/-- A step up leaves pieces of the path. -/
theorem mem_of_mem_stepUp {before : List (List Char)} {piece : List Char}
    (h : piece ∈ stepUp before) : piece ∈ before := by
  cases before with
  | nil => exact h
  | cons last before =>
    rw [stepUp] at h
    split at h
    · exact h
    · exact List.mem_cons_of_mem last h

/-- After its steps have been taken, a path has only pieces that it had before, and empty
ones. -/
theorem mem_of_mem_walk {before rest : List (List Char)} {piece : List Char}
    (h : piece ∈ walk before rest) : piece = [] ∨ piece ∈ before ∨ piece ∈ rest := by
  have hend : ∀ {some : List (List Char)}, piece ∈ some.reverse ++ [[]] →
      piece = [] ∨ piece ∈ some := by
    intro some hmem
    rcases List.mem_append.mp hmem with hmem | hmem
    · exact .inr (List.mem_reverse.mp hmem)
    · exact .inl (List.mem_singleton.mp hmem)
  fun_induction walk before rest with
  | case1 before => exact .inr (.inl (List.mem_reverse.mp h))
  | case2 before last hup => exact (hend h).imp_right fun hmem => .inl (mem_of_mem_stepUp hmem)
  | case3 before last hup hplace => exact (hend h).imp_right .inl
  | case4 before last hup hplace =>
    rcases List.mem_append.mp h with h | h
    · exact .inr (.inl (List.mem_reverse.mp h))
    · exact .inr (.inr h)
  | case5 before first rest hmore hup ih =>
    rcases ih h with hempty | hmem | hmem
    · exact .inl hempty
    · exact .inr (.inl (mem_of_mem_stepUp hmem))
    · exact .inr (.inr (List.mem_cons_of_mem first hmem))
  | case6 before first rest hmore hup hplace ih =>
    rcases ih h with hempty | hmem | hmem
    · exact .inl hempty
    · exact .inr (.inl hmem)
    · exact .inr (.inr (List.mem_cons_of_mem first hmem))
  | case7 before first rest hmore hup hplace ih =>
    rcases ih h with hempty | hmem | hmem
    · exact .inl hempty
    · rcases List.mem_cons.mp hmem with rfl | hmem
      · exact .inr (.inr List.mem_cons_self)
      · exact .inr (.inl hmem)
    · exact .inr (.inr (List.mem_cons_of_mem first hmem))

/-- The pieces of a path can be seen. -/
theorem isVisible_of_mem_pathOf {cs piece : List Char} (hpiece : piece ∈ pathOf cs) {c : Char}
    (hc : c ∈ piece) : isVisible c = true := by
  rcases mem_of_mem_walk hpiece with rfl | hmem | hmem
  · simp at hc
  · simp at hmem
  · obtain ⟨piece, -, rfl⟩ := List.mem_map.mp hmem
    exact isVisible_of_mem_encoded (by decide) hc

/-- Every part of an address is written in characters that can be seen. -/
structure IsVisible (a : WebAddress) : Prop where
  user : ∀ c ∈ a.user, isVisible c = true
  password : ∀ c ∈ a.password, isVisible c = true
  host : ∀ c ∈ a.host, isVisible c = true
  path : ∀ piece ∈ a.path, ∀ c ∈ piece, isVisible c = true
  query : ∀ q ∈ a.query, ∀ c ∈ q, isVisible c = true
  fragment : ∀ f ∈ a.fragment, ∀ c ∈ f, isVisible c = true

/-- An address that was read can be seen. -/
theorem isVisible_of_ofChars? {cs : List Char} {a : WebAddress} (h : ofChars? cs = some a) :
    a.IsVisible := by
  unfold ofChars? at h
  simp only at h
  obtain ⟨rest, -, h⟩ := Option.bind_eq_some_iff.mp h
  obtain ⟨scheme, -, h⟩ := Option.bind_eq_some_iff.mp h
  split at h
  · cases h
  · obtain ⟨host, hhost, h⟩ := Option.bind_eq_some_iff.mp h
    obtain ⟨service, -, h⟩ := Option.bind_eq_some_iff.mp h
    cases h
    have hencoded : ∀ {others : List Char} {part : Option (List Char)}, ' ' ∈ others →
        ∀ q ∈ part.map (encoded others), ∀ c ∈ q, isVisible c = true := by
      intro others part hspace q hq c hc
      obtain ⟨raw, -, rfl⟩ := Option.map_eq_some_iff.mp hq
      exact isVisible_of_mem_encoded hspace hc
    exact {
      user := fun c hc => isVisible_of_mem_encoded (by decide) hc
      password := fun c hc => isVisible_of_mem_encoded (by decide) hc
      host := isVisible_of_hostText? hhost
      path := fun piece hpiece c hc => isVisible_of_mem_pathOf hpiece hc
      query := hencoded (by decide)
      fragment := hencoded (by decide) }

/-- The user and password in front of a host can be seen. -/
theorem IsVisible.userText {a : WebAddress} (h : a.IsVisible) :
    ∀ c ∈ a.userText, Net.isVisible c = true := by
  unfold WebAddress.userText
  split
  · simp
  · refine List.forall_mem_append.mpr
      ⟨List.forall_mem_append.mpr ⟨h.user, ?_⟩, List.all_eq_true.mp rfl⟩
    split
    · simp
    · exact List.forall_mem_cons.mpr ⟨rfl, h.password⟩

/-- What can be seen in its parts can be seen in the whole. -/
theorem IsVisible.text {a : WebAddress} (h : a.IsVisible) :
    ∀ c ∈ a.text.toList, Net.isVisible c = true := by
  have hscheme : ∀ c ∈ a.scheme.name.toList, Net.isVisible c = true := by
    cases a.scheme <;> exact List.all_eq_true.mp rfl
  have hpath : ∀ c ∈ a.path.flatMap fun piece => '/' :: piece, Net.isVisible c = true := by
    intro c hc
    obtain ⟨piece, hpiece, hc⟩ := List.mem_flatMap.mp hc
    rcases List.mem_cons.mp hc with rfl | hc
    · rfl
    · exact h.path piece hpiece c hc
  rw [WebAddress.text, String.toList_ofList]
  simp only [List.forall_mem_append]
  refine ⟨⟨⟨⟨⟨⟨⟨hscheme, List.all_eq_true.mp rfl⟩, h.userText⟩, h.host⟩, ?_⟩, hpath⟩, ?_⟩, ?_⟩
  · cases a.service with
    | none => simp
    | some n => exact List.forall_mem_cons.mpr ⟨rfl, fun _ hc => isVisible_of_mem_toString hc⟩
  · cases hquery : a.query with
    | none => simp
    | some q => exact List.forall_mem_cons.mpr ⟨rfl, h.query q hquery⟩
  · cases hfragment : a.fragment with
    | none => simp
    | some f => exact List.forall_mem_cons.mpr ⟨rfl, h.fragment f hfragment⟩

/-- **A web address in its one form has no blanks.** -/
theorem isBlank_of_mem_normal? {s text : String} (h : normal? s = some text) :
    ∀ c ∈ text.toList, Text.isBlank c = false := by
  obtain ⟨a, hread, rfl⟩ := Option.map_eq_some_iff.mp h
  exact fun c hc => isBlank_of_isVisible ((isVisible_of_ofChars? hread).text c hc)

end WebAddress

end Intake
