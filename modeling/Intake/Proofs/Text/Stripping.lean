import Intake.Proofs.Text.Block
import Intake.Proofs.Text.Tag

/-!
# What is stripped off a text

Blocks, tags and brackets are taken out one after the other, and each step sees what the one before
has left.  What the steps have in common is enough for both main statements: every span that is
taken out starts with an opening bracket and ends with a closing one.

* `stripTags_between` says that only markup is touched: text without brackets stays as it is, on
  either side of any text, whatever quotes and brackets are left open there;
* `stripTags_block` says that a script or a style goes with all that stands in it, and that the rest
  is stripped as if it had never been there.
-/

namespace Intake.Text

namespace Markup

/-! ## The three steps -/

/-- Text without brackets stays on either side when blocks are taken out. -/
theorem dropBlocks_between {before behind : List Char} (hbefore : '<' ∉ before)
    (hopening : '<' ∉ behind) (hclosing : '>' ∉ behind) (cs : List Char) :
    dropBlocks (before ++ cs ++ behind) = before ++ dropBlocks cs ++ behind :=
  marks_block.dropSpans_between hbefore hopening hclosing cs

/-- Text without brackets stays on either side when tags are taken out. -/
theorem dropTags_between {before behind : List Char} (hbefore : '<' ∉ before)
    (hopening : '<' ∉ behind) (hclosing : '>' ∉ behind) (cs : List Char) :
    dropTags (before ++ cs ++ behind) = before ++ dropTags cs ++ behind :=
  marks_tag.dropSpans_between hbefore hopening hclosing cs

/-- No bracket is dropped from text that has none. -/
theorem dropBrackets_eq {cs : List Char} (h : ∀ c ∈ cs, isBracket c = false) :
    dropBrackets cs = cs := by
  rw [dropBrackets, List.filter_eq_self]
  intro c hc
  rw [h c hc, Bool.not_false]

/-- Text without brackets stays on either side when brackets are dropped. -/
theorem dropBrackets_between {before behind : List Char}
    (hbefore : ∀ c ∈ before, isBracket c = false) (hbehind : ∀ c ∈ behind, isBracket c = false)
    (cs : List Char) :
    dropBrackets (before ++ cs ++ behind) = before ++ dropBrackets cs ++ behind := by
  have hsplit : dropBrackets (before ++ cs ++ behind) =
      dropBrackets before ++ dropBrackets cs ++ dropBrackets behind := by
    simp only [dropBrackets, List.filter_append]
  rw [hsplit, dropBrackets_eq hbefore, dropBrackets_eq hbehind]

/-- Nothing is put in by any of the steps. -/
theorem sublist_dropBrackets (cs : List Char) :
    (dropBrackets (dropTags (dropBlocks cs))).Sublist cs := by
  have hbrackets : (dropBrackets (dropTags (dropBlocks cs))).Sublist (dropTags (dropBlocks cs)) :=
    List.filter_sublist
  have htags : (dropTags (dropBlocks cs)).Sublist (dropBlocks cs) :=
    marks_tag.sublist_dropSpans _ _
  have hblocks : (dropBlocks cs).Sublist cs := marks_block.sublist_dropSpans _ _
  exact hbrackets.trans (htags.trans hblocks)

/-- A block is taken out with all that stands in it. -/
theorem dropBlocks_block {before span : List Char} (hbefore : '<' ∉ before) (hspan : IsBlock span)
    (cs : List Char) : dropBlocks (before ++ '<' :: (span ++ cs)) = before ++ dropBlocks cs :=
  marks_block.dropSpans_span hbefore hspan cs

end Markup

open Markup

/-- What is stripped off a text is stripped off its characters. -/
theorem toList_stripTags (s : String) :
    (stripTags s).toList = dropBrackets (dropTags (dropBlocks s.toList)) := by
  rw [stripTags, String.toList_ofList]

/-! ## Only markup is touched -/

/-- **Only markup is touched.**  Text without angle brackets stays as it is on either side of any
text.  What is left of a text has no angle brackets, and nothing was put into it; so a text without
angle brackets is left as it is, and stripping once is enough. -/
theorem stripTags_between {before behind : String} (hbefore : IsBracketFree before)
    (hbehind : IsBracketFree behind) (s : String) :
    stripTags (before ++ s ++ behind) = before ++ stripTags s ++ behind ∧
      IsBracketFree (stripTags s) ∧ (stripTags s).toList.Sublist s.toList ∧
      (IsBracketFree s → stripTags s = s) ∧ stripTags (stripTags s) = stripTags s := by
  have hfree : IsBracketFree (stripTags s) := isBracketFree_stripTags s
  obtain ⟨hfront, -⟩ := hbefore.not_mem
  obtain ⟨hopening, hclosing⟩ := hbehind.not_mem
  refine ⟨?_, hfree, ?_, stripTags_of_isBracketFree, stripTags_of_isBracketFree hfree⟩
  · apply String.toList_inj.mp
    simp only [toList_stripTags, String.toList_append]
    rw [dropBlocks_between hfront hopening hclosing, dropTags_between hfront hopening hclosing,
      dropBrackets_between hbefore hbehind]
  · rw [toList_stripTags]
    exact sublist_dropBrackets s.toList

/-- A quote and a bracket that are left open are closed by nothing that follows, and a tag between
two words goes. -/
theorem stripTags_between_quotes : IsBracketFree "it's " ∧ IsBracketFree "\"'" ∧
    stripTags ("it's " ++ "a <b title='x>y'>c</b> <i \"" ++ "\"'") =
      "it's " ++ stripTags "a <b title='x>y'>c</b> <i \"" ++ "\"'" := by
  have hbefore : IsBracketFree "it's " := by decide
  have hbehind : IsBracketFree "\"'" := by decide
  exact ⟨hbefore, hbehind, (stripTags_between hbefore hbehind _).1⟩

/-! ## Blocks -/

/-- A character that is no ASCII character is not an ASCII capital either. -/
theorem toLower_of_le {c : Char} (h : 128 ≤ c.toNat) : c.toLower = c := by
  unfold Char.toLower
  split
  · rename_i hcapital
    have hlast : c.toNat ≤ 90 := UInt32.le_iff_toNat_le.mp hcapital.2
    omega
  · rfl

/-- The small form of an ASCII character is its ASCII small form. -/
theorem simpleLower_of_lt {c : Char} (h : c.toNat < 128) : simpleLower c = c.toLower := by
  have hall : ∀ n < 128, simpleLower (Char.ofNat n) = (Char.ofNat n).toLower := by
    decide +kernel
  have hself := hall c.toNat h
  rwa [Char.ofNat_toNat] at hself

/-- A letter of either ASCII case is a letter of its small form. -/
theorem isLetterOf_toLower {c : Char} (h : c.toLower.toNat < 128) :
    isLetterOf c.toLower c = true := by
  have hascii : c.toNat < 128 := by
    by_contra hbeyond
    rw [toLower_of_le (by omega)] at h
    exact hbeyond h
  simp [isLetterOf, simpleLower_of_lt hascii]

/-- The name of a block may be written in any ASCII case. -/
theorem isBlockName_of_toLower {name : String}
    (h : name.toLower = "script" ∨ name.toLower = "style") : IsBlockName name.toList := by
  have hletters : name.toLower.toList = name.toList.map Char.toLower := String.toList_map
  have hnames : (blockNames.all fun letters => letters.all fun letter => letter.toNat < 128) =
      true := by decide
  have hmem : name.toLower.toList ∈ blockNames := by
    rcases h with h | h
    · rw [h]
      decide
    · rw [h]
      decide
  refine ⟨_, hmem, ?_⟩
  have hascii := List.all_eq_true.mp hnames _ hmem
  rw [hletters] at hascii ⊢
  rw [List.forall₂_map_left_iff, List.forall₂_same]
  intro c hc
  have hsmall := List.all_eq_true.mp hascii _ (List.mem_map_of_mem hc)
  exact isLetterOf_toLower (of_decide_eq_true hsmall)

/-- A closing tag may have the name as it was written, and blanks behind it. -/
theorem isClosing_self (name : List Char) {blanks : List Char}
    (hblanks : ∀ c ∈ blanks, isBlank c = true) :
    IsClosing name ('<' :: '/' :: (name ++ (blanks ++ ['>']))) := by
  refine ⟨name, blanks, List.forall₂_same.mpr fun c _ => ?_, hblanks, rfl⟩
  rw [sameLetter, beq_self_eq_true]

/-- **A script or a style goes with all that stands in it**, up to the first closing tag of its
name.  What stood in front of it, without brackets, and what is left of the text behind it come
together as if the block had never been there, whatever tags, quotes and brackets its body leaves
open. -/
theorem stripTags_block {before name attributes body blanks : String}
    (hbefore : IsBracketFree before) (hname : name.toLower = "script" ∨ name.toLower = "style")
    (hword : startsWithWordChar attributes.toList = false) (hclosed : '>' ∉ attributes.toList)
    (hbody : HasNoClosing name.toList body.toList) (hblanks : isBlankText blanks = true)
    (after : String) :
    stripTags (before ++ "<" ++ name ++ attributes ++ ">" ++ body ++ "</" ++ name ++ blanks ++
      ">" ++ after) = before ++ stripTags after := by
  have hopening : "<".toList = ['<'] := by decide
  have hending : ">".toList = ['>'] := by decide
  have hslash : "</".toList = ['<', '/'] := by decide
  have hclosing := isClosing_self name.toList (List.all_eq_true.mp hblanks)
  have hblock : IsBlock _ := ⟨name.toList, attributes.toList, body.toList, _,
    isBlockName_of_toLower hname, hword, hclosed, hbody, hclosing, rfl⟩
  obtain ⟨hfront, -⟩ := hbefore.not_mem
  have hblocks := dropBlocks_block hfront hblock after.toList
  have htags := dropTags_between hfront List.not_mem_nil List.not_mem_nil (dropBlocks after.toList)
  have hbrackets := @dropBrackets_between before.toList [] hbefore (by simp)
    (dropTags (dropBlocks after.toList))
  rw [List.append_nil, List.append_nil] at htags hbrackets
  apply String.toList_inj.mp
  simp only [toList_stripTags, String.toList_append, hopening, hending, hslash]
  simp only [List.append_assoc, List.cons_append, List.nil_append] at hblocks ⊢
  rw [hblocks, htags, hbrackets]

/-- A script in mixed case goes, though its body has an open quote, another closing tag and the
beginning of its own one. -/
theorem stripTags_block_mixed : HasNoClosing "ScRipt".toList "if (a<b) '</style></script".toList ∧
    stripTags ("hi " ++ "<" ++ "ScRipt" ++ " x='<b'" ++ ">" ++ "if (a<b) '</style></script" ++
      "</" ++ "ScRipt" ++ "\t" ++ ">" ++ "<b>you</b>") = "hi " ++ stripTags "<b>you</b>" := by
  have hbefore : IsBracketFree "hi " := by decide
  have hbody : HasNoClosing "ScRipt".toList "if (a<b) '</style></script".toList :=
    hasNoClosing_of_afterBlock? (by decide +kernel)
  refine ⟨hbody, stripTags_block hbefore (.inl ?_) ?_ ?_ hbody ?_ "<b>you</b>"⟩
  · decide +kernel
  · decide
  · decide
  · decide

end Intake.Text
