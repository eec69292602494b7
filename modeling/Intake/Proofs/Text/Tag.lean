import Intake.Proofs.Text.Span

/-!
# Tags

A tag is written down once as a grammar, apart from the reader that looks for one: perhaps a slash,
the first character of a name, then quoted parts and characters that are neither quotes nor
brackets, and a closing bracket.  A quoted part may hold anything but its own quote, so brackets
too, and a quote that is not closed is no part of a tag.

* `TagBody` and `IsTag` are the grammar;
* `afterTagName?_eq_some_iff` says that the reader goes by it, inside of quotes and outside;
* `marks_tag` says that the reader finds the tags and nothing else.
-/

namespace Intake.Text.Markup

/-- Is `c` a quote? -/
def IsQuote (c : Char) : Prop := c = '"' ∨ c = '\x27'

/-- What may stand in a tag after the first character of its name. -/
inductive TagBody : List Char → Prop where
  | nil : TagBody []
  | plain {c : Char} {rest : List Char} (hquote : ¬ IsQuote c) (hbracket : isBracket c = false)
      (hrest : TagBody rest) : TagBody (c :: rest)
  | quoted {quote : Char} {inner rest : List Char} (hquote : IsQuote quote) (hinner : quote ∉ inner)
      (hrest : TagBody rest) : TagBody (quote :: (inner ++ quote :: rest))

/-- What may still stand in a tag where a quote is in force, or none. -/
def TagRest : Option Char → List Char → Prop
  | none, body => TagBody body
  | some quote, body => ∃ inner rest, quote ∉ inner ∧ TagBody rest ∧ body = inner ++ quote :: rest

/-- A tag without its opening bracket. -/
def IsTag (span : List Char) : Prop :=
  ∃ slash first body, (slash = [] ∨ slash = ['/']) ∧ startsTag first = true ∧ TagBody body ∧
    span = slash ++ first :: (body ++ ['>'])

/-! ## The reader inside a tag -/

/-- Up to its own quote, everything belongs to a quoted part. -/
theorem afterTagName?_quoted {quote : Char} {inner : List Char} (hinner : quote ∉ inner)
    (rest : List Char) :
    afterTagName? (some quote) (inner ++ quote :: rest) = afterTagName? none rest := by
  induction inner with
  | nil => rw [List.nil_append, afterTagName?, if_pos rfl]
  | cons c inner ih =>
    obtain ⟨hc, hrest⟩ := List.ne_and_not_mem_of_not_mem_cons hinner
    rw [List.cons_append, afterTagName?, if_neg (Ne.symm hc), ih hrest]

/-- A quote is no bracket. -/
theorem IsQuote.ne {c : Char} (h : IsQuote c) : c ≠ '>' ∧ c ≠ '<' := by
  rcases h with rfl | rfl <;> decide

/-- A quote puts itself in force. -/
theorem afterTagName?_cons_quote {quote : Char} (h : IsQuote quote) (rest : List Char) :
    afterTagName? none (quote :: rest) = afterTagName? (some quote) rest := by
  have hquote : quote = '"' ∨ quote = '\x27' := h
  rw [afterTagName?, if_neg h.ne.1, if_neg h.ne.2, if_pos hquote]

/-- Outside of quotes a character that is neither a quote nor a bracket is passed over. -/
theorem afterTagName?_cons_plain {c : Char} (hquote : ¬ IsQuote c) (hclosing : c ≠ '>')
    (hopening : c ≠ '<') (rest : List Char) :
    afterTagName? none (c :: rest) = afterTagName? none rest := by
  have hother : ¬ (c = '"' ∨ c = '\x27') := hquote
  rw [afterTagName?, if_neg hclosing, if_neg hopening, if_neg hother]

/-- What follows a tag is found. -/
theorem TagBody.afterTagName?_eq {body : List Char} (h : TagBody body) (rest : List Char) :
    afterTagName? none (body ++ '>' :: rest) = some rest := by
  induction h with
  | nil => rw [List.nil_append, afterTagName?, if_pos rfl]
  | @plain c body hquote hbracket _ ih =>
    obtain ⟨hopening, hclosing⟩ : c ≠ '<' ∧ c ≠ '>' := by simpa [isBracket] using hbracket
    rw [List.cons_append, afterTagName?_cons_plain hquote hclosing hopening, ih]
  | @quoted quote inner body hquote hinner _ ih =>
    rw [List.cons_append, afterTagName?_cons_quote hquote, List.append_assoc, List.cons_append,
      afterTagName?_quoted hinner, ih]

/-- Where the reader finds an end, a tag ends. -/
theorem exists_tagRest_of_afterTagName? {quote : Option Char} (hquote : ∀ q ∈ quote, IsQuote q)
    {cs rest : List Char} (h : afterTagName? quote cs = some rest) :
    ∃ body, TagRest quote body ∧ cs = body ++ '>' :: rest := by
  induction cs generalizing quote with
  | nil => cases h
  | cons c more ih =>
    cases quote with
    | some q =>
      rw [afterTagName?] at h
      by_cases hc : c = q
      · subst hc
        rw [if_pos rfl] at h
        obtain ⟨body, hbody, rfl⟩ := ih (by simp) h
        exact ⟨c :: body, ⟨[], body, List.not_mem_nil, hbody, rfl⟩, rfl⟩
      · rw [if_neg hc] at h
        obtain ⟨body, ⟨inner, last, hinner, hlast, rfl⟩, rfl⟩ := ih hquote h
        refine ⟨c :: (inner ++ q :: last), ⟨c :: inner, last, ?_, hlast, rfl⟩, rfl⟩
        exact List.not_mem_cons_of_ne_of_not_mem (Ne.symm hc) hinner
    | none =>
      by_cases hq : IsQuote c
      · rw [afterTagName?_cons_quote hq] at h
        obtain ⟨body, ⟨inner, last, hinner, hlast, rfl⟩, rfl⟩ :=
          ih (fun q hmem => by cases hmem; exact hq) h
        exact ⟨c :: (inner ++ c :: last), .quoted hq hinner hlast, rfl⟩
      · by_cases hclosing : c = '>'
        · subst hclosing
          rw [afterTagName?, if_pos rfl] at h
          obtain rfl := Option.some.inj h
          exact ⟨[], .nil, rfl⟩
        · by_cases hopening : c = '<'
          · rw [afterTagName?, if_neg hclosing, if_pos hopening] at h
            cases h
          · rw [afterTagName?_cons_plain hq hclosing hopening] at h
            obtain ⟨body, hbody, rfl⟩ := ih hquote h
            exact ⟨c :: body, .plain hq (by simp [isBracket, hclosing, hopening]) hbody, rfl⟩

/-- **The reader goes by the grammar** after the first character of a name. -/
theorem afterTagName?_eq_some_iff {cs rest : List Char} :
    afterTagName? none cs = some rest ↔ ∃ body, TagBody body ∧ cs = body ++ '>' :: rest := by
  constructor
  · exact exists_tagRest_of_afterTagName? (by simp)
  · rintro ⟨body, hbody, rfl⟩
    exact hbody.afterTagName?_eq rest

/-! ## Whole tags -/

/-- No name starts with a slash. -/
theorem startsTag_slash : startsTag '/' = false := by decide

/-- Without a slash a tag starts with the first character of its name. -/
theorem afterOpenTag?_of_ne {c : Char} (hc : c ≠ '/') (rest : List Char) :
    afterOpenTag? (c :: rest) = if startsTag c then afterTagName? none rest else none := by
  rw [afterOpenTag?]
  intro d more heq _
  exact hc heq

/-- Only a slash and a name, or a name alone, start a tag. -/
theorem exists_start_of_afterOpenTag? {cs rest : List Char} (h : afterOpenTag? cs = some rest) :
    ∃ slash first more, (slash = [] ∨ slash = ['/']) ∧ startsTag first = true ∧
      afterTagName? none more = some rest ∧ cs = slash ++ first :: more := by
  have hstart : ∀ {c : Char} {more : List Char},
      (if startsTag c then afterTagName? none more else none) = some rest →
        startsTag c = true ∧ afterTagName? none more = some rest := by
    intro c more hc
    by_cases hname : startsTag c = true
    · rw [if_pos hname] at hc
      exact ⟨hname, hc⟩
    · rw [if_neg hname] at hc
      cases hc
  cases cs with
  | nil => cases h
  | cons c more =>
    by_cases hc : c = '/'
    · subst hc
      cases more with
      | nil =>
        rw [afterOpenTag?, startsTag_slash] at h
        · cases h
        · intro d more _ hnil
          cases hnil
      | cons first more =>
        rw [afterOpenTag?] at h
        exact ⟨['/'], first, more, .inr rfl, (hstart h).1, (hstart h).2, rfl⟩
    · rw [afterOpenTag?_of_ne hc] at h
      exact ⟨[], c, more, .inl rfl, (hstart h).1, (hstart h).2, rfl⟩

/-- A name is read after a slash and without one. -/
theorem afterOpenTag?_eq {slash : List Char} (hslash : slash = [] ∨ slash = ['/']) {first : Char}
    (hfirst : startsTag first = true) (more : List Char) :
    afterOpenTag? (slash ++ first :: more) = afterTagName? none more := by
  rcases hslash with rfl | rfl
  · have hne : first ≠ '/' := by
      rintro rfl
      rw [startsTag_slash] at hfirst
      cases hfirst
    rw [List.nil_append, afterOpenTag?_of_ne hne, if_pos hfirst]
  · rw [List.singleton_append, afterOpenTag?, if_pos hfirst]

/-- **The reader of tags finds the tags.** -/
theorem marks_tag : Marks afterOpenTag? IsTag where
  found_iff := by
    intro cs rest
    constructor
    · intro h
      obtain ⟨slash, first, more, hslash, hfirst, hmore, rfl⟩ := exists_start_of_afterOpenTag? h
      obtain ⟨body, hbody, rfl⟩ := afterTagName?_eq_some_iff.mp hmore
      exact ⟨_, ⟨slash, first, body, hslash, hfirst, hbody, rfl⟩, by simp⟩
    · rintro ⟨span, ⟨slash, first, body, hslash, hfirst, hbody, rfl⟩, rfl⟩
      have hsplit : slash ++ first :: (body ++ ['>']) ++ rest =
          slash ++ first :: (body ++ '>' :: rest) := by simp
      rw [hsplit, afterOpenTag?_eq hslash hfirst]
      exact hbody.afterTagName?_eq rest
  ends := by
    rintro span ⟨slash, first, body, -, -, -, rfl⟩
    rw [← List.cons_append, ← List.append_assoc, List.getLast?_concat]

end Intake.Text.Markup
