import Intake.Proofs.Form.Cleaning
import Intake.Proofs.Form.EditSession
import Intake.Proofs.Form.Faults
import Intake.Proofs.Form.Invariant
import Intake.Proofs.Schema.Layers
import Intake.Proofs.Text.Digit
import Intake.Proofs.Ticket

/-!
# The number of a task that was filled in from its link

When the link of a task changes, the key that stands in it is filled in as the task's number.  A
link is recognised as a whole, a key is searched for in a text, and a number is recognised as a
whole again; so three readings have to fit together.  They do, as all three go by the grammar of
keys: what is searched for is found exactly if a key stands somewhere after its mark, what is found
is a key, and nothing in a key is a blank or an angle bracket, so that cleaning leaves it as it is.

* `Ticket.isKeyText_of_keyInChars?` and `Ticket.exists_keyInChars?` say what is found, and when;
* `Ticket.exists_keyIn?_of_isLink` says that there is a key in every link;
* `cleaned_of_keyIn?` says that a key that was found is clean and passes the test for numbers;
* `get_taskNumber_of_sanitize` says that a key stays as it is when answers are sanitized, and
  `messageFor?_taskNumber` that nothing is reported of it;
* `taskNumber_filled_in` is the conclusion.
-/

namespace Intake

/-! ## Keys in a text -/

namespace Ticket

open Text

/-- A capital letter is neither a blank nor an angle bracket. -/
theorem isInk_of_isCapital {c : Char} (h : isCapital c = true) :
    isBlank c = false ∧ Markup.isBracket c = false := by
  rw [isCapital, Bool.and_eq_true, decide_eq_true_eq, decide_eq_true_eq, char_le_iff,
    char_le_iff] at h
  obtain ⟨hfirst, hlast⟩ : 65 ≤ c.toNat ∧ c.toNat ≤ 90 := h
  constructor
  · rw [Bool.eq_false_iff]
    intro hblank
    have hapart : ∀ n ∈ blankCodes, ¬ (65 ≤ n ∧ n ≤ 90) := by decide
    exact hapart _ (mem_blankCodes hblank) ⟨hfirst, hlast⟩
  · rw [Bool.eq_false_iff]
    intro hbracket
    rw [Markup.isBracket, Bool.or_eq_true, beq_iff_eq, beq_iff_eq] at hbracket
    rcases hbracket with rfl | rfl
    · exact absurd hfirst (by decide)
    · exact absurd hfirst (by decide)

/-- **A key is ink**: it has neither blanks nor angle brackets. -/
theorem IsKeyText.isInk {key : List Char} (h : IsKeyText key) :
    ∀ c ∈ key, isBlank c = false ∧ Markup.isBracket c = false := by
  obtain ⟨letters, digits, -, hcapitals, -, hdecimals, rfl⟩ := h
  intro c hc
  rw [List.mem_append, List.mem_cons] at hc
  rcases hc with hletter | rfl | hdigit
  · exact isInk_of_isCapital (hcapitals c hletter)
  · decide
  · exact ⟨isBlank_of_isDecimal (hdecimals c hdigit), isBracket_of_isDecimal (hdecimals c hdigit)⟩

/-- Where a key stands in front, a key is taken off; it may have more digits. -/
theorem exists_takeKey? {key : List Char} (h : IsKeyText key) (rest : List Char) :
    ∃ found, takeKey? (key ++ rest) = some found := by
  obtain ⟨letters, digits, hletters, hcapitals, hdigits, hdecimals, rfl⟩ := h
  have hlonger : IsKeyText (letters ++ '-' :: (digits ++ rest.takeWhile isDecimal)) := by
    refine ⟨letters, _, hletters, hcapitals, by simp [hdigits], fun c hc => ?_, rfl⟩
    rcases List.mem_append.mp hc with hdigit | hmore
    · exact hdecimals c hdigit
    · exact List.mem_takeWhile_imp hmore
  have hstop : ∀ c ∈ (rest.dropWhile isDecimal).head?, isDecimal c = false :=
    (parted_iff.mp ⟨rfl, rfl⟩).2.1
  refine ⟨(_, rest.dropWhile isDecimal), takeKey?_eq_some_iff.mpr ⟨hlonger, hstop, ?_⟩⟩
  simp [List.takeWhile_append_dropWhile]

/-- **What is found is a key.** -/
theorem isKeyText_of_keyInChars? {cs key : List Char} (h : keyInChars? cs = some key) :
    IsKeyText key := by
  induction cs with
  | nil => cases h
  | cons c rest ih =>
    rw [keyInChars?] at h
    split at h
    · rename_i found more hfound
      cases h
      obtain ⟨front, -, htake⟩ := Option.bind_eq_some_iff.mp hfound
      exact (takeKey?_eq_some_iff.mp htake).1
    · exact ih h

/-- **A key is found** where one stands anywhere after its mark. -/
theorem exists_keyInChars? {cs key : List Char} (hkey : IsKeyText key)
    (h : keyMark ++ key <:+: cs) : ∃ found, keyInChars? cs = some found := by
  obtain ⟨before, rest, rfl⟩ := h
  induction before with
  | nil =>
    obtain ⟨found, hfound⟩ := exists_takeKey? hkey rest
    have hmark : after? keyMark (keyMark ++ (key ++ rest)) = some (key ++ rest) :=
      after?_eq_some_iff.mpr rfl
    have hfront : [] ++ (keyMark ++ key) ++ rest = '/' :: ("browse/".toList ++ (key ++ rest)) := by
      rw [List.nil_append, List.append_assoc]
      rfl
    have hhere : (after? keyMark ('/' :: ("browse/".toList ++ (key ++ rest)))).bind takeKey? =
        some found := by
      rw [← hfound]
      exact congrArg (Option.bind · takeKey?) hmark
    rw [hfront, keyInChars?, hhere]
    exact ⟨found.1, rfl⟩
  | cons c before ih =>
    obtain ⟨later, hlater⟩ := ih
    rw [List.cons_append, List.cons_append, keyInChars?]
    split
    · exact ⟨_, rfl⟩
    · exact ⟨later, hlater⟩

/-- **There is a key in every link.** -/
theorem exists_keyIn?_of_isLink {s : String} (h : isLink s = true) :
    ∃ key, keyIn? s = some key := by
  obtain ⟨site, key, hlink, -, hkey⟩ := isLink_iff.mp h
  have hmiddle : linkMiddle = ".atlassian.net".toList ++ keyMark := by decide
  have hmark : keyMark ++ key <:+: s.toList := by
    have hstrip : (strip s).toList = stripChars s.toList := String.toList_ofList
    have hend : keyMark ++ key <:+ stripChars s.toList := by
      rw [← hstrip, hlink, hmiddle]
      exact ⟨linkStart ++ site ++ ".atlassian.net".toList, by simp only [List.append_assoc]⟩
    exact hend.isInfix.trans (isInfix_stripChars s.toList)
  obtain ⟨found, hfound⟩ := exists_keyInChars? hkey hmark
  exact ⟨String.ofList found, by rw [keyIn?, hfound]; rfl⟩

end Ticket

open Ticket

/-- What passes the test for links is a link. -/
theorem isLink_of_passes {url : String} {answers : Answers}
    (h : RuleTest.passes? (.text url) answers .ticketLink = .ok true) : isLink url = true := by
  have hstrip : Text.strip (Text.strip url) = Text.strip url :=
    Text.strip_of_isTrimmed (Text.isTrimmed_strip url)
  have hpasses : isLink (Text.strip url) = true := Except.ok.inj h
  rw [isLink_iff] at hpasses ⊢
  unfold IsLinkOf at hpasses ⊢
  rwa [hstrip] at hpasses

/-- **A key that was found is clean and a key.**  It is not empty, cleaning leaves it as it is, and
it passes the test for keys. -/
theorem cleaned_of_keyIn? {s key : String} (h : keyIn? s = some key) :
    key ≠ "" ∧ Cleaning.IsCleanText key ∧
      ∀ answers, RuleTest.passes? (.text key) answers .ticketKey = .ok true := by
  obtain ⟨chars, hchars, rfl⟩ := Option.map_eq_some_iff.mp h
  have hkey := isKeyText_of_keyInChars? hchars
  have hink : ∀ c ∈ (String.ofList chars).toList,
      Text.isBlank c = false ∧ Text.Markup.isBracket c = false := by
    rw [String.toList_ofList]
    exact hkey.isInk
  have htrimmed : Text.IsTrimmed (String.ofList chars) :=
    Text.isTrimmed_of_forall fun c hc => (hink c hc).1
  refine ⟨?_, ⟨htrimmed, fun c hc => (hink c hc).2⟩, fun answers => ?_⟩
  · intro hempty
    obtain ⟨letters, digits, -, -, -, -, rfl⟩ := hkey
    simpa using congrArg String.toList hempty
  · have hstrip := Text.strip_of_isTrimmed htrimmed
    have hread : isKey (String.ofList chars) = true := by
      have hself : Text.stripChars chars = chars := by
        rw [Text.IsTrimmed, String.toList_ofList] at htrimmed
        exact htrimmed.stripChars_eq
      rw [isKey, String.toList_ofList, hself]
      exact isKeyChars_iff.mpr hkey
    show Except.ok (isKey (Text.strip (String.ofList chars))) = .ok true
    rw [hstrip, hread]

/-! ## The field in the task form -/

/-- What the task form says of the task's number: it is a text that depends on no other answer, with
at least one character, and a key. -/
theorem exists_taskNumber : ∃ d ∈ BuiltIn.taskForm.fields, d.name = "taskNumber" ∧ d.type = .text ∧
    d.condition = none ∧ d.derivation = none ∧ d.cleaner = none ∧
      ∃ identity message, d.rules = [.minLength 1, .own ⟨.test .ticketKey identity, message⟩] :=
  ⟨_, .tail _ (.head _), rfl, rfl, rfl, rfl, rfl, _, _, rfl⟩

/-- The task form has a schema. -/
theorem exists_schema_taskForm :
    ∃ schema, Schema.compile BuiltIn.taskForm.fields = .ok schema := by
  obtain ⟨t, ht⟩ : ∃ t, payload? BuiltIn.taskForm.fields = .ok t := by
    refine exists_payload? fun d hd => ?_
    simp only [BuiltIn.taskForm, BuiltIn.taskFields, List.mem_cons, List.not_mem_nil,
      or_false] at hd
    rcases hd with rfl | rfl | rfl | rfl | rfl | rfl | rfl | rfl | rfl | rfl | rfl | rfl | rfl | rfl
      <;> exact ⟨_, rfl⟩
  exact ⟨_, Schema.compile_eq_ok BuiltIn.taskForm.distinct ht⟩

/-- The conditions of the task form. -/
theorem condition_taskForm : ∀ d ∈ BuiltIn.taskForm.fields, d.condition = none ∨
    d.condition = some BuiltIn.aiWasUsed ∨ d.condition = some BuiltIn.othersSelected := by
  simp [BuiltIn.taskForm, BuiltIn.taskFields]

/-- All functions of the task form are the engine's, so it is steady whatever the host. -/
theorem isSteady_taskForm (host : Host) : ∀ d ∈ BuiltIn.taskForm.fields, d.IsSteady host := by
  have hown : ∀ d ∈ BuiltIn.taskForm.fields, ∀ r ∈ d.constraints.own,
      ∃ t identity, r.test = .test t identity := by
    simp [BuiltIn.taskForm, BuiltIn.taskFields, BuiltIn.ownRule]
  refine fun d hd => ⟨fun c hc => ?_, fun r hr value answers => ?_⟩
  · rcases condition_taskForm d hd with hnone | hsome | hsome
    · rw [hnone] at hc
      cases hc
    · cases hsome.symm.trans hc
      exact ⟨Clause.isWorded_of_literal nofun, nofun⟩
    · cases hsome.symm.trans hc
      exact ⟨Clause.isWorded_of_predicate rfl, nofun⟩
  · obtain ⟨t, identity, htest⟩ := hown d hd r hr
    exact OwnRule.not_jams_of_test htest

/-- **Nothing is said of a number that is a key.** -/
theorem run?_of_key {d : Field} (htype : d.type = .text) (hcond : d.condition = none)
    {identity : Identity} {message : String}
    (hrules : d.rules = [.minLength 1, .own ⟨.test .ticketKey identity, message⟩]) {key : String}
    (hne : key ≠ "") (hclean : Cleaning.IsCleanText key) {answers : Answers}
    (hpasses : RuleTest.passes? (.text key) answers .ticketKey = .ok true) (host : Host) :
    d.check.run? host (.text key) answers = .ok none := by
  have hstrip := Text.strip_of_isTrimmed hclean.1
  have hempty : (Value.text key).isEmpty = false := by
    rw [Bool.eq_false_iff]
    intro hblank
    exact hne (hstrip.symm.trans (Text.strip_of_isBlankText hblank))
  have hlength : (Rule.minLength 1).obeyed host (.text key) answers = true := by
    have hpositive : 0 < key.length := by
      rw [Nat.pos_iff_ne_zero]
      exact fun h => hne (String.length_eq_zero_iff.mp h)
    simp only [Rule.obeyed, Rule.obeyed?, saidYes, Value.strippedLength, hstrip, Bool.not_eq_true',
      decide_eq_false_iff_not]
    omega
  have hown : (Rule.own ⟨.test .ticketKey identity, message⟩).obeyed host (.text key) answers =
      true := by
    simp only [Rule.obeyed, Rule.obeyed?, OwnRule.passes?, Callable.decide?, hpasses]
    rfl
  have haccepts : d.type.accepts (.text key) = true := by
    rw [htype]
    rfl
  rw [Field.run?_of_accepts hcond hempty haccepts, firstBroken?_eq_none_iff, hrules]
  intro r hr
  rw [List.mem_cons, List.mem_singleton] at hr
  rcases hr with rfl | rfl
  · exact hlength
  · exact hown

/-- **Entering a link with a key** fills in the task's number. -/
theorem changeAnswer?_link {url key : String} (hkey : keyIn? url = some key) (values : Answers) :
    ∃ changed, changeAnswer? values "jiraLink" (.text url) BuiltIn.taskHooks = .ok changed ∧
      changed.get "taskNumber" = .text key := by
  refine ⟨_, changeAnswer?_of_follows follows_taskHooks values "jiraLink" (.text url), ?_⟩
  have hfound : (Value.text url).ticketKey? = some key := hkey
  rw [Answers.get, Answers.get?_update, lookup_changeWrites, writeUnder?_taskNumber,
    if_neg (by decide), if_pos rfl, hfound]
  rfl

/-- A key in the place of the task's number stays as it is when the answers are sanitized. -/
theorem get_taskNumber_of_sanitize {host : Host} {raw s : Answers} {key : String}
    (hraw : raw.get "taskNumber" = .text key) (hclean : Cleaning.IsCleanText key)
    (h : sanitize host BuiltIn.taskForm.fields raw = .ok s) :
    s.get "taskNumber" = .text key := by
  obtain ⟨d, hd, hname, htype, hcond, hderivation, hcleaner, -⟩ := exists_taskNumber
  have hkept : d.clean? host (.text key) = .ok (.text key) := by
    unfold Field.clean?
    rw [htype, hcleaner, FieldType.clean?, Cleaning.text?_of_isCleanText hclean]
    rfl
  have hcleaned := Field.clean?_get_of_sanitize BuiltIn.taskForm.distinct hd hcond hderivation h
  rw [hname, hraw, hkept] at hcleaned
  exact (Except.ok.inj hcleaned).symm

/-- Nothing is reported of a task's number that is a key. -/
theorem messageFor?_taskNumber {s : Answers} {key : String}
    (hvalue : s.get "taskNumber" = .text key)
    (hne : key ≠ "") (hclean : Cleaning.IsCleanText key)
    (hpasses : RuleTest.passes? (.text key) s .ticketKey = .ok true) (host : Host) :
    ∃ schema report, Schema.compile BuiltIn.taskForm.fields = .ok schema ∧
      schema.check? host s = .ok report ∧ report.messageFor? "taskNumber" = none := by
  obtain ⟨d, hd, hname, htype, hcond, -, -, identity, message, hrules⟩ := exists_taskNumber
  obtain ⟨schema, hschema⟩ := exists_schema_taskForm
  obtain ⟨report, hreport⟩ := Schema.exists_check? hschema (isSteady_taskForm host) s
  refine ⟨schema, report, hschema, hreport, ?_⟩
  have hrun := Schema.run?_eq_messageFor? hschema hd hreport
  rw [hname, hvalue, run?_of_key htype hcond hrules hne hclean hpasses host] at hrun
  exact (Except.ok.inj hrun).symm

/-- **A task's number that was filled in from a link is valid.**  What is found in a text is no
empty text, cleaning leaves it as it is, and it passes the test for numbers.  In every text that
passes the test for links something is found; and when such a link is entered in the task form, into
whatever answers, and these are sanitized, nothing is said of the task's number. -/
theorem taskNumber_filled_in (url : String) :
    (∀ key, (Value.text url).ticketKey? = some key →
      key ≠ "" ∧ Cleaning.text? (.text key) = .ok key ∧
        ∀ answers, RuleTest.passes? (.text key) answers .ticketKey = .ok true) ∧
    ∀ answers, RuleTest.passes? (.text url) answers .ticketLink = .ok true →
      (∃ key, (Value.text url).ticketKey? = some key) ∧
      ∀ values, ∃ changed,
        changeAnswer? values "jiraLink" (.text url) BuiltIn.taskHooks = .ok changed ∧
          ∀ host s, sanitize host BuiltIn.taskForm.fields changed = .ok s →
            ∃ schema report, Schema.compile BuiltIn.taskForm.fields = .ok schema ∧
              schema.check? host s = .ok report ∧ report.messageFor? "taskNumber" = none := by
  refine ⟨fun key hkey => ?_, fun answers hlink => ?_⟩
  · obtain ⟨hne, hclean, hpasses⟩ := cleaned_of_keyIn? hkey
    exact ⟨hne, Cleaning.text?_of_isCleanText hclean, hpasses⟩
  obtain ⟨key, hkey⟩ := exists_keyIn?_of_isLink (isLink_of_passes hlink)
  obtain ⟨hne, hclean, hpasses⟩ := cleaned_of_keyIn? hkey
  refine ⟨⟨key, hkey⟩, fun values => ?_⟩
  obtain ⟨changed, hchange, hfilled⟩ := changeAnswer?_link hkey values
  refine ⟨changed, hchange, fun host s hs => ?_⟩
  exact messageFor?_taskNumber (get_taskNumber_of_sanitize hfilled hclean hs) hne hclean
    (hpasses s) host

/-- Sanitizing the task form comes to an end if no answer has a long integer. -/
theorem exists_sanitize_taskForm (host : Host) {raw : Answers}
    (hraw : ∀ d ∈ BuiltIn.taskForm.fields, ¬ (raw.get d.name).HasLongInteger) :
    ∃ s, sanitize host BuiltIn.taskForm.fields raw = .ok s := by
  have hfallback : ∀ d ∈ BuiltIn.taskForm.fields,
      d.cleaner = none ∧ (d.fallback = .null ∨ ∃ x, d.fallback = .float x) := by
    simp [BuiltIn.taskForm, BuiltIn.taskFields, BuiltIn.half, Bound.toValue]
  have hshort : ∀ d ∈ BuiltIn.taskForm.fields, ∀ v : Value, ¬ v.HasLongInteger →
      ¬ d.Balks host v := by
    rintro d hd v hv (hlong | ⟨-, -, f, hf, -⟩)
    · exact hv hlong.hasLongInteger
    · rw [(hfallback d hd).1] at hf
      cases hf
  refine (sanitize_failsAs BuiltIn.taskForm.fields raw).returns ?_
  rintro (⟨d, hd, hbalks⟩ | ⟨cleaned, -, d, moment, hmoment, hstalls⟩)
  · exact hshort d hd _ (hraw d hd) hbalks
  · cases hstalls with
    | untold _ huntold =>
      obtain ⟨b, hb⟩ :=
        Field.exists_isShown? (isSteady_taskForm host d hmoment.mem).condition moment
      cases hb.symm.trans huntold
    | balks _ _ _ _ hbalks =>
      refine hshort d hmoment.mem _ (fun hlong => ?_) hbalks
      rcases (hfallback d hmoment.mem).2 with hnull | ⟨x, hfloat⟩
      · rw [hnull] at hlong
        cases hlong
      · rw [hfloat] at hlong
        cases hlong

/-- A link with blanks around it in which two keys stand. -/
def twoKeys : String := " https://a.net/browse/AB-1?x.atlassian.net/browse/CD-23\n"

/-- The answers once the link is entered where there was another number. -/
def afterTwoKeys : Answers :=
  .ofEntries [("taskNumber", .text "AB-1"), ("jiraLink", .text twoKeys)]

/-- The first key is filled in, and nothing is said of it. -/
theorem taskNumber_of_twoKeys :
    RuleTest.passes? (.text twoKeys) .empty .ticketLink = .ok true ∧
      changeAnswer? (.ofEntries [("taskNumber", .text "CD-23")]) "jiraLink" (.text twoKeys)
        BuiltIn.taskHooks = .ok afterTwoKeys ∧
      ∃ s schema report, sanitize Host.none BuiltIn.taskForm.fields afterTwoKeys = .ok s ∧
        Schema.compile BuiltIn.taskForm.fields = .ok schema ∧
        schema.check? Host.none s = .ok report ∧ report.messageFor? "taskNumber" = none := by
  have hlink : RuleTest.passes? (.text twoKeys) .empty .ticketLink = .ok true := by decide +kernel
  have hkey : (Value.text twoKeys).ticketKey? = some "AB-1" := by decide +kernel
  have hchange : changeAnswer? (.ofEntries [("taskNumber", .text "CD-23")]) "jiraLink"
      (.text twoKeys) BuiltIn.taskHooks = .ok afterTwoKeys := by
    have hwrites : changeWrites taskFillers "jiraLink" (.text twoKeys) =
        [("jiraLink", .text twoKeys), ("taskNumber", .text "AB-1")] := by
      simp [changeWrites, taskFillers, Filler.writes, Filler.ticket, Filler.count, hkey]
    rw [changeAnswer?_of_follows follows_taskHooks, hwrites]
    rfl
  obtain ⟨s, hs⟩ : ∃ s, sanitize Host.none BuiltIn.taskForm.fields afterTwoKeys = .ok s := by
    refine exists_sanitize_taskForm Host.none fun d _ => ?_
    intro hlong
    have hread : afterTwoKeys.get d.name = (Answers.lookup d.name
        [("taskNumber", .text "AB-1"), ("jiraLink", .text twoKeys)]).getD .null := rfl
    rw [hread, Answers.lookup, Answers.lookup, Answers.lookup] at hlong
    split at hlong
    · cases hlong
    · split at hlong
      · cases hlong
      · cases hlong
  obtain ⟨changed, hchanged, hrest⟩ := ((taskNumber_filled_in twoKeys).2 .empty hlink).2
    (.ofEntries [("taskNumber", .text "CD-23")])
  obtain rfl : changed = afterTwoKeys := Except.ok.inj (hchanged.symm.trans hchange)
  obtain ⟨schema, report, hschema, hreport, hnone⟩ := hrest Host.none s hs
  exact ⟨hlink, hchange, s, schema, report, hs, hschema, hreport, hnone⟩

end Intake
