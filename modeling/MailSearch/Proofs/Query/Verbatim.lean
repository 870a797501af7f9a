import MailSearch.Proofs.Mail.Message
import MailSearch.Proofs.Query.BodyText
import MailSearch.Proofs.Query.FieldSearch
import MailSearch.Proofs.Text.LowerPart
import MailSearch.Query.Rule

/-!
# Verbatim occurrences of terms

Filters and rules look for the lower case of a term in the lower case of a text.
Where the term stands in the text as it is, its lower case stands in that of the
text too, unless a capital sigma of the term is final in one of them only.  So
every other occurrence is found, by a search of the field, the body, the
attachments or their names, by the search of all of these, and by a rule.
-/

namespace MailSearch
namespace Query

open Text (StandsIn)

/-! ## Searches of a message -/

/-- The texts of a message with attachments, each with the condition that looks
into it. -/
inductive Searched (message : Message) (attachmentText : List String) :
    String -> String -> Prop
  where
  /-- A value of a header field that has a condition of its own. -/
  | field (field : FieldName) {value : String} (isValue : value ∈
        message.headerValues field.name) :
      Searched message attachmentText field.name value
  /-- The name of an attached file. -/
  | filename {attachment : Attachment} (isAttachment : attachment ∈
        message.attachments) :
      Searched message attachmentText "attachmentFileName" attachment.filename
  /-- The text that the body is shown with. -/
  | body {text : String} (shown : message.body.Shows (some text)) :
      Searched message attachmentText "body" text
  /-- The text of an attachment. -/
  | attachment {text : String} (isText : text ∈ attachmentText) :
      Searched message attachmentText "attachments" text

/-- The filter with one condition. -/
def searchFilter (condition term : String) : Json :=
  .obj [(condition, .str term)]

/-- The filter for a search of the header fields with a name. -/
def headerFilter (name term : String) : Json :=
  .obj [("header", .arr [.str name, .str term])]

/-- The index as a collaborator, which never fails. -/
def TextIndex.answers (texts : TextIndex) : Predicate.Index :=
  fun scope term id => .ok (texts.contains scope term id)

/-- A filter is decoded, and a candidate meets it. -/
def Finds (texts : TextIndex) (limit : Nat) (candidate : Candidate)
    (value : Json) : Prop :=
  ∃ filter, Filter.ofJson limit value = .ok filter ∧
    filter.evaluate texts.answers candidate = .ok true

/-- A filter is decoded, and a candidate does not meet it. -/
def Misses (texts : TextIndex) (limit : Nat) (candidate : Candidate)
    (value : Json) : Prop :=
  ∃ filter, Filter.ofJson limit value = .ok filter ∧
    filter.evaluate texts.answers candidate = .ok false

theorem finds_of_isTrue
    {texts : TextIndex}
    {limit : Nat}
    {candidate : Candidate}
    {value : Json}
    {predicate : Predicate}
    (decoded : Filter.ofJson limit value = .ok (.condition [predicate]))
    (holds : Filter.isTrue texts.contains candidate predicate) :
    Finds texts limit candidate value := by
  obtain ⟨found, evaluated, truth⟩ :=
    Filter.evaluate_decides texts.contains candidate (.condition [predicate])
  obtain rfl := truth.mpr (Filter.selects_single.mpr holds)
  exact ⟨_, decoded, evaluated⟩

section Searching

variable {texts : TextIndex} {message : Message} {attachmentText : List String}
  {term text : String}

theorem occursIn_of_standsIn
    (stands : StandsIn term.toList text.toList) :
    Text.occursIn (Text.lower term.toList) (Text.lower text.toList) = true :=
  (Text.occursIn_iff _ _).mpr stands.infix_lower

theorem occursFolded_of_standsIn
    (nonempty : term ≠ "")
    (stands : StandsIn term.toList text.toList) :
    Predicate.occursFolded term text = true := by
  rw [Predicate.occursFolded, if_neg nonempty]
  exact occursIn_of_standsIn stands

theorem contains_of_get?
    {indexedText : IndexedText}
    (indexed : texts.documents.get? message.id = some indexedText)
    (scope : TextScope)
    (term : String) :
    texts.contains scope term message.id =
      indexedText.contains scope (Text.lower term.toList) := by
  rw [TextIndex.contains, indexed]

/-- The condition that looks into a text finds a term that stands in it. -/
theorem Searched.exists_isTrue
    {condition : String}
    {indexedText : IndexedText}
    (made : IndexedText.ofMessage message attachmentText = some indexedText)
    (indexed : texts.documents.get? message.id = some indexedText)
    (searched : Searched message attachmentText condition text)
    (nonempty : term ≠ "")
    (stands : StandsIn term.toList text.toList)
    (mailboxes : IdSet) :
    ∃ predicate ∈ fieldSearches term,
      (∀ limit, Filter.ofJson limit (searchFilter condition term) =
        .ok (.condition [predicate])) ∧
      Filter.isTrue texts.contains ⟨message, mailboxes⟩ predicate := by
  have indexed := contains_of_get? indexed
  have others :
      ∀ predicate ∈ [.body term, .attachmentText term, .filename term],
      predicate ∈ fieldSearches term :=
    fun _ isOther => List.mem_append_right _ isOther
  have folded := occursFolded_of_standsIn nonempty stands
  cases searched with
  | field field isValue =>
      refine ⟨.field field term,
        List.mem_append_left _ (List.mem_map_of_mem ?_), fun limit => ?_,
        List.any_eq_true.mpr ⟨text, isValue, folded⟩⟩
      · cases field <;> decide
      · cases field <;> exact Filter.decode_of_no_operator rfl
  | filename isAttachment =>
      exact ⟨.filename term, others _ (by simp), fun limit =>
          Filter.decode_of_no_operator rfl,
        List.any_eq_true.mpr ⟨_, isAttachment, folded⟩⟩
  | body shown =>
      refine ⟨.body term, others _ (by simp), fun limit =>
          Filter.decode_of_no_operator rfl,
        (isTrue_body_iff indexed).mpr ?_⟩
      have isText := Projection.textBody_eq_some_iff.mpr shown
      rw [IndexedText.ofMessage, IndexedText.bodyOf_eq, isText] at made
      cases made
      exact occursIn_of_standsIn stands
  | attachment isText =>
      refine ⟨.attachmentText term, others _ (by simp),
        fun limit => Filter.decode_of_no_operator rfl, ?_⟩
      exact (isTrue_attachmentText_iff made indexed).mpr
        (occursIn_searchable_of_mem isText folded)

/-- A rule compares its value with the trimmed texts of its fields. -/
theorem Rule.isMatch_of_standsIn
    {rule : Rule}
    (searches : rule.condition.comparator = .contains)
    (framed : Text.Framed rule.condition.value.toList)
    {name : String}
    (isName : name ∈ rule.condition.field.headerNames)
    (isValue : text ∈ message.headerValues name)
    (stands : StandsIn rule.condition.value.toList text.toList) :
    rule.isMatch message = true := by
  rw [isMatch, RuleCondition.holds, searches]
  refine List.any_eq_true.mpr ⟨Text.lower (Text.trim text.toList), ?_, ?_⟩
  · refine List.mem_flatMap.mpr ⟨text,
      List.mem_flatMap.mpr ⟨name, isName, isValue⟩, ?_⟩
    exact List.mem_append_right _ (List.mem_singleton_self _)
  · exact (Text.occursIn_iff _ _).mpr (stands.trim framed).infix_lower

end Searching

/--
Wherever a term stands in a text of an indexed message with its capital sigmas
as they are, the filters that look into this text find it, and so does a rule if
no blanks surround the term.  A term without capital sigmas stands so wherever
it occurs, and any term does between neutral characters, blanks for example.
Elsewhere the lower case of the term does not stand in that of the text at the
place of the term.
-/
theorem verbatim_occurrence_found
    {texts : TextIndex}
    {message : Message}
    {attachmentText : List String}
    {indexedText : IndexedText}
    (made : IndexedText.ofMessage message attachmentText = some indexedText)
    (indexed : texts.documents.get? message.id = some indexedText)
    {term : String}
    (nonempty : term ≠ "")
    (mailboxes : IdSet)
    (limit : Nat) :
    (∀ condition text, Searched message attachmentText condition text →
      StandsIn term.toList text.toList →
        Finds texts limit ⟨message, mailboxes⟩ (searchFilter condition term) ∧
          Finds texts limit ⟨message, mailboxes⟩ (textFilter term)) ∧
    (∀ name, ∀ text ∈ message.headerValues name,
        StandsIn term.toList text.toList →
      Finds texts limit ⟨message, mailboxes⟩ (headerFilter name term)) ∧
    (∀ rule : Rule, rule.condition.comparator = .contains →
      rule.condition.value = term →
      Text.Framed term.toList → ∀ name ∈ rule.condition.field.headerNames,
        ∀ text ∈ message.headerValues name, StandsIn term.toList text.toList →
          rule.isMatch message = true) ∧
    ('Σ' ∉ term.toList → ∀ text, term.toList <:+: text →
      StandsIn term.toList text) ∧
    (∀ front back, Text.BeginsNeutral front.reverse → Text.BeginsNeutral back →
      StandsIn term.toList (front ++ term.toList ++ back)) ∧
    ∀ front back, Text.KeepsSigmas front term.toList back ↔
      Text.lowerWithin [] (term.toList ++ back) front ++
          Text.lower term.toList <+:
        Text.lower (front ++ term.toList ++ back) := by
  refine ⟨?_, ?_, ?_, fun plain text => StandsIn.of_not_mem plain, ?_,
    fun front back => Text.keepsSigmas_iff⟩
  · intro condition text searched stands
    obtain ⟨predicate, isSearch, decoded, holds⟩ :=
      searched.exists_isTrue made indexed nonempty stands mailboxes
    exact ⟨finds_of_isTrue (decoded limit) holds, finds_of_isTrue
      (Filter.ofJson_textFilter limit term)
      (isTrue_text_of_field made (contains_of_get? indexed) isSearch holds)⟩
  · intro name text isValue stands
    have folded := occursFolded_of_standsIn nonempty stands
    have decoded : Filter.ofJson limit (headerFilter name term) =
        .ok (.condition [.header name term]) :=
      Filter.decode_of_no_operator rfl
    refine finds_of_isTrue decoded (List.any_eq_true.mpr ⟨text, isValue, ?_⟩)
    rw [folded, Bool.or_true]
  · rintro rule searches rfl framed name isName text isValue stands
    exact rule.isMatch_of_standsIn searches framed isName isValue stands
  · intro front back frontNeutral backNeutral
    exact ⟨front, back, rfl,
      Text.keepsSigmas_of_neutral frontNeutral backNeutral _⟩

/-! ## Sigmas at the end of a word -/

namespace Titled

/-- A message whose subject, body and only attachment say the same. -/
def message (title : String) : Message :=
  { Message.bare "m1" ["inbox"] 10 with
      headers := [("Subject", title)]
      attachments := [⟨title, "text/plain", 4, false⟩]
      body := ⟨some title, none⟩ }

/-- The message as one of the inbox. -/
def candidate (title : String) : Candidate :=
  ⟨message title, .ofList ["inbox"]⟩

/-- The message is the only one in the index. -/
def texts (title : String) : TextIndex :=
  (TextIndex.empty.add (message title) [title]).get rfl

theorem exists_get?_texts
    (title : String) :
    ∃ text, IndexedText.ofMessage (message title) [title] = some text ∧
      (texts title).documents.get? (message title).id = some text :=
  ⟨_, rfl, rfl⟩

/-- A rule for subjects that contain a term. -/
def rule (term : String) : Rule :=
  ⟨"r1", "", ⟨.subject, .contains, term⟩, ["archive"]⟩

/-- A word that ends in a sigma is found where it is a word of the text. -/
theorem word_found :
    Finds (texts "ΟΔΟΣ ΑΘΗΝΑΣ") 1 (candidate "ΟΔΟΣ ΑΘΗΝΑΣ")
        (searchFilter "body" "ΟΔΟΣ") ∧
      Finds (texts "ΟΔΟΣ ΑΘΗΝΑΣ") 1 (candidate "ΟΔΟΣ ΑΘΗΝΑΣ")
        (textFilter "ΟΔΟΣ") ∧
      Finds (texts "ΟΔΟΣ ΑΘΗΝΑΣ") 1 (candidate "ΟΔΟΣ ΑΘΗΝΑΣ")
        (headerFilter "subject" "ΟΔΟΣ") ∧
      (rule "ΟΔΟΣ").isMatch (message "ΟΔΟΣ ΑΘΗΝΑΣ") = true := by
  have nonempty : "ΟΔΟΣ" ≠ "" := by decide
  obtain ⟨text, made, indexed⟩ := exists_get?_texts "ΟΔΟΣ ΑΘΗΝΑΣ"
  obtain ⟨inField, inHeader, byRule, -, standsBetween, -⟩ :=
    verbatim_occurrence_found made indexed nonempty (.ofList ["inbox"]) 1
  have stands : StandsIn "ΟΔΟΣ".toList "ΟΔΟΣ ΑΘΗΝΑΣ".toList := by
    have split : "ΟΔΟΣ ΑΘΗΝΑΣ".toList = [] ++ "ΟΔΟΣ".toList ++ ' ' ::
        "ΑΘΗΝΑΣ".toList := by decide
    rw [split]
    exact standsBetween [] _ nofun
      (Text.beginsNeutral_cons (Text.neutral_of_isBlank rfl) _)
  have inSubject : "ΟΔΟΣ ΑΘΗΝΑΣ" ∈
      (message "ΟΔΟΣ ΑΘΗΝΑΣ").headerValues "subject" := by decide
  have framed : Text.Framed "ΟΔΟΣ".toList := .of_solid (by decide) (by decide)
  obtain ⟨inBody, inText⟩ := inField "body" _ (.body (.text _ none)) stands
  exact ⟨inBody, inText, inHeader "subject" _ inSubject stands,
    byRule (rule "ΟΔΟΣ") rfl rfl framed "subject" (List.mem_singleton_self _)
      _ inSubject stands⟩

/-- The conditions that look into one text each. -/
def conditions : List String :=
  ["subject", "attachmentFileName", "body", "attachments"]

theorem mem_conditions_iff
    {condition : String} :
    condition ∈ conditions ↔ condition = "subject" ∨
      condition = "attachmentFileName" ∨
      condition = "body" ∨ condition = "attachments" := by
  simp [conditions]

/--
The beginning of a word is not found in the word, although it stands there: its
sigma is final by itself and not in the word.
-/
theorem beginning_of_word_lost :
    "ΑΣ".toList <:+: "ΑΣΑ".toList ∧
      "ΑΣΑ" ∈ (message "ΑΣΑ").headerValues "subject" ∧
      (∀ condition ∈ conditions,
        Searched (message "ΑΣΑ") ["ΑΣΑ"] condition "ΑΣΑ") ∧
      (∀ condition ∈ conditions, Misses (texts "ΑΣΑ") 1 (candidate "ΑΣΑ")
        (searchFilter condition "ΑΣ")) ∧
      Misses (texts "ΑΣΑ") 1 (candidate "ΑΣΑ") (textFilter "ΑΣ") ∧
      Misses (texts "ΑΣΑ") 1 (candidate "ΑΣΑ") (headerFilter "subject" "ΑΣ") ∧
      (rule "ΑΣ").isMatch (message "ΑΣΑ") = false := by
  have inSubject : "ΑΣΑ" ∈ (message "ΑΣΑ").headerValues "subject" := by decide
  have lost :
      ∀ predicate ∈ .text "ΑΣ" :: .header "subject" "ΑΣ" :: fieldSearches "ΑΣ",
      (Filter.evaluate (texts "ΑΣΑ").answers (candidate "ΑΣΑ")
          (.condition [predicate])).toOption =
        some false := by
    decide +kernel
  have misses :
      ∀ predicate ∈ .text "ΑΣ" :: .header "subject" "ΑΣ" :: fieldSearches "ΑΣ",
      ∀ value, Filter.ofJson 1 value = .ok (.condition [predicate]) →
        Misses (texts "ΑΣΑ") 1 (candidate "ΑΣΑ") value :=
    fun predicate isSearch value decoded =>
      ⟨_, decoded, Outcome.eq_ok_of_toOption (lost predicate isSearch)⟩
  refine ⟨⟨[], ['Α'], rfl⟩, inSubject, ?_, ?_, ?_, ?_, by decide +kernel⟩
  · intro condition isCondition
    rcases mem_conditions_iff.mp isCondition with rfl | rfl | rfl | rfl
    · exact .field .subject inSubject
    · exact @Searched.filename (message "ΑΣΑ") _ _ (List.mem_singleton_self _)
    · exact .body (.text _ none)
    · exact .attachment (List.mem_singleton_self _)
  · intro condition isCondition
    rcases mem_conditions_iff.mp isCondition with rfl | rfl | rfl | rfl
    · exact misses (.field .subject "ΑΣ") (by decide)
        _ (Filter.decode_of_no_operator rfl)
    · exact misses (.filename "ΑΣ") (by decide)
        _ (Filter.decode_of_no_operator rfl)
    · exact misses (.body "ΑΣ") (by decide) _ (Filter.decode_of_no_operator rfl)
    · exact misses (.attachmentText "ΑΣ") (by decide)
        _ (Filter.decode_of_no_operator rfl)
  · exact misses (.text "ΑΣ") (by decide) _ (Filter.decode_of_no_operator rfl)
  · exact misses (.header "subject" "ΑΣ") (by decide)
      _ (Filter.decode_of_no_operator rfl)

end Titled

end Query
end MailSearch
