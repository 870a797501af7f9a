import MailSearch.Proofs.Mail.Keyword
import MailSearch.Proofs.Query.Conditions
import MailSearch.Proofs.Query.Restriction

/-!
# Flags

The state of a message can be asked for in three ways: by the filter that bears
its name, by the property of the same name, and by the filters for the keyword
behind it. The first two search all keywords of the message, the last ends at
the first keyword not before the wanted one; where keywords ascend, all of them
give the same answer.
-/

namespace MailSearch
namespace Query

section Keywords

variable (index : Predicate.Index) (limit : Nat) (candidate : Candidate)

/-- The filters for a keyword, which select every candidate if the keyword is
transient. -/
theorem answers_keyword
    (keyword : Keyword) :
    Answers index limit candidate (.obj [("hasKeyword", .str keyword.name)])
        (keyword.isTransient || candidate.message.keywords.has keyword) ∧
      Answers index limit candidate (.obj [("notKeyword", .str keyword.name)])
        (keyword.isTransient || !candidate.message.keywords.has keyword) := by
  have has :
      Answers index limit candidate (.obj [("hasKeyword", .str keyword.name)])
      ((Predicate.hasKeyword keyword).holds candidate) :=
    answers_single rfl (.keyword keyword) rfl rfl index limit candidate
  have hasNot :
      Answers index limit candidate (.obj [("notKeyword", .str keyword.name)])
      ((Predicate.notKeyword keyword).holds candidate) :=
    answers_single rfl (.keyword keyword) rfl rfl index limit candidate
  exact ⟨has, hasNot⟩

/-- Both filters for a transient keyword select every candidate. -/
theorem answers_transient
    {name known : String}
    (isTransient : known ∈ Keyword.transient)
    (same : Text.sameAscii name known = true) :
    Answers index limit candidate (.obj [("hasKeyword", .str name)]) true ∧
      Answers index limit candidate (.obj [("notKeyword", .str name)])
        true := by
  have allNames : ∀ name ∈ Keyword.transient, Keyword.isName name = true := by
    decide +kernel
  obtain ⟨keyword, rfl⟩ :=
    Keyword.exists_name_eq (allNames known isTransient) same
  have passed : keyword.isTransient = true := by
    rw [Keyword.isTransient_eq_any same]
    exact List.any_eq_true.mpr ⟨known, isTransient, Text.sameAscii_self known⟩
  have answers := answers_keyword index limit candidate keyword
  rwa [passed, Bool.true_or, Bool.true_or] at answers

end Keywords

namespace Flag

/-- The property that shows a state. -/
def property : Flag -> Property
  | .unread => .isUnread
  | .flagged => .isFlagged
  | .answered => .isAnswered
  | .draft => .isDraft
  | .forwarded => .isForwarded

/-- Whether it is the messages with the keyword that are in the state. -/
def marked : Flag -> Bool
  | .unread => false
  | _ => true

/-- The property of the filter for the messages whose keyword says that they are
in a state. -/
def keywordProperty (flag : Flag) (wanted : Bool) : String :=
  if wanted = flag.marked then "hasKeyword" else "notKeyword"

variable {flag : Flag}

theorem lookup_property :
    shapes.lookup flag.property.name = some (.boolean (.flag flag)) := by
  cases flag <;> rfl

theorem property_ne_headers :
    flag.property ≠ .headers := by
  cases flag <;> exact nofun

theorem value_property
    (candidate : Candidate)
    (previewLength : Nat) :
    Projection.value candidate previewLength flag.property =
      some (.bool (flag.isSet candidate.message.keywords)) := by
  cases flag <;> rfl

/-- A message is in a state if it has the keyword, or, for the one state, if it
has not. -/
theorem isSet_eq
    (keywords : KeywordSet) :
    flag.isSet keywords = (keywords.contains flag.keyword == flag.marked) := by
  cases flag <;> simp [isSet, marked]

theorem isName_keyword :
    Keyword.isName flag.keyword = true := by
  cases flag <;> decide +kernel

theorem isTransient_eq_false
    {keyword : Keyword}
    (same : Text.sameAscii keyword.name flag.keyword = true) :
    keyword.isTransient = false := by
  rw [Keyword.isTransient_eq_any same]
  cases flag <;> decide +kernel

/-- All tests for a state of a candidate give one answer. -/
structure Agrees (index : Predicate.Index) (limit : Nat) (candidate : Candidate)
    (flag : Flag)
    (wanted found : Bool) : Prop where
  /-- The filter with the name of the state gives the answer. -/
  filter : Answers index limit candidate
    (.obj [(flag.property.name, .bool wanted)]) found
  /--
  Where the property of the same name is shown, and the body only if it can be,
  the property has the wanted value if the filter selects.
  -/
  shown {selection : Selection}
    (selected : selection.contains flag.property = true)
    (canShow : selection.contains .preview = true ∨
      selection.contains .textBody = true → candidate.message.body.IsReadable)
    (previewLength : Nat) :
    ∃ members, project candidate selection previewLength = some members ∧
      (found = true ↔
        members.get? flag.property.name = some (.bool wanted))
  /-- So does the filter for the keyword, in any letter case. -/
  keyword {name : String} (same : Text.sameAscii name flag.keyword = true) :
    Answers index limit candidate
      (.obj [(flag.keywordProperty wanted, .str name)]) found
  /-- The contrary filter for the keyword gives the contrary answer. -/
  contrary {name : String} (same : Text.sameAscii name flag.keyword = true) :
    Answers index limit candidate
      (.obj [(flag.keywordProperty (!wanted), .str name)]) (!found)

section Agreement

variable {candidate : Candidate}
  (ascending : candidate.message.keywords.Ascending) (index : Predicate.Index)
  (limit : Nat)

include ascending

/-- The filter for the keyword behind a state selects the messages with the
wanted state. -/
theorem answers_keywordProperty
    {name : String}
    (same : Text.sameAscii name flag.keyword = true)
    (wanted : Bool) :
    Answers index limit candidate
        (.obj [(flag.keywordProperty wanted, .str name)])
      (flag.isSet candidate.message.keywords == wanted) := by
  obtain ⟨keyword, rfl⟩ := Keyword.exists_name_eq flag.isName_keyword same
  obtain ⟨has, hasNot⟩ := answers_keyword index limit candidate keyword
  rw [isTransient_eq_false same, Bool.false_or,
    ← KeywordSet.contains_eq_has ascending same] at has hasNot
  rw [keywordProperty, isSet_eq]
  cases wanted <;> cases flag.marked <;> simpa using ‹_›

theorem agrees
    (flag : Flag)
    (wanted : Bool) :
    Agrees index limit candidate flag wanted
      (flag.isSet candidate.message.keywords == wanted) where
  filter := answers_single lookup_property (.boolean wanted) rfl rfl index
    limit candidate
  shown := by
    intro selection selected canShow previewLength
    have shown : (project candidate selection previewLength).isSome =
        true :=
      Projection.isSome_project_iff.mpr canShow
    obtain ⟨members, projected⟩ := Option.isSome_iff_exists.mp shown
    refine ⟨members, projected, ?_⟩
    rw [Projection.get?_project_name projected property_ne_headers,
      if_pos selected, value_property, Option.some.injEq, Json.bool.injEq,
      beq_iff_eq]
  keyword same := answers_keywordProperty ascending index limit same wanted
  contrary same := by
    have contraryAnswer : (!(flag.isSet candidate.message.keywords == wanted)) =
        (flag.isSet candidate.message.keywords == !wanted) := by
      cases flag.isSet candidate.message.keywords <;> cases wanted <;> rfl
    rw [contraryAnswer]
    exact answers_keywordProperty ascending index limit same (!wanted)

end Agreement

end Flag

end Query
end MailSearch
