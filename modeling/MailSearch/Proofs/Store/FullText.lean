import MailSearch.Proofs.Query.FieldSearch
import MailSearch.Proofs.Store.History

/-!
# Full-text searches in accounts

The index of an account was built when the messages were added, and a search of
a header field or a file name reads the message itself.  Both find the same: a
full-text search is the search of any field, unless the term has line feeds.
-/

namespace MailSearch
namespace Store

/-- The index of an account looks into the text that was made of a held
message. -/
theorem History.exists_indexed
    {history : History}
    {message : Message}
    {attachmentText : List String}
    (found : history.filed? message.id = some ⟨message, attachmentText⟩) :
    ∃ text, Query.IndexedText.ofMessage message attachmentText = some text ∧
      ∀ scope term, history.contains scope term message.id =
        text.contains scope (Text.lower term.toList) := by
  obtain ⟨text, indexed⟩ := Option.isSome_iff_exists.mp
    (Filed.isSome_indexed_iff.mpr (readable_of_filed? found))
  refine ⟨text, indexed, fun scope term => ?_⟩
  rw [contains, found]
  change Option.any _ _ = _
  rw [indexed, Option.any_some]

/--
After any history, whatever a search of any field finds is found by the
full-text search, and for a term without line feeds both find the same messages.
-/
theorem full_text_search_finds_what_fields_contain
    (owner : String)
    (history : History)
    (settings : Query.Settings)
    {message : Message}
    (stored : message ∈ (Account.ofHistory owner history).messages.values)
    (mailboxes : IdSet)
    {limit : Nat}
    (deep : 0 < limit)
    (term : String) :
    ∃ text fields found foundByField,
      Query.Filter.ofJson limit (Query.textFilter term) = .ok text ∧
      Query.Filter.ofJson limit (Query.anyFieldFilter term) = .ok fields ∧
      text.evaluate ((Account.ofHistory owner history).engine settings).index
        ⟨message, mailboxes⟩ = .ok found ∧
      fields.evaluate ((Account.ofHistory owner history).engine settings).index
        ⟨message, mailboxes⟩ = .ok foundByField ∧
      (foundByField = true → found = true) ∧
      ('\n' ∉ term.toList → found = foundByField) := by
  have records := Account.records_ofHistory owner history
  have finds := records.index_eq settings
  obtain ⟨attachmentText, filed⟩ := records.mem_messages_iff.mp stored
  obtain ⟨made, isMade, indexed⟩ := History.exists_indexed filed
  obtain ⟨found, evaluated, truth⟩ :=
    Query.Filter.evaluate_decides history.contains
    ⟨message, mailboxes⟩ (.condition [.text term])
  obtain ⟨foundByField, evaluatedFields, truthFields⟩ :=
    Query.Filter.evaluate_decides
    history.contains ⟨message, mailboxes⟩ (.combination .disjunction
      ((Query.fieldSearches term).map fun predicate => .condition [predicate]))
  rw [Query.Filter.selects_single] at truth
  rw [Query.Filter.selects_anyField_iff] at truthFields
  have finds_of_field : foundByField = true → found = true := by
    intro isFound
    obtain ⟨predicate, isSearch, foundField⟩ := truthFields.mp isFound
    exact truth.mpr
      (Query.isTrue_text_of_field isMade indexed isSearch foundField)
  refine ⟨_, _, found, foundByField, Query.Filter.ofJson_textFilter limit term,
    Query.Filter.ofJson_anyFieldFilter deep term, ?_, ?_, finds_of_field,
      fun unbroken => ?_⟩
  · rw [finds]
    exact evaluated
  · rw [finds]
    exact evaluatedFields
  · refine Bool.eq_iff_iff.mpr ⟨fun isFound => ?_, finds_of_field⟩
    exact truthFields.mpr
      (Query.exists_field_of_isTrue_text isMade indexed unbroken
        (truth.mp isFound))

/-! ## A word at the end of a line -/

namespace Road

/-- A message from a sender whose name ends in a sigma, with a subject. -/
def message : Message :=
  { Message.bare "m1" ["inbox"] 10 with
    headers := [("From", "ΟΔΟΣ"), ("Subject", "Map")] }

/-- The message is the only one. -/
def history : History :=
  [.addMessage message []]

/-- The collaborator that searches the account. -/
def index : Query.Predicate.Index :=
  ((Account.ofHistory "alice" history).engine .standard).index

/-- The message with the mailbox that holds it. -/
def candidate : Query.Candidate :=
  ⟨message, .ofList ["inbox"]⟩

/--
The name is found by both searches, its end being that of a line; the name and
the subject together stand in no field.
-/
theorem full_text_search_finds_line_end :
    (∃ text fields,
        Query.Filter.ofJson 1 (Query.textFilter "οδος") = .ok text ∧
        Query.Filter.ofJson 1 (Query.anyFieldFilter "οδος") = .ok fields ∧
        text.evaluate index candidate = .ok true ∧
          fields.evaluate index candidate = .ok true) ∧
      ∃ text fields,
        Query.Filter.ofJson 1 (Query.textFilter "οδος\nmap") = .ok text ∧
        Query.Filter.ofJson 1 (Query.anyFieldFilter "οδος\nmap") = .ok fields ∧
        text.evaluate index candidate = .ok true ∧
          fields.evaluate index candidate = .ok false := by
  have stored : message ∈ (Account.ofHistory "alice" history).messages.values :=
    List.mem_singleton_self message
  constructor
  · obtain ⟨text, fields, found, foundByField, decoded, decodedFields,
        evaluated, evaluatedFields,
        -, same⟩ :=
      full_text_search_finds_what_fields_contain "alice" history
          .standard stored
        (.ofList ["inbox"]) Nat.one_pos "οδος"
    obtain rfl := same (by decide)
    rw [Query.Filter.ofJson_textFilter] at decoded
    cases decoded
    have computed : (Query.Filter.evaluate index candidate
        (.condition [.text "οδος"])).toOption = some true := by decide +kernel
    cases (congrArg Except.toOption evaluated).symm.trans computed
    exact ⟨_, fields, rfl, decodedFields, evaluated, evaluatedFields⟩
  · obtain ⟨text, fields, found, foundByField, decoded, decodedFields,
        evaluated, evaluatedFields,
        -, -⟩ :=
      full_text_search_finds_what_fields_contain "alice" history
          .standard stored
        (.ofList ["inbox"]) Nat.one_pos "οδος\nmap"
    rw [Query.Filter.ofJson_textFilter] at decoded
    rw [Query.Filter.ofJson_anyFieldFilter Nat.one_pos] at decodedFields
    cases decoded
    cases decodedFields
    have computed : (Query.Filter.evaluate index candidate
        (.condition [.text "οδος\nmap"])).toOption = some true := by
          decide +kernel
    have computedFields : (Query.Filter.evaluate index candidate
        (.combination .disjunction ((Query.fieldSearches "οδος\nmap").map
            fun predicate =>
          .condition [predicate]))).toOption = some false := by decide +kernel
    cases (congrArg Except.toOption evaluated).symm.trans computed
    cases (congrArg Except.toOption evaluatedFields).symm.trans computedFields
    exact ⟨_, _, rfl, rfl, evaluated, evaluatedFields⟩

end Road
end Store
end MailSearch
