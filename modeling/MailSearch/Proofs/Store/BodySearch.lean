import MailSearch.Proofs.Query.BodyText
import MailSearch.Proofs.Store.FullText

/-!
# Body searches in accounts

The index of an account keeps the text of a body from the time when the message
was added, and a projection makes the text of a body when it is shown.  Both
choose and convert the same body, so a body search finds a term exactly if the
text that is shown contains it in lower case, and nothing else of the message
matters.
-/

namespace MailSearch
namespace Store

/-- After any history, a body search looks into the body that is shown of the
message. -/
theorem Account.evaluate_body_decides
    (owner : String)
    (history : History)
    (settings : Query.Settings)
    {message : Message}
    (stored : message ∈ (ofHistory owner history).messages.values)
    {shown : Option String}
    (shows : message.body.Shows shown)
    (mailboxes : IdSet)
    (term : String) :
    Query.Decides
      (Query.Filter.evaluate ((ofHistory owner history).engine settings).index
          ⟨message, mailboxes⟩
        (.condition [.body term]))
      (Text.lower term.toList <:+: Text.lower (shown.getD "").toList) := by
  have records := records_ofHistory owner history
  obtain ⟨attachmentText, filed⟩ := records.mem_messages_iff.mp stored
  obtain ⟨found, evaluated, truth⟩ :=
    Query.Filter.evaluate_decides history.contains
    ⟨message, mailboxes⟩ (.condition [.body term])
  rw [records.index_eq settings]
  obtain ⟨made, isMade, indexed⟩ := History.exists_indexed filed
  obtain ⟨body, isBody, rfl⟩ := Option.map_eq_some_iff.mp isMade
  rw [Query.IndexedText.bodyOf_eq,
    Query.Projection.textBody_eq_some_iff.mpr shows] at isBody
  cases isBody
  refine ⟨found, evaluated, ?_⟩
  rw [truth, Query.Filter.selects_single, Query.isTrue_body_iff indexed,
    Text.occursIn_iff]

/--
After any history, a body search finds a stored message exactly if the text of
the body that is shown of it, in lower case, contains the term in lower case;
where nothing is shown, the text is empty.  Another stored message with the same
body is found just the same, whatever its fields, its file names and the text of
its attachments.
-/
theorem body_search_finds_what_is_shown
    (owner : String)
    (history : History)
    (settings : Query.Settings)
    {message : Message}
    (stored : message ∈ (Account.ofHistory owner history).messages.values)
    (mailboxes : IdSet)
    (limit : Nat)
    (term : String) :
    ∃ filter found,
      Query.Filter.ofJson limit (Query.bodyFilter term) = .ok filter ∧
      filter.evaluate ((Account.ofHistory owner history).engine settings).index
        ⟨message, mailboxes⟩ = .ok found ∧
      (∃ shown, message.body.Shows shown ∧
        (∀ selection : Query.Selection, selection.contains .textBody = true →
          ∀ previewLength, ∃ members,
            Query.project ⟨message, mailboxes⟩ selection previewLength =
              some members ∧
            members.get? "textBody" = some (Json.optional .str shown)) ∧
        (found = true ↔
          Text.lower term.toList <:+: Text.lower (shown.getD "").toList)) ∧
      ∀ otherOwner otherHistory, ∀ other ∈
        (Account.ofHistory otherOwner otherHistory).messages.values,
          other.body = message.body → ∀ otherMailboxes,
            filter.evaluate ((Account.ofHistory otherOwner otherHistory).engine
                settings).index
              ⟨other, otherMailboxes⟩ = .ok found := by
  have records := Account.records_ofHistory owner history
  obtain ⟨shown, shows⟩ :=
    Query.exists_shows (records.mem_messages_iff.mp stored).readable
  obtain ⟨found, evaluated, truth⟩ :=
    Account.evaluate_body_decides owner history settings stored shows
      mailboxes term
  refine ⟨_, found, Query.Filter.ofJson_bodyFilter limit term, evaluated,
    ⟨shown, shows, ?_, truth⟩, ?_⟩
  · intro selection selected previewLength
    exact Query.exists_project_textBody shows selected previewLength
  · intro otherOwner otherHistory other otherStored sameBody otherMailboxes
    rw [← sameBody] at shows
    obtain ⟨otherFound, otherEvaluated, otherTruth⟩ :=
      Account.evaluate_body_decides otherOwner otherHistory settings
          otherStored shows
        otherMailboxes term
    rw [otherEvaluated, Bool.eq_iff_iff.mpr (otherTruth.trans truth.symm)]

/-! ## A body of HTML alone -/

namespace Cartoon

/-- A message of HTML with two names, with a subject and an attachment. -/
def message : Message :=
  { Message.bare "m1" ["inbox"] 10 with
      headers := [("Subject", "Cartoon")]
      body := ⟨none, some "<p>Tom &amp; <b>Jerry</b></p>"⟩ }

/-- The message is the only one. -/
def history : History :=
  [.addMessage message ["cartoon"]]

/-- The collaborator that searches the account. -/
def index : Query.Predicate.Index :=
  ((Account.ofHistory "alice" history).engine .standard).index

/-- The message with the mailbox that holds it. -/
def candidate : Query.Candidate :=
  ⟨message, .ofList ["inbox"]⟩

/-- The names are found across the markup, and neither the markup nor the
subject is. -/
theorem names_found_across_markup :
    Query.Filter.evaluate index candidate (.condition [.body "TOM & Jerry"]) =
        .ok true ∧
      Query.Filter.evaluate index candidate (.condition [.body "<b>"]) =
        .ok false ∧
      Query.Filter.evaluate index candidate (.condition [.body "cartoon"]) =
        .ok false := by
  have converted : Html.plainText "<p>Tom &amp; <b>Jerry</b></p>" =
      some "Tom & Jerry" := by
    decide +kernel
  have readable : message.body.IsReadable :=
    Option.isSome_of_eq_some (congrArg (Option.map some) converted)
  have stored :
      message ∈ (Account.ofHistory "alice" history).messages.values := by
    refine (Account.records_ofHistory "alice" history).mem_messages_iff.mpr
      ⟨["cartoon"], ?_⟩
    rw [History.filed?, history, List.findSome?_singleton]
    exact if_pos ⟨rfl, readable⟩
  have decides : ∀ term, ∃ found,
      Query.Filter.evaluate index candidate (.condition [.body term]) =
          .ok found ∧
        (found = true ↔ Text.occursIn (Text.lower term.toList)
          (Text.lower "Tom & Jerry".toList) = true) := by
    intro term
    obtain ⟨filter, found, decoded, evaluated, ⟨shown, shows, -, truth⟩, -⟩ :=
      body_search_finds_what_is_shown "alice" history .standard stored
        (.ofList ["inbox"]) 1 term
    rw [Query.Filter.ofJson_bodyFilter] at decoded
    cases decoded
    cases shows with
    | html converts =>
        cases converted.symm.trans converts
        exact ⟨found, evaluated, truth.trans (Text.occursIn_iff _ _).symm⟩
  refine ⟨?_, ?_, ?_⟩
  all_goals
    obtain ⟨found, evaluated, truth⟩ := decides _
    rw [evaluated]
    refine congrArg Except.ok (Bool.eq_iff_iff.mpr (truth.trans ?_))
    decide +kernel

end Cartoon

end Store
end MailSearch
