import MailSearch.Proofs.Query.Redaction
import MailSearch.Proofs.Store.History

/-!
# Confidentiality

What a principal is answered depends only on the messages that lie in a readable
mailbox, and of their mailboxes only on the readable ones.  Other messages,
other mailboxes and the indexed texts of other messages have no effect.
-/

namespace MailSearch
namespace Store

namespace History

/--
What the readers of some mailboxes may know of the message under an identifier:
nothing if it lies in none of these mailboxes, else all but its other mailboxes.
-/
def visiblePart? (history : History) (visible : IdSet)
    (id : String) : Option Filed :=
  (filed? history id).bind fun filed =>
    if filed.message.mailboxIds.meets visible then
      some ⟨filed.message.within visible, filed.attachmentText⟩
    else none

section VisiblePart

variable {history : History} {visible : IdSet}

theorem visiblePart?_eq_some_iff
    {id : String}
    {part : Filed} :
    history.visiblePart? visible id = some part ↔
      ∃ message, filed? history id = some ⟨message, part.attachmentText⟩ ∧
        message.mailboxIds.meets visible = true ∧
          message.within visible = part.message := by
  rw [visiblePart?, Option.bind_eq_some_iff]
  constructor
  · rintro ⟨⟨message, attachmentText⟩, found, shown⟩
    split at shown
    · rename_i meeting
      cases shown
      exact ⟨message, found, meeting, rfl⟩
    · cases shown
  · rintro ⟨message, found, meeting, same⟩
    refine ⟨⟨message, part.attachmentText⟩, found, ?_⟩
    rw [if_pos meeting, same]

/-- What is seen of the held messages are the visible parts. -/
theorem seen_holds_iff
    {seen : Message} :
    Query.Seen visible history.Holds seen ↔
      ∃ attachmentText, history.visiblePart? visible seen.id =
        some ⟨seen, attachmentText⟩ := by
  simp only [visiblePart?_eq_some_iff]
  constructor
  · rintro ⟨message, ⟨attachmentText, found⟩, meeting, rfl⟩
    exact ⟨attachmentText, message, found, meeting, rfl⟩
  · rintro ⟨attachmentText, message, found, meeting, rfl⟩
    exact ⟨message, ⟨attachmentText, found⟩, meeting, rfl⟩

/-- The searchable text of a message belongs to its visible part. -/
theorem contains_of_visiblePart?
    {id : String}
    {part : Filed}
    (shown : history.visiblePart? visible id = some part)
    (scope : Query.TextScope)
    (term : String) :
    history.contains scope term id = part.contains scope term := by
  obtain ⟨message, found, -, same⟩ := visiblePart?_eq_some_iff.1 shown
  obtain ⟨partMessage, attachmentText⟩ := part
  subst same
  unfold contains
  rw [found]
  rfl

theorem exists_visiblePart?_of_holds
    {message : Message}
    (isHeld : history.Holds message)
    (meeting : message.mailboxIds.meets visible = true) :
    ∃ part, history.visiblePart? visible message.id = some part := by
  obtain ⟨attachmentText, found⟩ := isHeld
  exact ⟨⟨message.within visible, attachmentText⟩,
    visiblePart?_eq_some_iff.2 ⟨message, found, meeting, rfl⟩⟩

end VisiblePart

end History

/-- Two accounts show the same to a principal if the visible parts of their
histories agree. -/
theorem sameView_of_visiblePart?_eq
    {leftOwner rightOwner principal : String}
    {left right : History}
    {visible : IdSet}
    (leftVisible : (Account.ofHistory leftOwner left).visible
      principal = visible)
    (rightVisible : (Account.ofHistory rightOwner right).visible
      principal = visible)
    (sameParts : ∀ id,
      left.visiblePart? visible id = right.visiblePart? visible id)
    (settings : Query.Settings) :
    Query.SameView ((Account.ofHistory leftOwner left).engine settings)
      ((Account.ofHistory rightOwner right).engine settings) left.Holds
        right.Holds principal
      visible where
  left_visible := congrArg Except.ok leftVisible
  right_visible := congrArg Except.ok rightVisible
  left_serves := (Account.records_ofHistory leftOwner left).serves_listing
  right_serves := (Account.records_ofHistory rightOwner right).serves_listing
  seen_iff seen := by
    rw [History.seen_holds_iff, History.seen_holds_iff, sameParts]
  index_eq message isHeld meeting scope term := by
    obtain ⟨part, leftPart⟩ :=
      History.exists_visiblePart?_of_holds isHeld meeting
    have rightPart := leftPart
    rw [sameParts] at rightPart
    have leftFinds :=
      (Account.records_ofHistory leftOwner left).search_eq scope term message.id
    have rightFinds :=
      (Account.records_ofHistory rightOwner right).search_eq scope term
        message.id
    rw [History.contains_of_visiblePart? leftPart] at leftFinds
    rw [History.contains_of_visiblePart? rightPart] at rightFinds
    exact congrArg Except.ok (leftFinds.trans rightFinds.symm)
  settings_eq := rfl

/--
Hidden data has no effect.  If a principal may read the same mailboxes of two
accounts and the messages in them agree in all but their other mailboxes, then
every request of the principal is answered, or fails, in the same way on both
accounts, and the caller is told of the same steps on the way.
-/
theorem hidden_data_has_no_effect
    {leftOwner rightOwner principal : String}
    {left right : History}
    {visible : IdSet}
    (leftVisible : (Account.ofHistory leftOwner left).visible
      principal = visible)
    (rightVisible : (Account.ofHistory rightOwner right).visible
      principal = visible)
    (sameParts : ∀ id,
      left.visiblePart? visible id = right.visiblePart? visible id)
    (settings : Query.Settings) :
    (∀ value,
      ((Account.ofHistory leftOwner left).engine settings).query
          principal value =
        ((Account.ofHistory rightOwner right).engine settings).query
          principal value) ∧
    ∀ request goOn,
      ((Account.ofHistory leftOwner left).engine settings).run principal
          request goOn =
        ((Account.ofHistory rightOwner right).engine settings).run principal
          request goOn := by
  have view :=
    sameView_of_visiblePart?_eq leftVisible rightVisible sameParts settings
  exact ⟨view.query_eq, view.run_eq⟩

/-! ## Two accounts that differ in what is hidden -/

namespace Hidden

/-- A shared mailbox and a private one, with a message in both and one in the
latter. -/
def left : History :=
  [.addMailbox ⟨"inbox", "Inbox", true, ["bob"]⟩,
    .addMailbox ⟨"private", "Private", true, []⟩,
    .addMessage (.bare "m1" ["inbox", "private"] 10) ["agenda"],
    .addMessage (.bare "m2" ["private"] 20) ["secret"]]

/-- The shared mailbox and the message in it alone. -/
def right : History :=
  [.addMessage (.bare "m1" ["inbox"] 10) ["agenda"],
    .addMailbox ⟨"inbox", "Inbox", false, ["carol", "bob"]⟩]

theorem visiblePart?_eq
    (id : String) :
    left.visiblePart? (.ofList ["inbox"]) id =
      right.visiblePart? (.ofList ["inbox"]) id := by
  by_cases first : id = "m1"
  · subst first
    rfl
  · by_cases second : id = "m2"
    · subst second
      rfl
    · have leftAbsent : History.filed? left id = none := by
        simp [History.filed?, left, Change.filed?, Message.bare, Ne.symm first,
          Ne.symm second]
      have rightAbsent : History.filed? right id = none := by
        simp [History.filed?, right, Change.filed?, Message.bare, Ne.symm first]
      rw [History.visiblePart?, History.visiblePart?, leftAbsent, rightAbsent]

/-- The private mailbox, the message in it and the owner make no difference to a
guest. -/
theorem hidden_mailbox_has_no_effect :
    (Account.ofHistory "alice" left).visible "bob" = .ofList ["inbox"] ∧
      (Account.ofHistory "dave" right).visible "bob" = .ofList ["inbox"] ∧
      (∀ id, left.visiblePart? (.ofList ["inbox"]) id =
        right.visiblePart? (.ofList ["inbox"]) id) ∧
      (∀ value,
        ((Account.ofHistory "alice" left).engine .standard).query "bob" value =
          ((Account.ofHistory "dave" right).engine .standard).query
            "bob" value) ∧
      ∀ request goOn,
        ((Account.ofHistory "alice" left).engine .standard).run "bob"
            request goOn =
          ((Account.ofHistory "dave" right).engine .standard).run "bob" request
            goOn := by
  have leftVisible : (Account.ofHistory "alice" left).visible "bob" =
      .ofList ["inbox"] := rfl
  have rightVisible : (Account.ofHistory "dave" right).visible "bob" =
      .ofList ["inbox"] := rfl
  exact ⟨leftVisible, rightVisible, visiblePart?_eq,
    hidden_data_has_no_effect leftVisible rightVisible visiblePart?_eq
      .standard⟩

end Hidden
end Store
end MailSearch
