import MailSearch.Proofs.Query.Restriction
import MailSearch.Proofs.Query.Running

/-!
# Replies

A reply is the answer for some selected candidates, unless the program breaks
down over it.  It does so only over a message on the page that the client wants
to see and that cannot be shown: one whose body has HTML that cannot be
converted, and no plain text, if the client asks for the text of the body.
Nothing else of the answer depends on what is shown.
-/

namespace MailSearch
namespace Query

/-- Some candidates can be shown as a request wants to see them, if it wants to
see any. -/
def Request.CanShow (settings : Settings) (request : Request)
    (items : List Candidate) : Prop :=
  request.fetchMessages = true → ∀ candidate ∈ items,
    (project candidate (request.properties.getD .all)
      settings.previewLength).isSome = true

section CanShow

variable {settings : Settings} {request : Request} {items part : List Candidate}

theorem Request.canShow_of_not_fetched
    (unfetched : request.fetchMessages = false) :
    request.CanShow settings items := by
  intro fetched
  rw [unfetched] at fetched
  cases fetched

/-- Messages with bodies that can be shown as text can be shown in every way. -/
theorem Request.canShow_of_readable
    (readable : ∀ candidate ∈ items, candidate.message.body.IsReadable) :
    request.CanShow settings items :=
  fun _ candidate isItem => Projection.isSome_project_iff.mpr fun _ =>
    readable candidate isItem

theorem Request.CanShow.subset
    (canShow : request.CanShow settings items)
    (isPart : part ⊆ items) :
    request.CanShow settings part :=
  fun fetched candidate isItem => canShow fetched candidate (isPart isItem)

theorem Answer.isSome_shownMessages_iff :
    (shownMessages settings request items).isSome = true ↔
      request.CanShow settings items := by
  unfold shownMessages Request.CanShow
  split
  · rename_i fetched
    rw [Option.isSome_map, Attempt.isSome_mapM_iff, forall_prop_of_true fetched]
  · rename_i unfetched
    exact iff_of_true rfl fun fetched => absurd fetched unfetched

/-- The messages are shown in the order of the candidates. -/
theorem Answer.shownMessages_eq_some_iff
    {messages : Option (List (IdMap Json))} :
    shownMessages settings request items = some messages ↔
      messages.isSome = request.fetchMessages ∧ ∀ shown, messages = some shown →
        (items.map fun candidate =>
          project candidate (request.properties.getD .all)
              settings.previewLength) =
            shown.map some := by
  unfold shownMessages
  cases request.fetchMessages with
  | false =>
      cases messages with
      | none => simp
      | some shown => simp
  | true =>
      rw [if_pos rfl, Option.map_eq_some_iff]
      cases messages with
      | none => simp
      | some shown => simp [← Attempt.mapM_eq_some_iff]

/-- Of a part that is taken in the same way of any list, the same part of the
messages is shown. -/
theorem Answer.shownMessages_part
    (take : {α : Type} -> List α -> List α)
    (commutes : ∀ {α β : Type} (next : α -> β) (items : List α),
      (take items).map next = take (items.map next))
    {messages : Option (List (IdMap Json))}
    (shown : shownMessages settings request items = some messages) :
    shownMessages settings request (take items) = some (messages.map take) := by
  rw [shownMessages_eq_some_iff] at shown ⊢
  refine ⟨(Option.isSome_map ..).trans shown.1, fun part isPart => ?_⟩
  obtain ⟨all, areAll, rfl⟩ := Option.map_eq_some_iff.mp isPart
  rw [commutes, shown.2 all areAll, commutes]

end CanShow

/-- A page has no items but those of the result. -/
theorem Page.slice_subset
    {α : Type}
    (position limit : Nat)
    (items : List α) :
    slice position limit items ⊆ items :=
  fun _ isOnPage => List.mem_of_mem_drop (List.mem_of_mem_take isOnPage)

namespace Answer

/-- The page of selected candidates that a request asks for. -/
def page (settings : Settings) (request : Request) (selected : List Candidate) :
    List Candidate :=
  Page.slice request.position (request.limit.getD settings.defaultLimit)
    ((request.sort.getD settings.order).apply selected)

/-- An answer tells what was selected for a request. -/
structure Tells
    (settings : Settings)
    (request : Request)
    (selected : List Candidate)
    (answer : Answer) : Prop where
  /-- The sort order is that of the request, or else the default. -/
  sort_eq : answer.sort = request.sort.getD settings.order
  /-- The wish for threads is repeated. -/
  collapseThreads_eq : answer.collapseThreads = request.collapseThreads
  /-- The position is repeated. -/
  position_eq : answer.position = request.position
  /-- The total counts what was selected. -/
  total_eq : answer.total = selected.length
  /-- The identifiers are those of the page. -/
  messageIds_eq :
    answer.messageIds = (page settings request selected).map Candidate.id
  /-- The messages are those of the page, as the request wants to see them. -/
  messages_eq :
      shownMessages settings request (page settings request selected) =
    some answer.messages

section Selected

variable {settings : Settings} {request : Request} {selected : List Candidate}
  {answer : Answer}

theorem page_subset
    (settings : Settings)
    (request : Request)
    (selected : List Candidate) :
    page settings request selected ⊆ selected := by
  intro candidate isOnPage
  exact (List.mergeSort_perm selected _).mem_iff.mp
    (Page.slice_subset _ _ _ isOnPage)

/-- The answer for selected candidates, if there is one, is the only one that
tells of them. -/
theorem ofSelected_eq_some_iff :
    ofSelected settings request selected = some answer ↔
      answer.Tells settings request selected := by
  constructor
  · intro replied
    obtain ⟨messages, shown, rfl⟩ := Option.map_eq_some_iff.mp replied
    exact ⟨rfl, rfl, rfl, rfl, rfl, shown⟩
  · rintro ⟨sort, collapseThreads, position, total, messageIds, messages⟩
    obtain ⟨_, _, _, _, _, _⟩ := answer
    subst sort collapseThreads position total messageIds
    exact Option.map_eq_some_iff.mpr ⟨_, messages, rfl⟩

/-- There is an answer for selected candidates if those on the page can be
shown. -/
theorem isSome_ofSelected_iff :
    (ofSelected settings request selected).isSome = true ↔
      request.CanShow settings (page settings request selected) := by
  rw [← isSome_shownMessages_iff, ofSelected, Option.isSome_map]
  rfl

/-- There is an answer if all candidates that were selected can be shown. -/
theorem exists_ofSelected
    (canShow : request.CanShow settings selected) :
    ∃ answer, ofSelected settings request selected = some answer :=
  Option.isSome_iff_exists.mp
    (isSome_ofSelected_iff.mpr
      (canShow.subset (page_subset settings request selected)))

/-- If nothing was selected, there is an answer. -/
theorem exists_ofSelected_nil
    (settings : Settings)
    (request : Request) :
    ∃ answer, ofSelected settings request [] = some answer :=
  exists_ofSelected fun _ => List.forall_mem_nil _

end Selected

end Answer

/-! ## Engines with readable messages -/

/-- An engine lists only messages whose bodies can be shown as text. -/
def Engine.IsReadable (engine : Engine) : Prop :=
  ∀ mailboxes messages, engine.listing mailboxes = .ok messages →
    ∀ message ∈ messages, message.body.IsReadable

namespace Engine

variable {engine : Engine} {principal : String} {request : Request}
  {reply : Attempt Answer}

/-- The candidates that are found are listed messages. -/
theorem readable_of_candidates
    (readable : engine.IsReadable)
    {candidates : List Candidate}
    (found : engine.candidates principal request.filter = .ok candidates) :
    ∀ candidate ∈ candidates, candidate.message.body.IsReadable := by
  obtain ⟨visible, sees, -⟩ := Outcome.exists_of_bind_eq_ok found
  cases needed : (request.lookup visible).isEmpty with
  | true =>
      rw [candidates_of_isEmpty_lookup sees needed] at found
      cases found
      exact List.forall_mem_nil _
  | false =>
      rw [candidates_of_lookup sees needed] at found
      obtain ⟨messages, lists, rfl⟩ := Outcome.exists_of_map_eq_ok found
      intro candidate isCandidate
      have first := Candidate.mem_ofListing_iff.mp isCandidate
      exact readable _ messages lists _ (Candidate.first?_eq_some first).2.1

/-- A run that comes to its end replies for candidates that it found. -/
theorem exists_selected_of_run
    {goOn : Nat -> Nat -> Bool}
    (ended : (engine.run principal request goOn).outcome = .ok reply) :
    ∃ candidates selected,
        engine.candidates principal request.filter = .ok candidates ∧
      selected ⊆ candidates ∧
        reply = Answer.ofSelected engine.settings request selected := by
  cases found : engine.candidates principal request.filter with
  | error error =>
      rw [run_of_candidates_error found] at ended
      cases ended
  | ok candidates =>
      rw [run_of_candidates found] at ended
      obtain ⟨kept, examined, rfl⟩ := Outcome.exists_of_map_eq_ok ended
      exact ⟨candidates, kept, rfl, examine_subset examined, rfl⟩

/-- The program does not break down over a request that does not want to see
messages. -/
theorem exists_answer_of_not_fetched
    (unfetched : request.fetchMessages = false)
    {goOn : Nat -> Nat -> Bool}
    (ended : (engine.run principal request goOn).outcome = .ok reply) :
    ∃ answer, reply = some answer := by
  obtain ⟨candidates, selected, -, -, rfl⟩ := exists_selected_of_run ended
  exact Answer.exists_ofSelected (Request.canShow_of_not_fetched unfetched)

/-- The program does not break down over messages that can all be shown as
text. -/
theorem exists_answer_of_readable
    (readable : engine.IsReadable)
    {goOn : Nat -> Nat -> Bool}
    (ended : (engine.run principal request goOn).outcome = .ok reply) :
    ∃ answer, reply = some answer := by
  obtain ⟨candidates, selected, found, isPart, rfl⟩ :=
    exists_selected_of_run ended
  have each := readable_of_candidates readable found
  exact Answer.exists_ofSelected
    (Request.canShow_of_readable fun candidate isSelected =>
      each candidate (isPart isSelected))

end Engine

end Query
end MailSearch
