import MailSearch.Proofs.Mail.Message
import MailSearch.Proofs.Query.Acceptance
import MailSearch.Proofs.Query.Reply

/-!
# What answers show

An answer has messages if the request wants to see them, one for each
identifier, and each is the projection that the request asks for.  Which
messages are found, and in which order, does not depend on what is shown of
them, but whether there is an answer does: the text of a body with HTML that
cannot be converted is not shown, and nothing beside it.
-/

namespace MailSearch
namespace Query

/-! ## Answers without what they show -/

/-- The request that does not say what is shown of the messages that are
found. -/
def Request.bare (request : Request) : Request :=
  { request with
    collapseThreads := false, fetchMessages := false, properties := none }

/-- The answer without the messages and the wish for threads. -/
def Answer.bare (answer : Answer) : Answer :=
  { answer with collapseThreads := false, messages := none }

/-- The members that say what is shown of the messages that are found. -/
def Request.presentation : List String :=
  ["collapseThreads", "fetchMessages", "fetchMessageProperties"]

/-- An answer shows a page of candidates as the request wants to see them. -/
structure Answer.Presents (settings : Settings) (request : Request)
    (page : List Candidate)
    (answer : Answer) : Prop where
  /-- The identifiers are those of the page. -/
  messageIds : answer.messageIds = page.map Candidate.id
  /-- The messages are there if the request wants to see them. -/
  isSome : answer.messages.isSome = request.fetchMessages
  /-- Otherwise there is no such member. -/
  member : (answer.toJson.get? "messages").isSome = request.fetchMessages
  /-- Each message is the projection of the candidate at its place. -/
  each : ∀ messages, answer.messages = some messages →
    (page.map fun candidate =>
      project candidate (request.properties.getD .all) settings.previewLength) =
        messages.map some
  /-- Each message has the identifier at its place. -/
  identified : ∀ messages, answer.messages = some messages →
    messages.map (fun message => message.get? Property.id.name) =
      answer.messageIds.map fun id => some (.str id)
  /-- The wish for threads is repeated. -/
  collapseThreads : answer.collapseThreads = request.collapseThreads

/-- A reply shows a page of candidates as the request wants to see them, if they
can be shown. -/
structure Request.RepliesWith (settings : Settings) (request : Request)
    (page : List Candidate)
    (reply : Attempt Answer) : Prop where
  /-- There is an answer if the messages on the page can be shown. -/
  isSome : reply.isSome = true ↔ request.CanShow settings page
  /-- The answer shows them. -/
  presents : ∀ answer, reply = some answer →
    answer.Presents settings request page

namespace Answer

/-- The page does not depend on what is shown. -/
theorem page_bare
    (settings : Settings)
    (request : Request)
    (selected : List Candidate) :
    page settings request.bare selected = page settings request selected := rfl

/-- Answers that tell of the same candidates differ in what they show only. -/
theorem Tells.bare_eq
    {settings : Settings}
    {request other : Request}
    {selected : List Candidate}
    {answer otherAnswer : Answer}
    (same : request.bare = other.bare)
    (tells : answer.Tells settings request selected)
    (otherTells : otherAnswer.Tells settings other selected) :
    answer.bare = otherAnswer.bare := by
  have samePage : page settings request selected =
      page settings other selected := by
    rw [← page_bare, same, page_bare]
  have sort := congrArg Request.sort same
  have position := congrArg Request.position same
  simp only [Request.bare] at sort position
  simp only [bare, tells.sort_eq, tells.position_eq, tells.total_eq,
    tells.messageIds_eq, otherTells.sort_eq, otherTells.position_eq,
    otherTells.total_eq, otherTells.messageIds_eq,
    samePage, sort, position]

/-- An answer that tells of some candidates shows a page of them. -/
theorem Tells.presents
    {settings : Settings}
    {request : Request}
    {selected : List Candidate}
    {answer : Answer}
    (contains : (request.properties.getD .all).contains .id = true)
    (tells : answer.Tells settings request selected) :
    answer.Presents settings request (page settings request selected) := by
  obtain ⟨isSome, each⟩ := shownMessages_eq_some_iff.mp tells.messages_eq
  refine ⟨tells.messageIds_eq, isSome, ?_, each, fun messages shown => ?_,
    tells.collapseThreads_eq⟩
  · rw [← isSome, toJson]
    cases answer.messages <;> rfl
  · have identified : ∀ message ∈ messages, ∀ candidate : Candidate,
        project candidate (request.properties.getD .all)
            settings.previewLength = some message →
          message.get? Property.id.name = some (.str candidate.id) :=
      fun _ _ _ projected => Projection.get?_project_id projected contains
    rw [tells.messageIds_eq, List.map_map]
    exact Attempt.map_eq_map_of_map_eq_some identified (each messages shown)

/-- The reply for some selected candidates shows a page of them. -/
theorem repliesWith_ofSelected
    {settings : Settings}
    {request : Request}
    (contains : (request.properties.getD .all).contains .id = true)
    (selected : List Candidate) :
    request.RepliesWith settings (page settings request selected)
      (ofSelected settings request selected) where
  isSome := isSome_ofSelected_iff
  presents _ replied := (ofSelected_eq_some_iff.mp replied).presents contains

end Answer

/-- What is found does not depend on what is shown of it. -/
theorem Engine.exists_run_eq_map
    (engine : Engine)
    (principal : String)
    (request : Request)
    (goOn : Nat -> Nat -> Bool) :
    ∃ found : Run (List Candidate), ∀ other : Request,
        other.bare = request.bare →
      engine.run principal other goOn =
        found.map (Answer.ofSelected engine.settings other) := by
  have sameFilter : ∀ other : Request,
      other.bare = request.bare → other.filter = request.filter := by
    intro other same
    have sameBare := congrArg Request.filter same
    exact sameBare
  cases found : engine.candidates principal request.filter with
  | error error =>
      refine ⟨.failed error, fun other same => ?_⟩
      rw [← sameFilter other same] at found
      exact run_of_candidates_error found goOn
  | ok candidates =>
      refine ⟨examine (fun candidate =>
          Filter.evaluate? engine.index candidate request.filter) goOn
        candidates.length 0 candidates, fun other same => ?_⟩
      rw [← sameFilter other same] at found ⊢
      exact run_of_candidates found goOn

namespace Request

/-- A given value is decoded as one thing. -/
theorem rel_ok_unique
    {α : Type}
    {decode : Json -> Json.Decoded α}
    {given : Option Json}
    {left right : Option α}
    (isLeft : Option.Rel
      (fun value meaning => decode value = .ok meaning) given left)
    (isRight : Option.Rel
      (fun value meaning => decode value = .ok meaning) given right) :
    left = right := by
  cases isLeft with
  | none =>
      cases isRight
      rfl
  | some decoded =>
      cases isRight with
      | some decodedRight =>
          exact congrArg some (Except.ok.inj (decoded.symm.trans decodedRight))

/-- An accepted request shows the identifier. -/
theorem contains_id
    {settings : Settings}
    {members : List (String × Json)}
    {request : Request}
    (accepted : ofJson settings (.obj members) = .ok request) :
    (request.properties.getD .all).contains .id = true := by
  have bounded := (ofJson_eq_ok_iff_denotes.mp accepted).bounded
  cases given : request.properties with
  | none => rfl
  | some selection => exact bounded.contains_id selection given

/-- Members that differ in what is shown only are the same request but for
that. -/
theorem bare_eq_of_agree
    {settings : Settings}
    {members others : List (String × Json)}
    {request other : Request}
    (accepted : ofJson settings (.obj members) = .ok request)
    (acceptedOther : ofJson settings (.obj others) = .ok other)
    (agree : ∀ name, name ∉ presentation →
      Json.last? name members = Json.last? name others) :
    request.bare = other.bare := by
  obtain ⟨found, read, makes⟩ := ofJson_eq_ok_iff_makes.mp accepted
  obtain ⟨foundOther, readOther, makesOther⟩ :=
    ofJson_eq_ok_iff_makes.mp acceptedOther
  have same : ∀ slot : Slot, slot.name ∉ presentation →
      found.get slot = foundOther.get slot := by
    intro slot apart
    have given := (Members.record_eq_ok_iff.mp read).2 slot
    have givenOther := (Members.record_eq_ok_iff.mp readOther).2 slot
    rw [← agree slot.name apart] at givenOther
    exact rel_ok_unique given givenOther
  have makesBoth : ∀ slot : Slot, slot.name ∉ presentation →
      slot.Makes settings request (found.get slot) ∧
        slot.Makes settings other (found.get slot) := by
    intro slot apart
    refine ⟨makes slot, ?_⟩
    rw [same slot apart]
    exact makesOther slot
  have accountId : request.accountId = other.accountId := by
    obtain ⟨left, right⟩ := makesBoth .accountId (by decide)
    exact left.symm.trans right
  have filter : request.filter = other.filter := by
    obtain ⟨left, right⟩ := makesBoth .filter (by decide)
    exact Except.ok.inj (left.symm.trans right)
  have sort : request.sort = other.sort := by
    obtain ⟨left, right⟩ := makesBoth .sort (by decide)
    exact Except.ok.inj (left.symm.trans right)
  have position : request.position = other.position := by
    obtain ⟨left, right⟩ := makesBoth .position (by decide)
    exact Except.ok.inj (left.symm.trans right)
  have limit : request.limit = other.limit := by
    obtain ⟨left, right⟩ := makesBoth .limit (by decide)
    exact Except.ok.inj (left.symm.trans right)
  simp only [bare, accountId, filter, sort, position, limit]

end Request

/--
A projection of named properties is the restriction of all that can be shown of
a candidate, and so of the whole projection, with the first field of each name
among the header fields; names that are alike are the same selection.  The whole
projection can be made if the body can be shown as text, and one of named
properties if it can, or if they do not ask for that text.  Requests that differ
in what is shown only find the same in the same steps, and their replies are
about the same page of candidates, which each answer shows as its request wants
it.
-/
theorem named_properties_restrict
    {names : List String}
    {selection : Selection}
    (read : Selection.parse (some names) = .ok selection) :
    (∀ candidate previewLength,
      ((project candidate .all previewLength).isSome = true ↔
        candidate.message.body.IsReadable) ∧
      ((project candidate selection previewLength).isSome = true ↔
        (Selection.Asks names .preview ∨ Selection.Asks names .textBody →
          candidate.message.body.IsReadable)) ∧
      ∃ fields, Projection.FirstFields candidate.message fields ∧
        (∀ full, project candidate .all previewLength = some full →
          Projection.ShowsAll candidate previewLength fields full) ∧
        ∀ narrow, project candidate selection previewLength = some narrow →
          Projection.Restricts names fields
            (Projection.value candidate previewLength) narrow ∧
          ∀ full, project candidate .all previewLength = some full →
            Projection.Restricts names fields
                (fun property => full.get? property.name)
              narrow) ∧
    (∀ others, (∀ name ∈ names, ∃ other ∈ others, Selection.Alike name other) →
      (∀ other ∈ others, ∃ name ∈ names, Selection.Alike name other) →
        Selection.parse (some others) = .ok selection) ∧
    ∀ (engine : Engine) members others request other,
      Request.ofJson engine.settings (.obj members) = .ok request →
      Request.ofJson engine.settings (.obj others) = .ok other →
      (∀ name, name ∉ Request.presentation →
        Json.last? name members = Json.last? name others) →
      ∀ principal goOn,
        (engine.run principal request goOn).steps =
          (engine.run principal other goOn).steps ∧
        (∀ error, (engine.run principal request goOn).outcome = .error error ↔
          (engine.run principal other goOn).outcome = .error error) ∧
        ∀ reply otherReply,
          (engine.run principal request goOn).outcome = .ok reply →
          (engine.run principal other goOn).outcome = .ok otherReply →
          (∃ page, request.RepliesWith engine.settings page reply ∧
            other.RepliesWith engine.settings page otherReply) ∧
          ∀ answer otherAnswer, reply = some answer →
            otherReply = some otherAnswer →
            answer.bare = otherAnswer.bare := by
  refine ⟨fun candidate previewLength => ?_, fun others =>
    Selection.parse_of_alike read, ?_⟩
  · refine ⟨?_, Projection.isSome_project_of_parse_iff read, _,
      Projection.firstFields candidate.message, fun full => Projection.showsAll,
      fun narrow projected =>
        ⟨Projection.restricts_of_parse read projected, ?_⟩⟩
    · rw [Projection.isSome_project_iff]
      exact forall_prop_of_true (.inl (Selection.contains_all _))
    · intro full projectedFull
      rw [← Projection.value_eq_of_project_all projectedFull]
      exact Projection.restricts_of_parse read projected
  · intro engine members others request other accepted acceptedOther agree
      principal goOn
    have same := Request.bare_eq_of_agree accepted acceptedOther agree
    obtain ⟨found, run⟩ := engine.exists_run_eq_map principal request goOn
    rw [run request rfl, run other same.symm]
    refine ⟨rfl, fun error => ?_,
      fun reply otherReply replied otherReplied => ?_⟩
    · exact Outcome.map_eq_error_iff.trans Outcome.map_eq_error_iff.symm
    · obtain ⟨selected, isSelected, rfl⟩ := Outcome.exists_of_map_eq_ok replied
      obtain ⟨_, isOther, rfl⟩ := Outcome.exists_of_map_eq_ok otherReplied
      cases isSelected.symm.trans isOther
      constructor
      · have samePage : Answer.page engine.settings other selected =
            Answer.page engine.settings request selected := by
          rw [← Answer.page_bare, ← same, Answer.page_bare]
        refine ⟨_, Answer.repliesWith_ofSelected (Request.contains_id accepted)
          selected, ?_⟩
        rw [← samePage]
        exact Answer.repliesWith_ofSelected
          (Request.contains_id acceptedOther) selected
      · intro answer otherAnswer isAnswer isOtherAnswer
        exact (Answer.ofSelected_eq_some_iff.mp isAnswer).bare_eq same
          (Answer.ofSelected_eq_some_iff.mp isOtherAnswer)

/-! ## A message with a repeated header field -/

namespace Tagged

/-- A message that has two tags, in different letter case. -/
def candidate : Candidate :=
  ⟨{ Message.bare "m1" ["inbox"] 10 with
      headers := [("X-Tag", "one"), ("Subject", "Map"), ("x-tag", "two")] },
        .ofList ["inbox"]⟩

/-- In any spelling and order, the names ask for the first tag and nothing
else. -/
theorem first_tag_shown :
    ∃ selection,
        Selection.parse (some ["headers.X-TAG", "body"]) = .ok selection ∧
      Selection.parse (some ["textBody", "headers.x-tag", "body"]) =
        .ok selection ∧
      ∃ full narrow, project candidate .all 5 = some full ∧
        project candidate selection 5 = some narrow ∧
        narrow.get? "headers" = some (.obj [("X-Tag", .str "one")]) ∧
        narrow.get? "subject" = none ∧
          full.get? "subject" = some (.str "Map") := by
  have read : Selection.parse (some ["headers.X-TAG", "body"]) =
      .ok (.ofWishes [.header "x-tag", .property .textBody]) := rfl
  obtain ⟨restricts, alike, -⟩ := named_properties_restrict read
  obtain ⟨canShowAll, canShow, fields, first, all, cut⟩ := restricts candidate 5
  obtain ⟨full, projectedFull⟩ :=
    Option.isSome_iff_exists.mp (canShowAll.mpr rfl)
  obtain ⟨narrow, projected⟩ :=
    Option.isSome_iff_exists.mp (canShow.mpr fun _ => rfl)
  have sameField : Selection.Alike "headers.X-TAG" "headers.x-tag" :=
    @Selection.Alike.field "X-TAG" "x-tag" rfl
  refine ⟨_, read, alike _ ?_ ?_, full, narrow, projectedFull, projected,
    ?_, ?_, ?_⟩
  · simp only [List.forall_mem_cons, List.exists_mem_cons_iff]
    exact ⟨Or.inr (Or.inl sameField), Or.inl .textBody, nofun⟩
  · simp only [List.forall_mem_cons, List.exists_mem_cons_iff]
    exact ⟨Or.inr (Or.inl .textBody), Or.inl sameField,
      Or.inr (Or.inl (.same _)), nofun⟩
  · cases projected
    rfl
  · apply Option.eq_none_iff_forall_ne_some.mpr
    intro shown found
    obtain asked | asked :=
      (((cut narrow projected).1.value .subject (by decide) shown).mp found).1
    · cases asked
    · simp [Selection.Asks, Property.name] at asked
  · obtain ⟨shown, isShown, isFull⟩ :=
      (all full projectedFull).value .subject (by decide)
    cases isShown
    exact isFull

/-- A message with HTML only, from which a script cannot be cut. -/
def unreadable : Candidate :=
  ⟨{ Message.bare "m1" ["inbox"] 10 with
      body := ⟨none, some "\u212A<script>x</script>ȺȺ"⟩ }, .ofList ["inbox"]⟩

/-- The subject of a message can be shown where its whole projection cannot be
made. -/
theorem subject_shown_alone :
    ¬ ∀ names selection, Selection.parse (some names) = .ok selection →
      ∀ candidate previewLength narrow,
        project candidate selection previewLength = some narrow →
        ∃ full, project candidate .all previewLength = some full ∧
          ∀ property : Property, property ≠ .headers →
            Selection.Asks names property →
            narrow.get? property.name = full.get? property.name := by
  intro restricts
  obtain ⟨full, projected, -⟩ := restricts ["subject"] _ rfl unreadable 5 _ rfl
  have breaksDown : project unreadable .all 5 = none := by decide +kernel
  rw [breaksDown] at projected
  cases projected

end Tagged

end Query
end MailSearch
