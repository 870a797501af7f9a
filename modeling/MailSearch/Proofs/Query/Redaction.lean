import MailSearch.Proofs.Mail.Message
import MailSearch.Proofs.Query.Running

/-!
# Redaction of hidden mailboxes

Nothing in a query looks at the mailboxes of a message that are not visible:
neither the evaluation of a filter, nor a sort order, nor what a client is
shown.  Two engines that agree on the messages as the visible mailboxes show
them therefore run every request in the same way.
-/

namespace MailSearch
namespace Query

/-- The candidate with a message of which the hidden mailboxes are not known. -/
def Candidate.within (visible : IdSet) (candidate : Candidate) : Candidate :=
  ⟨candidate.message.within visible, candidate.mailboxes⟩

section Invariance

variable (visible : IdSet) (candidate : Candidate)

theorem Candidate.id_within : (candidate.within visible).id =
    candidate.id := rfl

theorem Predicate.holds_within
    (predicate : Predicate) :
    predicate.holds (candidate.within visible) = predicate.holds candidate := by
  cases predicate <;> rfl

theorem Filter.evaluate?_within
    (index : Predicate.Index)
    (filter : Option Filter) :
    evaluate? index (candidate.within visible) filter =
      evaluate? index candidate filter := by
  cases filter with
  | none => rfl
  | some filter =>
      refine evaluate_congr fun predicate _ => ?_
      rw [Predicate.evaluate, Predicate.evaluate, Predicate.holds_within,
        Candidate.id_within]

theorem Projection.value_within
    (previewLength : Nat)
    (property : Property) :
    value (candidate.within visible) previewLength property =
      value candidate previewLength property := by
  cases property <;> rfl

theorem project_within
    (selection : Selection)
    (previewLength : Nat) :
    project (candidate.within visible) selection previewLength =
      project candidate selection previewLength := by
  have sameProperties :
      Projection.properties (candidate.within visible) selection previewLength =
      Projection.properties candidate selection previewLength := by
    simp only [Projection.properties, Projection.value_within]
  have sameHeaders : Projection.headers (candidate.within visible) selection =
      Projection.headers candidate selection := rfl
  rw [project, sameProperties, sameHeaders, project]

end Invariance

section Sorting

variable (visible : IdSet) (left right : Candidate)

theorem SortField.compare_within
    (field : SortField) :
    field.compare (left.within visible) (right.within visible) =
      field.compare left right := by
  cases field <;> rfl

theorem SortOrder.compareBy_within
    (keys : List SortKey) :
    compareBy keys (left.within visible) (right.within visible) =
      compareBy keys left right := by
  induction keys with
  | nil => rfl
  | cons key rest inductionHypothesis =>
      rw [compareBy, compareBy, inductionHypothesis, SortKey.compare,
        SortKey.compare, SortField.compare_within]

theorem SortOrder.precedes_within
    (order : SortOrder) :
    order.precedes (left.within visible) (right.within visible) =
      order.precedes left right := by
  unfold precedes compare
  rw [compareBy_within]

theorem SortOrder.apply_map_within
    (order : SortOrder)
    (candidates : List Candidate) :
    order.apply (candidates.map (Candidate.within visible)) =
      (order.apply candidates).map (Candidate.within visible) :=
  (List.map_mergeSort fun left _ right _ =>
    (order.precedes_within visible left right).symm).symm

end Sorting

/-- Redacted candidates are shown as the candidates are. -/
theorem Answer.shownMessages_map_within
    (settings : Settings)
    (request : Request)
    (visible : IdSet)
    (items : List Candidate) :
    shownMessages settings request (items.map (Candidate.within visible)) =
      shownMessages settings request items := by
  simp only [shownMessages, List.mapM_map, Function.comp_def, project_within]

/-- The reply for redacted candidates is that for the candidates. -/
theorem Answer.ofSelected_map_within
    (settings : Settings)
    (request : Request)
    (visible : IdSet)
    (selected : List Candidate) :
    ofSelected settings request (selected.map (Candidate.within visible)) =
      ofSelected settings request selected := by
  have samePage :
      Page.slice request.position (request.limit.getD settings.defaultLimit)
      ((request.sort.getD settings.order).apply
          (selected.map (Candidate.within visible))) =
        (Page.slice request.position (request.limit.getD settings.defaultLimit)
          ((request.sort.getD settings.order).apply selected)).map
            (Candidate.within visible) := by
    rw [SortOrder.apply_map_within, Page.slice, Page.slice, ← List.map_drop,
      ← List.map_take]
  have sameIds : (fun candidate => (Candidate.within visible candidate).id) =
      Candidate.id := rfl
  simp only [ofSelected, samePage, shownMessages_map_within, List.length_map,
    List.map_map, Function.comp_def, sameIds]

/-- Redacted candidates are examined and answered as the candidates are. -/
theorem examine_map_within
    (settings : Settings)
    (index : Predicate.Index)
    (request : Request)
    (goOn : Nat -> Nat -> Bool)
    (visible : IdSet)
    (candidates : List Candidate)
    (total : Nat) :
    (examine (fun candidate =>
        Filter.evaluate? index candidate request.filter) goOn total 0
        (candidates.map (Candidate.within visible))).map
          (Answer.ofSelected settings request) =
      (examine (fun candidate =>
          Filter.evaluate? index candidate request.filter) goOn total 0
        candidates).map (Answer.ofSelected settings request) := by
  simp only [examine_map, Run.map_map, Answer.ofSelected_map_within,
    Filter.evaluate?_within]

/-! ## What is seen of a store -/

/-- What the readers of some mailboxes see of a held message that lies in one of
them. -/
def Seen
    (visible : IdSet)
    (held : Message -> Prop)
    (seen : Message) : Prop :=
  ∃ message, held message ∧ message.mailboxIds.meets visible = true ∧
    message.within visible = seen

/-- The redacted candidates of a store are determined by what is seen of it. -/
theorem Candidate.exists_collect_within
    {store : IdSet -> Except Error (List Message)}
    {held : Message -> Prop}
    (serves : Serves store held)
    (visible : IdSet)
    (scope : Option IdSet) :
    ∃ candidates, collect store visible scope = .ok candidates ∧
      (∀ candidate ∈ candidates, held candidate.message ∧
        candidate.message.mailboxIds.meets visible = true) ∧
      ((candidates.map (within visible)).Pairwise fun left right =>
        left.id < right.id) ∧
      ∀ redacted, redacted ∈ candidates.map (within visible) ↔
        Seen visible held redacted.message ∧
          redacted.mailboxes = redacted.message.mailboxIds ∧
          ∀ ids, scope = some ids → redacted.mailboxes.meets ids = true := by
  obtain ⟨candidates, collected, ordered, members⟩ :=
    exists_collect_eq_ok serves visible scope
  refine ⟨candidates, collected, ?_, List.pairwise_map.2 ordered, ?_⟩
  · intro candidate member
    have shown := ((members candidate).1 member).1
    exact ⟨shown.isHeld, shown.meets_visible⟩
  · intro redacted
    rw [List.mem_map]
    constructor
    · rintro ⟨candidate, member, rfl⟩
      obtain ⟨shown, inScope⟩ := (members candidate).1 member
      exact ⟨⟨candidate.message, shown.isHeld, shown.meets_visible, rfl⟩,
        shown.mailboxes_eq, inScope⟩
    · rintro ⟨⟨message, isHeld, meeting, same⟩, mailboxes, inScope⟩
      obtain ⟨redactedMessage, redactedMailboxes⟩ := redacted
      subst same
      change redactedMailboxes = message.mailboxIds.inter visible at mailboxes
      subst mailboxes
      have nonempty : ∃ id, id ∈ message.mailboxIds.inter visible := by
        obtain ⟨id, member⟩ := IdSet.meets_iff.1 meeting
        exact ⟨id, IdSet.mem_inter.2 member⟩
      exact ⟨⟨message, message.mailboxIds.inter visible⟩,
        (members _).2 ⟨⟨isHeld, rfl, nonempty⟩, inScope⟩, rfl⟩

/-! ## Engines that show the same -/

/-- Two engines show the same to a principal. -/
structure SameView
    (left right : Engine)
    (leftHeld rightHeld : Message -> Prop)
    (principal : String)
    (visible : IdSet) : Prop where
  /-- The principal may read the same mailboxes of the left engine. -/
  left_visible : left.visible principal = .ok visible
  /-- The principal may read the same mailboxes of the right engine. -/
  right_visible : right.visible principal = .ok visible
  /-- The left engine lists what it holds. -/
  left_serves : Serves left.listing leftHeld
  /-- The right engine lists what it holds. -/
  right_serves : Serves right.listing rightHeld
  /-- The readable mailboxes show the same of the messages. -/
  seen_iff : ∀ seen, Seen visible leftHeld seen ↔ Seen visible rightHeld seen
  /-- The indexes do the same with the messages that the readable mailboxes
  show. -/
  index_eq : ∀ message, leftHeld message →
    message.mailboxIds.meets visible = true →
    ∀ scope term, left.index scope term message.id =
      right.index scope term message.id
  /-- The settings are the same. -/
  settings_eq : left.settings = right.settings

section View

variable {left right : Engine} {leftHeld rightHeld : Message -> Prop}
  {principal : String} {visible : IdSet}
  (view : SameView left right leftHeld rightHeld principal visible)

include view

/-- Engines that show the same run every request in the same way. -/
theorem SameView.run_eq
    (request : Request)
    (goOn : Nat -> Nat -> Bool) :
    left.run principal request goOn = right.run principal request goOn := by
  obtain ⟨leftCandidates, leftCollected, leftHolds, leftOrdered, leftMembers⟩ :=
    Candidate.exists_collect_within view.left_serves visible
      (request.filter.bind Filter.scope?)
  obtain ⟨rightCandidates, rightCollected, -, rightOrdered, rightMembers⟩ :=
    Candidate.exists_collect_within view.right_serves visible
      (request.filter.bind Filter.scope?)
  have sameRedacted : leftCandidates.map (Candidate.within visible) =
      rightCandidates.map (Candidate.within visible) := by
    refine Candidate.eq_of_pairwise_id leftOrdered rightOrdered
      fun redacted => ?_
    rw [leftMembers, rightMembers, view.seen_iff]
  have sameLength : leftCandidates.length = rightCandidates.length := by
    simpa only [List.length_map] using congrArg List.length sameRedacted
  have sameEvaluation : ∀ candidate ∈ leftCandidates,
      Filter.evaluate? left.index candidate request.filter =
        Filter.evaluate? right.index candidate request.filter := by
    intro candidate member
    obtain ⟨isHeld, meeting⟩ := leftHolds candidate member
    cases request.filter with
    | none => rfl
    | some filter =>
        exact Filter.evaluate_congr_of_searches fun scope term _ =>
          view.index_eq candidate.message isHeld meeting scope term
  have leftFound : left.candidates principal request.filter =
      .ok leftCandidates :=
    (Engine.candidates_of_visible view.left_visible request.filter).trans
      leftCollected
  have rightFound : right.candidates principal request.filter =
      .ok rightCandidates :=
    (Engine.candidates_of_visible view.right_visible request.filter).trans
      rightCollected
  rw [Engine.run_of_candidates leftFound, Engine.run_of_candidates rightFound,
    view.settings_eq]
  simp only [examine_congr sameEvaluation, sameLength]
  -- Both sides are the examination of the same redacted candidates.
  rw [← examine_map_within right.settings right.index request goOn visible
      leftCandidates,
    sameRedacted, examine_map_within]

/-- Engines that show the same answer every request in the same way. -/
theorem SameView.query_eq
    (value : Json) :
    left.query principal value = right.query principal value := by
  have sameDecoding : left.decode value = right.decode value := by
    unfold Engine.decode
    rw [view.settings_eq]
  unfold Engine.query
  rw [sameDecoding]
  cases right.decode value with
  | error error => rfl
  | ok request =>
      exact congrArg Run.outcome (view.run_eq request fun _ _ => true)

end View

end Query
end MailSearch
