import MailSearch.Proofs.Query.Narrowing
import MailSearch.Proofs.Query.Ordering
import MailSearch.Proofs.Query.Reply

/-!
# Answers of an engine

With collaborators that answer everything, a request selects exactly the shown
candidates that its filter means, and the answer is a page of their only listing
in the strict order.
-/

namespace MailSearch
namespace Query

/-- The candidates that a condition with a scope means lie in the scope. -/
theorem Filter.meets_scope_of_selects
    {contains : TextScope -> String -> String -> Bool}
    {candidate : Candidate}
    {filter : Filter}
    {ids : IdSet}
    (confined : filter.scope? = some ids)
    (selects : filter.Selects contains candidate) :
    candidate.mailboxes.meets ids = true := by
  cases filter with
  | combination operator filters => cases confined
  | condition predicates =>
      rw [Selects] at selects
      exact selects (.inMailboxes ids) (inMailboxes_mem_of_scope? confined)

/-- Which candidates a request means: all, if it has no filter. -/
def Request.Selects
    (contains : TextScope -> String -> String -> Bool)
    (candidate : Candidate)
    (request : Request) : Prop :=
  ∀ filter, request.filter = some filter → filter.Selects contains candidate

namespace Request

theorem evaluate?_decides
    (contains : TextScope -> String -> String -> Bool)
    (candidate : Candidate)
    (request : Request) :
    Decides (Filter.evaluate?
        (fun scope term id => .ok (contains scope term id)) candidate
      request.filter) (request.Selects contains candidate) := by
  unfold Selects
  cases request.filter with
  | none =>
      have all : ∀ filter, none = some filter →
          Filter.Selects contains candidate filter :=
        fun filter absurd => nomatch absurd
      exact ⟨true, rfl, iff_of_true rfl all⟩
  | some filter =>
      obtain ⟨answer, outcome, truth⟩ :=
        Filter.evaluate_decides contains candidate filter
      refine ⟨answer, outcome, ?_⟩
      simp only [truth, Option.some.injEq, forall_eq']

theorem meets_scope_of_selects
    {contains : TextScope -> String -> String -> Bool}
    {candidate : Candidate}
    {request : Request}
    (selects : request.Selects contains candidate)
    (ids : IdSet)
    (confined : request.filter.bind Filter.scope? = some ids) :
    candidate.mailboxes.meets ids = true := by
  obtain ⟨filter, given, confined⟩ := Option.bind_eq_some_iff.1 confined
  exact Filter.meets_scope_of_selects confined (selects filter given)

end Request

/-- An engine whose collaborators answer everything selects what the request
means. -/
theorem Engine.exists_execute_eq_ok
    {engine : Engine}
    {principal : String}
    {visible : IdSet}
    {held : Message -> Prop}
    {contains : TextScope -> String -> String -> Bool}
    (sees : engine.visible principal = .ok visible)
    (serves : Serves engine.listing held)
    (finds : engine.index = fun scope term id => .ok (contains scope term id))
    (request : Request) :
    ∃ kept,
      engine.execute principal request =
        .ok (Answer.ofSelected engine.settings request kept) ∧
      (kept.Pairwise fun left right => left.id < right.id) ∧
      ∀ candidate, candidate ∈ kept ↔
        candidate.Shown visible held ∧ request.Selects contains candidate := by
  obtain ⟨candidates, collected, ordered, members⟩ :=
    Candidate.exists_collect_eq_ok serves visible
      (request.filter.bind Filter.scope?)
  have each : ∀ candidate ∈ candidates,
      Decides (Filter.evaluate? engine.index candidate request.filter)
        (request.Selects contains candidate) := by
    intro candidate _
    rw [finds]
    exact request.evaluate?_decides contains candidate
  obtain ⟨kept, chosen, sublist, keptMembers⟩ := exists_choose_eq_ok each
  refine ⟨kept, ?_, ordered.sublist sublist, ?_⟩
  · have found : engine.candidates principal request.filter = .ok candidates :=
      (candidates_of_visible sees request.filter).trans collected
    rw [execute_of_candidates found, chosen]
    rfl
  · intro candidate
    rw [keptMembers, members]
    constructor
    · rintro ⟨⟨shown, -⟩, selects⟩
      exact ⟨shown, selects⟩
    · rintro ⟨shown, selects⟩
      exact ⟨⟨shown, Request.meets_scope_of_selects selects⟩, selects⟩

/-- A request that is accepted is executed. -/
theorem Engine.query_of_accepted
    {engine : Engine}
    {value : Json}
    {request : Request}
    (accepted : Request.ofJson engine.settings value = .ok request)
    (principal : String) :
    engine.query principal value = engine.execute principal request := by
  have decoded : engine.decode value = .ok request := by
    unfold decode
    rw [accepted]
  unfold query
  rw [decoded]
  rfl

/-- A value that is replied to stands for a request, which has the reply. -/
theorem Engine.exists_accepted
    {engine : Engine}
    {principal : String}
    {value : Json}
    {reply : Attempt Answer}
    (answered : engine.query principal value = .ok reply) :
    ∃ request, Request.ofJson engine.settings value = .ok request ∧
      engine.execute principal request = .ok reply := by
  obtain ⟨request, decoded, executed⟩ := Outcome.exists_of_bind_eq_ok answered
  refine ⟨request, ?_, executed⟩
  unfold decode at decoded
  split at decoded
  · rename_i accepted
    rw [accepted, Except.ok.inj decoded]
  · cases decoded

/-! ## Listings -/

/-- A list of exactly the wanted candidates in the strict order of some keys. -/
structure Lists
    (keys : List SortKey)
    (wanted : Candidate -> Prop)
    (listed : List Candidate) : Prop where
  /-- Exactly the wanted candidates are listed. -/
  mem_iff : ∀ candidate, candidate ∈ listed ↔ wanted candidate
  /-- Every candidate stands before the ones behind it. -/
  ordered : listed.Pairwise fun left right => Before left right keys

/-- There is only one listing of the wanted candidates. -/
theorem Lists.unique
    {keys : List SortKey}
    {wanted : Candidate -> Prop}
    {left right : List Candidate}
    (leftLists : Lists keys wanted left)
    (rightLists : Lists keys wanted right) :
    left = right := by
  refine eq_of_pairwise_before leftLists.ordered rightLists.ordered
    fun candidate => ?_
  rw [leftLists.mem_iff, rightLists.mem_iff]

/-- A listing of candidates that their identifiers tell apart has every
identifier once. -/
theorem Lists.nodup_ids
    {keys : List SortKey}
    {wanted : Candidate -> Prop}
    {listed : List Candidate}
    (lists : Lists keys wanted listed)
    (identified : ∀ left right, wanted left → wanted right →
      left.id = right.id → left = right) :
    (listed.map Candidate.id).Nodup := by
  refine List.pairwise_map.2 (lists.ordered.imp_of_mem ?_)
  intro left right leftMember rightMember before same
  have equal := identified left right ((lists.mem_iff left).1 leftMember)
    ((lists.mem_iff right).1 rightMember) same
  rw [equal] at before
  exact before.irrefl

/-- An answer shows a page of a listing. -/
structure Answer.Shows
    (answer : Answer)
    (position limit : Nat)
    (listed : List Candidate) : Prop where
  /-- The total counts the whole listing. -/
  total_eq : answer.total = listed.length
  /-- The page is the part of the listing from the position on, up to the
  limit. -/
  messageIds_eq : answer.messageIds =
    (listed.extract (min position listed.length)
        (min (position + limit) listed.length)).map
      Candidate.id

/-- A reply is about a page of a listing, and is an answer if the page can be
shown. -/
structure Request.RepliesFrom
    (settings : Settings)
    (request : Request)
    (listed : List Candidate)
    (reply : Attempt Answer) : Prop where
  /-- There is an answer if the page can be shown. -/
  isSome_iff : reply.isSome = true ↔ request.CanShow settings
    (Page.slice request.position
      (request.limit.getD settings.defaultLimit) listed)
  /-- The answer shows the page. -/
  shows : ∀ answer, reply = some answer →
    answer.Shows request.position
      (request.limit.getD settings.defaultLimit) listed

/-- The reply for the selected candidates is about a page of their listing. -/
theorem Answer.exists_listing_of_selected
    (settings : Settings)
    (request : Request)
    {selected : List Candidate}
    (ordered : selected.Pairwise fun left right => left.id < right.id) :
    ∃ listed,
        Lists (request.sort.getD settings.order).keys (· ∈ selected) listed ∧
      request.RepliesFrom settings listed
        (ofSelected settings request selected) := by
  refine ⟨(request.sort.getD settings.order).apply selected, ⟨?_, ?_⟩,
    isSome_ofSelected_iff, fun answer replied => ?_⟩
  · intro candidate
    exact SortOrder.mem_apply
  · exact SortOrder.pairwise_apply _ ordered
  · have tells := ofSelected_eq_some_iff.mp replied
    refine ⟨tells.total_eq.trans (List.length_mergeSort selected).symm, ?_⟩
    rw [tells.messageIds_eq, page, Page.slice_eq_extract]

namespace Request.RepliesFrom

variable {settings : Settings} {request : Request} {listed : List Candidate}
  {reply : Attempt Answer}

/-- A reply is an answer if the whole listing can be shown. -/
theorem exists_answer
    (replies : request.RepliesFrom settings listed reply)
    (canShow : request.CanShow settings listed) :
    ∃ answer, reply = some answer ∧
      answer.Shows request.position (request.limit.getD settings.defaultLimit)
        listed := by
  obtain ⟨answer, replied⟩ := Option.isSome_iff_exists.mp
    (replies.isSome_iff.mpr (canShow.subset (Page.slice_subset _ _ listed)))
  exact ⟨answer, replied, replies.shows answer replied⟩

/-- An answer from the start with room for the whole listing shows all of it. -/
theorem canShow
    (replies : request.RepliesFrom settings listed reply)
    (answered : reply.isSome = true)
    (fromStart : request.position = 0)
    (fits : listed.length ≤ request.limit.getD settings.defaultLimit) :
    request.CanShow settings listed := by
  have shown := replies.isSome_iff.mp answered
  rwa [Page.slice, fromStart, List.drop_zero, List.take_of_length_le fits]
    at shown

end Request.RepliesFrom

end Query
end MailSearch
