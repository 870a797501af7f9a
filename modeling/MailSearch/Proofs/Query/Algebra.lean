import MailSearch.Proofs.Query.Answering
import MailSearch.Proofs.Query.Asking
import MailSearch.Proofs.Query.Nesting

/-!
# The algebra of filters

The answers to one request under different filters are pages of parts of one
listing, the listing without a filter.  So the operators are the operations on
sets of identifiers, whatever way each filter takes through the engine.
-/

namespace MailSearch
namespace Query

theorem Request.selects_some
    {contains : TextScope -> String -> String -> Bool}
    {candidate : Candidate}
    {request : Request}
    {filter : Filter} :
    Request.Selects contains candidate { request with filter := some filter } ↔
      filter.Selects contains candidate := by
  simp only [Request.Selects, Option.some.injEq, forall_eq']

/-- An operator means the same over the same filters in another order or
number. -/
theorem Filter.selects_combination_congr
    {contains : TextScope -> String -> String -> Bool}
    {candidate : Candidate}
    {operator : Operator}
    {left right : List Filter}
    (same : ∀ filter, filter ∈ left ↔ filter ∈ right) :
    Selects contains candidate (.combination operator left) ↔
      Selects contains candidate (.combination operator right) := by
  cases operator with
  | conjunction => simp only [selects_conjunction, same]
  | disjunction => simp only [selects_disjunction, same]
  | exclusion => simp only [selects_exclusion, same]

/-- Outcomes that decide the same are equal. -/
theorem Decides.eq_of_iff
    {left right : Except Error Bool}
    {leftMeaning rightMeaning : Prop}
    (leftDecides : Decides left leftMeaning)
    (rightDecides : Decides right rightMeaning)
    (same : leftMeaning ↔ rightMeaning) :
    left = right := by
  obtain ⟨leftAnswer, rfl, leftTruth⟩ := leftDecides
  obtain ⟨rightAnswer, rfl, rightTruth⟩ := rightDecides
  exact congrArg Except.ok
    (Bool.eq_iff_iff.mpr (leftTruth.trans (same.trans rightTruth.symm)))

/-- Shown candidates with the same identifier are the same. -/
theorem Candidate.Shown.eq_of_id_eq
    {store : IdSet -> Except Error (List Message)}
    {held : Message -> Prop}
    {visible : IdSet}
    {left right : Candidate}
    (leftShown : left.Shown visible held)
    (serves : Serves store held)
    (rightShown : right.Shown visible held)
    (same : left.id = right.id) :
    left = right := by
  have sameMessage : left.message = right.message :=
    serves.identified left.message right.message leftShown.isHeld
      rightShown.isHeld same
  have sameMailboxes : left.mailboxes = right.mailboxes := by
    rw [leftShown.mailboxes_eq, rightShown.mailboxes_eq, sameMessage]
  cases left
  cases sameMessage
  cases sameMailboxes
  rfl

/-! ## Parts of a listing -/

/-- A listing of some of the wanted candidates is a part of the listing of all
of them. -/
theorem Lists.sublist_of_imp
    {keys : List SortKey}
    {wanted narrower : Candidate -> Prop}
    {listed part : List Candidate}
    (lists : Lists keys wanted listed)
    (listsPart : Lists keys narrower part)
    (implies : ∀ candidate, narrower candidate → wanted candidate) :
    part.Sublist listed := by
  classical
  have filtered : Lists keys narrower
      (listed.filter fun candidate => decide (narrower candidate)) := by
    refine ⟨fun candidate => ?_, lists.ordered.filter _⟩
    rw [List.mem_filter, lists.mem_iff, decide_eq_true_iff]
    exact ⟨And.right, fun isNarrower =>
      ⟨implies candidate isNarrower, isNarrower⟩⟩
  rw [listsPart.unique filtered]
  exact List.filter_sublist

/-- A page from the start with room for the whole listing shows the whole
listing. -/
theorem Answer.Shows.messageIds_of_fits
    {answer : Answer}
    {position limit : Nat}
    {listed : List Candidate}
    (shows : answer.Shows position limit listed)
    (fromStart : position = 0)
    (fits : listed.length ≤ limit) :
    answer.messageIds = listed.map Candidate.id := by
  rw [shows.messageIds_eq, fromStart, Nat.zero_min, Nat.zero_add,
    Nat.min_eq_right fits, List.extract_eq_take_drop, List.drop_zero,
    Nat.sub_zero, List.take_length]

/-- The identifiers of the selected candidates of a listing, in its order. -/
structure Marks
    (listed : List Candidate)
    (selects : Candidate -> Prop)
    (ids : List String) : Prop where
  /-- The identifiers keep the order of the listing. -/
  sublist : ids.Sublist (listed.map Candidate.id)
  /-- A candidate of the listing is marked if it is selected. -/
  mem_iff : ∀ candidate ∈ listed, candidate.id ∈ ids ↔ selects candidate

namespace Marks

variable {listed : List Candidate}

theorem of_sublist
    {part : List Candidate}
    {selects : Candidate -> Prop}
    (once : (listed.map Candidate.id).Nodup)
    (sublist : part.Sublist listed)
    (members : ∀ candidate ∈ listed, candidate ∈ part ↔ selects candidate) :
    Marks listed selects (part.map Candidate.id) := by
  refine ⟨sublist.map Candidate.id, fun candidate isListed => ?_⟩
  rw [← members candidate isListed]
  constructor
  · intro marked
    obtain ⟨other, isPart, same⟩ := List.mem_map.mp marked
    rw [← List.inj_on_of_nodup_map once (sublist.subset isPart) isListed same]
    exact isPart
  · exact List.mem_map_of_mem

end Marks

/-! ## Operators on sets of identifiers -/

/-- Whether an operator on sets of identifiers, some of all, leaves an
identifier in. -/
def Operator.Combines
    (all : List String)
    (parts : List (List String))
    (id : String) :
    Operator -> Prop
  | .conjunction => ∀ part ∈ parts, id ∈ part
  | .disjunction => ∃ part ∈ parts, id ∈ part
  | .exclusion => id ∈ all ∧ ∀ part ∈ parts, id ∉ part

/-- What an operator leaves in is among all. -/
theorem Operator.Combines.mem_all
    {operator : Operator}
    {all : List String}
    {parts : List (List String)}
    {id : String}
    (combines : operator.Combines all parts id)
    (nonempty : parts ≠ [])
    (among : ∀ part ∈ parts, part.Sublist all) :
    id ∈ all := by
  cases operator with
  | conjunction =>
      obtain ⟨part, isPart⟩ := List.exists_mem_of_ne_nil parts nonempty
      exact (among part isPart).subset (combines part isPart)
  | disjunction =>
      obtain ⟨part, isPart, member⟩ := combines
      exact (among part isPart).subset member
  | exclusion => exact combines.1

/-- An operator over filters marks what it combines from what the filters
mark. -/
theorem Marks.mem_combination_iff
    {contains : TextScope -> String -> String -> Bool}
    {listed : List Candidate}
    {operator : Operator}
    {filters : List Filter}
    {ids : List String}
    {parts : List (List String)}
    (marks : Marks listed
      (Filter.Selects contains · (.combination operator filters)) ids)
    (nonempty : parts ≠ [])
    (each : ∀ part ∈ parts, ∃ filter ∈ filters,
      Marks listed (Filter.Selects contains · filter) part)
    (every : ∀ filter ∈ filters, ∃ part ∈ parts,
      Marks listed (Filter.Selects contains · filter) part)
    (id : String) :
    id ∈ ids ↔ operator.Combines (listed.map Candidate.id) parts id := by
  have among : ∀ part ∈ parts, part.Sublist (listed.map Candidate.id) := by
    intro part isPart
    obtain ⟨filter, -, marksPart⟩ := each part isPart
    exact marksPart.sublist
  by_cases isListed : id ∈ listed.map Candidate.id
  · obtain ⟨candidate, member, rfl⟩ := List.mem_map.mp isListed
    have some_iff : (∃ filter ∈ filters, filter.Selects contains candidate) ↔
        ∃ part ∈ parts, candidate.id ∈ part := by
      constructor
      · rintro ⟨filter, isFilter, selects⟩
        obtain ⟨part, isPart, marksPart⟩ := every filter isFilter
        exact ⟨part, isPart, (marksPart.mem_iff candidate member).mpr selects⟩
      · rintro ⟨part, isPart, marked⟩
        obtain ⟨filter, isFilter, marksPart⟩ := each part isPart
        exact ⟨filter, isFilter, (marksPart.mem_iff candidate member).mp marked⟩
    have every_iff : (∀ filter ∈ filters, filter.Selects contains candidate) ↔
        ∀ part ∈ parts, candidate.id ∈ part := by
      constructor
      · intro selects part isPart
        obtain ⟨filter, isFilter, marksPart⟩ := each part isPart
        exact (marksPart.mem_iff candidate member).mpr (selects filter isFilter)
      · intro marked filter isFilter
        obtain ⟨part, isPart, marksPart⟩ := every filter isFilter
        exact (marksPart.mem_iff candidate member).mp (marked part isPart)
    rw [marks.mem_iff candidate member]
    cases operator with
    | conjunction => exact Filter.selects_conjunction.trans every_iff
    | disjunction => exact Filter.selects_disjunction.trans some_iff
    | exclusion =>
        rw [Filter.selects_exclusion, some_iff, Operator.Combines]
        simp only [not_exists, not_and]
        exact ⟨fun unmarked => ⟨isListed, unmarked⟩, And.right⟩
  · constructor
    · exact fun marked => absurd (marks.sublist.subset marked) isListed
    · exact fun combines => absurd (combines.mem_all nonempty among) isListed

namespace Engine

/-! ## One request under different filters -/

/-- The identifiers that a query finds. -/
def find (engine : Engine) (principal : String) (value : Json) :
    Except Error (Attempt (List String)) :=
  (engine.query principal value).map fun reply => reply.map Answer.messageIds

section Answering

variable {engine : Engine} {principal : String} {visible : IdSet}
  {held : Message -> Prop} {contains : TextScope -> String -> String -> Bool}
  (sees : engine.visible principal = .ok visible)
  (serves : Serves engine.listing held)
  (finds : engine.index = fun scope term id => .ok (contains scope term id))

include sees serves finds

/-- The reply to a request is about a page of the listing of the shown
candidates that it means. -/
theorem exists_execute_repliesFrom
    (request : Request) :
    ∃ reply listed, engine.execute principal request = .ok reply ∧
      request.RepliesFrom engine.settings listed reply ∧
      Lists (request.sort.getD engine.settings.order).keys
        (fun candidate =>
          candidate.Shown visible held ∧ request.Selects contains candidate)
        listed := by
  obtain ⟨kept, executed, ordered, members⟩ :=
    exists_execute_eq_ok sees serves finds request
  obtain ⟨listed, lists, replies⟩ :=
    Answer.exists_listing_of_selected engine.settings request ordered
  refine ⟨_, listed, executed, replies, fun candidate => ?_, lists.ordered⟩
  rw [lists.mem_iff, members]

/-- The reply to a request without a filter is about the listing of all shown
candidates. -/
theorem exists_execute_unfiltered
    {request : Request}
    (noFilter : request.filter = none) :
    ∃ reply listed, engine.execute principal request = .ok reply ∧
      request.RepliesFrom engine.settings listed reply ∧
      Lists (request.sort.getD engine.settings.order).keys
        (fun candidate => candidate.Shown visible held) listed := by
  obtain ⟨reply, listed, executed, replies, lists⟩ :=
    exists_execute_repliesFrom sees serves finds request
  refine ⟨reply, listed, executed, replies, fun candidate => ?_, lists.ordered⟩
  rw [lists.mem_iff, Request.Selects, noFilter]
  exact and_iff_left nofun

/--
From the start and with room for all, a query without a filter finds the whole
listing if it is answered, which it always is if messages are not to be shown.
-/
theorem exists_find_unfiltered
    {others : List (String × Json)}
    {request : Request}
    (accepted : Request.ofJson engine.settings (asking others none) =
      .ok request)
    (noFilter : request.filter = none)
    (answers : request.fetchMessages = true →
      ∃ answer, engine.query principal (asking others none) = .ok (some answer))
    (fromStart : request.position = 0)
    (fits : ∀ answer,
        engine.query principal (asking others none) = .ok (some answer) →
      answer.total ≤ request.limit.getD engine.settings.defaultLimit) :
    ∃ listed, Lists (request.sort.getD engine.settings.order).keys
        (fun candidate => candidate.Shown visible held) listed ∧
      request.CanShow engine.settings listed ∧
      listed.length ≤ request.limit.getD engine.settings.defaultLimit ∧
      engine.find principal (asking others none) =
        .ok (some (listed.map Candidate.id)) := by
  obtain ⟨reply, listed, executed, replies, lists⟩ :=
    exists_execute_unfiltered sees serves finds noFilter
  have replied : engine.query principal (asking others none) = .ok reply :=
    (query_of_accepted accepted principal).trans executed
  obtain ⟨answer, rfl⟩ : ∃ answer, reply = some answer := by
    cases fetched : request.fetchMessages with
    | false => exact exists_answer_of_not_fetched fetched executed
    | true =>
        obtain ⟨answer, answered⟩ := answers fetched
        exact ⟨answer, Except.ok.inj (replied.symm.trans answered)⟩
  have shows := replies.shows answer rfl
  have room :
      listed.length ≤ request.limit.getD engine.settings.defaultLimit := by
    rw [← shows.total_eq]
    exact fits answer replied
  refine ⟨listed, lists, replies.canShow rfl fromStart room, room, ?_⟩
  rw [find, replied]
  exact congrArg (Except.ok ∘ some) (shows.messageIds_of_fits fromStart room)

/-- With room for all, a query finds the part of a listing that its filter
means. -/
theorem find_eq_of_lists
    {others : List (String × Json)}
    (unfiltered : ∀ member ∈ others, member.1 ≠ "filter")
    {request : Request}
    (accepted : Request.ofJson engine.settings (asking others none) =
      .ok { request with filter := none })
    (fromStart : request.position = 0)
    {listed part : List Candidate}
    (canShow : request.CanShow engine.settings listed)
    (room : listed.length ≤ request.limit.getD engine.settings.defaultLimit)
    {value : Json}
    {filter : Filter}
    (standsFor : Request.StandsFor engine.settings.maxFilterDepth value filter)
    (isPart : part.Sublist listed)
    (lists : Lists (request.sort.getD engine.settings.order).keys
      (fun candidate => candidate.Shown visible held ∧
        filter.Selects contains candidate) part) :
    engine.find principal (asking others (some value)) =
      .ok (some (part.map Candidate.id)) := by
  have acceptedValue :
      Request.ofJson engine.settings (asking others (some value)) =
      .ok { request with filter := some filter } :=
    (Request.ofJson_asking_eq_ok_iff unfiltered).mpr ⟨standsFor, accepted⟩
  obtain ⟨reply, listedPart, executed, replies, listsPart⟩ :=
    exists_execute_repliesFrom sees serves finds { request with
      filter := some filter }
  simp only [Request.selects_some] at listsPart
  obtain rfl := listsPart.unique lists
  obtain ⟨answer, rfl, shows⟩ :=
    replies.exists_answer (canShow.subset isPart.subset)
  rw [find, query_of_accepted acceptedValue, executed]
  exact congrArg (Except.ok ∘ some)
    (shows.messageIds_of_fits fromStart (isPart.length_le.trans room))

/-- From the start and with room for all, a query finds what its filter marks in
one listing. -/
theorem exists_findings
    {others : List (String × Json)}
    (unfiltered : ∀ member ∈ others, member.1 ≠ "filter")
    {request : Request}
    (accepted : Request.ofJson engine.settings (asking others none) =
      .ok { request with filter := none })
    (answers : request.fetchMessages = true →
      ∃ answer, engine.query principal (asking others none) = .ok (some answer))
    (fromStart : request.position = 0)
    (fits : ∀ answer,
        engine.query principal (asking others none) = .ok (some answer) →
      answer.total ≤ request.limit.getD engine.settings.defaultLimit) :
    ∃ listed, (listed.map Candidate.id).Nodup ∧
      engine.find principal (asking others none) =
        .ok (some (listed.map Candidate.id)) ∧
      ∀ value filter,
          Request.StandsFor engine.settings.maxFilterDepth value filter →
        ∃ ids, engine.find principal (asking others (some value)) =
            .ok (some ids) ∧
          Marks listed (Filter.Selects contains · filter) ids := by
  obtain ⟨listed, lists, canShow, room, found⟩ :=
    exists_find_unfiltered sees serves finds accepted rfl answers fromStart fits
  have once : (listed.map Candidate.id).Nodup :=
    lists.nodup_ids fun left right leftShown rightShown =>
      leftShown.eq_of_id_eq serves rightShown
  refine ⟨listed, once, found, fun value filter standsFor => ?_⟩
  obtain ⟨-, part, -, -, listsPart⟩ :=
    exists_execute_repliesFrom sees serves finds { request with
      filter := some filter }
  simp only [Request.selects_some] at listsPart
  have isPart : part.Sublist listed :=
    lists.sublist_of_imp listsPart fun candidate wanted => wanted.1
  refine ⟨part.map Candidate.id,
    find_eq_of_lists sees serves finds unfiltered accepted fromStart canShow
        room standsFor isPart
      listsPart,
    .of_sublist once isPart fun candidate isListed => ?_⟩
  rw [listsPart.mem_iff]
  exact and_iff_right ((lists.mem_iff candidate).mp isListed)

end Answering

/-- Filters without a scope that decide the same are answered the same. -/
theorem execute_of_same_decisions
    {engine : Engine}
    {left right : Filter}
    (leftUnscoped : left.scope? = none)
    (rightUnscoped : right.scope? = none)
    (same : ∀ candidate,
      left.evaluate engine.index candidate =
        right.evaluate engine.index candidate)
    (principal : String)
    (request : Request) :
    engine.execute principal { request with filter := some left } =
      engine.execute principal { request with filter := some right } := by
  have sameTests :
      (fun candidate => Filter.evaluate? engine.index candidate (some left)) =
      fun candidate => Filter.evaluate? engine.index candidate (some right) :=
    funext same
  unfold execute run candidates
  simp only [Option.bind_some, leftUnscoped, rightUnscoped, sameTests]
  rfl

end Engine

/--
With collaborators that answer everything, an operator over filters finds the
identifiers that it combines from those that the filters find alone, in the
order in which they are found without a filter.  It finds the same over the same
filters in another order or number.  If messages are to be shown too, the query
without a filter must be answered: then all messages can be shown, and so can
those of every filter.
-/
theorem operators_combine_findings
    {engine : Engine}
    {principal : String}
    {visible : IdSet}
    {held : Message -> Prop}
    {contains : TextScope -> String -> String -> Bool}
    (sees : engine.visible principal = .ok visible)
    (serves : Serves engine.listing held)
    (finds : engine.index = fun scope term id => .ok (contains scope term id))
    {others : List (String × Json)}
    (unfiltered : ∀ member ∈ others, member.1 ≠ "filter")
    {name : String}
    {children : List Json}
    {request : Request}
    (accepted : Request.ofJson engine.settings
      (asking others (some (operation name children))) = .ok request)
    (answers : request.fetchMessages = true →
      ∃ answer, engine.query principal (asking others none) = .ok (some answer))
    (fromStart : request.position = 0)
    (fits : ∀ answer,
        engine.query principal (asking others none) = .ok (some answer) →
      answer.total ≤ request.limit.getD engine.settings.defaultLimit) :
    ∃ operator all parts combined,
      Operator.ofName name = .ok operator ∧
      engine.find principal (asking others none) = .ok (some all) ∧
      children.mapM
          (fun child => engine.find principal (asking others (some child))) =
        .ok (parts.map some) ∧
      engine.find principal (asking others (some (operation name children))) =
        .ok (some combined) ∧
      (∀ id, id ∈ combined ↔ operator.Combines all parts id) ∧
      all.Nodup ∧ combined.Sublist all ∧ (∀ part ∈ parts, part.Sublist all) ∧
      ∀ rearranged, (∀ child, child ∈ rearranged ↔ child ∈ children) →
        engine.query principal
            (asking others (some (operation name rearranged))) =
          engine.query principal
            (asking others (some (operation name children))) := by
  obtain ⟨decoded, acceptedPlain⟩ :=
    (Request.ofJson_asking_eq_ok_iff unfiltered).mp accepted
  obtain ⟨operator, filters, named, nonempty, isCombination, each, every⟩ :=
    Request.exists_filters_of_operation decoded
  obtain ⟨listed, once, foundAll, found⟩ :=
    Engine.exists_findings sees serves finds unfiltered acceptedPlain answers
      fromStart fits
  rw [isCombination] at decoded
  obtain ⟨combined, foundCombined, marks⟩ :=
    found (operation name children) _ decoded
  have foundEach : ∀ child ∈ children, ∃ ids,
      engine.find principal (asking others (some child)) = .ok (some ids) := by
    intro child isChild
    obtain ⟨filter, -, standsFor⟩ := each child isChild
    obtain ⟨ids, foundChild, -⟩ := found child filter standsFor
    exact ⟨ids, foundChild⟩
  obtain ⟨parts, areParts⟩ := Outcome.exists_forall₂ foundEach
  have foundParts : children.mapM
      (fun child => engine.find principal (asking others (some child))) =
        .ok (parts.map some) :=
    Outcome.mapM_eq_ok_iff.mpr (List.forall₂_map_right_iff.mpr areParts)
  have mem_parts : ∀ {part}, part ∈ parts ↔ ∃ child ∈ children,
      engine.find principal (asking others (some child)) = .ok (some part) := by
    intro part
    rw [← List.mem_map_of_injective (Option.some_injective _)]
    exact Outcome.mem_results_iff foundParts
  have marksEach : ∀ part ∈ parts, ∃ filter ∈ filters,
      Marks listed (Filter.Selects contains · filter) part := by
    intro part isPart
    obtain ⟨child, isChild, foundChild⟩ := mem_parts.mp isPart
    obtain ⟨filter, isFilter, standsFor⟩ := each child isChild
    obtain ⟨ids, foundIds, marksIds⟩ := found child filter standsFor
    cases foundChild.symm.trans foundIds
    exact ⟨filter, isFilter, marksIds⟩
  have marksEvery : ∀ filter ∈ filters, ∃ part ∈ parts,
      Marks listed (Filter.Selects contains · filter) part := by
    intro filter isFilter
    obtain ⟨child, isChild, standsFor⟩ := every filter isFilter
    obtain ⟨ids, foundIds, marksIds⟩ := found child filter standsFor
    exact ⟨ids, mem_parts.mpr ⟨child, isChild, foundIds⟩, marksIds⟩
  have partsNonempty : parts ≠ [] := by
    obtain ⟨child, isChild⟩ := List.exists_mem_of_ne_nil children nonempty
    obtain ⟨ids, foundChild⟩ := foundEach child isChild
    exact List.ne_nil_of_mem (mem_parts.mpr ⟨child, isChild, foundChild⟩)
  refine ⟨operator, listed.map Candidate.id, parts, combined, named, foundAll,
    foundParts, foundCombined,
    marks.mem_combination_iff partsNonempty marksEach marksEvery, once,
    marks.sublist, fun part isPart => ?_, fun rearranged same => ?_⟩
  · obtain ⟨filter, -, marksPart⟩ := marksEach part isPart
    exact marksPart.sublist
  · obtain ⟨otherFilters, otherDecoded, sameFilters⟩ :=
      Request.exists_filterOf_rearranged decoded same
    have acceptedOther : Request.ofJson engine.settings
        (asking others (some (operation name rearranged))) =
          .ok { request with
            filter := some (.combination operator otherFilters) } :=
      (Request.ofJson_asking_eq_ok_iff unfiltered).mpr ⟨otherDecoded,
        acceptedPlain⟩
    have acceptedThis : Request.ofJson engine.settings
        (asking others (some (operation name children))) =
          .ok { request with filter := some (.combination operator filters) } :=
      (Request.ofJson_asking_eq_ok_iff unfiltered).mpr ⟨decoded, acceptedPlain⟩
    rw [Engine.query_of_accepted acceptedOther,
      Engine.query_of_accepted acceptedThis]
    refine Engine.execute_of_same_decisions rfl rfl
      (fun candidate => ?_) principal request
    rw [finds]
    refine (Filter.evaluate_decides contains candidate _).eq_of_iff
      (Filter.evaluate_decides contains candidate _) ?_
    exact Filter.selects_combination_congr sameFilters

/-! ## A filter with a scope below an operator -/

namespace Budget

/-- A message in the inbox, the largest one. -/
def large : Candidate :=
  ⟨.bare "m1" ["inbox"] 30, .ofList ["inbox"]⟩

/-- A message in both mailboxes. -/
def middling : Candidate :=
  ⟨.bare "m2" ["inbox", "work"] 20, .ofList ["inbox", "work"]⟩

/-- A message at work, the smallest one. -/
def small : Candidate :=
  ⟨.bare "m3" ["work"] 10, .ofList ["work"]⟩

/-- The messages. -/
def messages : List Message :=
  [small.message, large.message, middling.message]

/-- All messages but the large one contain the term. -/
def contains (_ : TextScope) (term id : String) : Bool :=
  term == "budget" && id != "m1"

/-- An engine that serves the messages. -/
def engine : Engine where
  visible _ := .ok (.ofList ["inbox", "work"])
  listing mailboxes :=
    .ok (messages.filter fun message => message.mailboxIds.meets mailboxes)
  index scope term id := .ok (contains scope term id)
  settings := .standard

/-- The largest messages first. -/
def bySize : SortOrder :=
  ⟨[⟨.size, .descending⟩], List.cons_ne_nil _ _⟩

/-- The other members of the requests. -/
def others : List (String × Json) :=
  [("sort", Json.strings ["size"])]

/-- A filter that looks up one mailbox only, where it stands alone. -/
def inInbox : Json :=
  .obj [("inMailboxes", Json.strings ["inbox"])]

/-- A filter that asks the text index. -/
def mentioning : Json :=
  .obj [("text", .str "budget")]

/-- Below an operator the filter finds what it finds alone, in whatever order
the filters stand. -/
theorem conjunction_combines_findings :
    engine.find "alice" (asking others none) = .ok (some ["m1", "m2", "m3"]) ∧
      engine.find "alice" (asking others (some inInbox)) =
        .ok (some ["m1", "m2"]) ∧
      engine.find "alice" (asking others (some mentioning)) =
        .ok (some ["m2", "m3"]) ∧
      engine.find "alice"
          (asking others (some (operation "AND" [inInbox, mentioning]))) =
        .ok (some ["m2"]) ∧
      (∀ id, id ∈ ["m2"] ↔
        Operator.conjunction.Combines ["m1", "m2", "m3"]
          [["m1", "m2"], ["m2", "m3"]] id) ∧
      engine.query "alice"
          (asking others
            (some (operation "AND" [mentioning, inInbox, mentioning]))) =
        engine.query "alice"
          (asking others (some (operation "AND" [inInbox, mentioning]))) := by
  have sorted : ∀ candidates : List Candidate,
      (candidates.Pairwise fun left right =>
          bySize.precedes left right = true) →
        (.ok (some
            ((Page.slice 0 256 (bySize.apply candidates)).map Candidate.id)) :
            Except Error (Attempt (List String))) =
          .ok (some ((Page.slice 0 256 candidates).map Candidate.id)) :=
    fun _ inOrder => by rw [SortOrder.apply_eq_self inOrder]
  have computedAll : engine.find "alice" (asking others none) =
      .ok (some ["m1", "m2", "m3"]) :=
    sorted [large, middling, small] (by decide)
  have computedInInbox : engine.find "alice" (asking others (some inInbox)) =
      .ok (some ["m1", "m2"]) :=
    sorted [large, middling] (by decide)
  have computedMentioning :
      engine.find "alice" (asking others (some mentioning)) =
      .ok (some ["m2", "m3"]) :=
    sorted [middling, small] (by decide)
  have computedBoth : engine.find "alice"
      (asking others (some (operation "AND" [inInbox, mentioning]))) =
        .ok (some ["m2"]) :=
    sorted [middling] (by decide)
  have computedParts : [inInbox, mentioning].mapM
      (fun child => engine.find "alice" (asking others (some child))) =
        .ok ([["m1", "m2"], ["m2", "m3"]].map some) := by
    simp only [List.mapM_cons, computedInInbox, computedMentioning]
    rfl
  have total : (engine.query "alice" (asking others none)).map (fun reply =>
      reply.map Answer.total) = .ok (some 3) := rfl
  have accepted : ∃ request, Request.ofJson engine.settings
      (asking others (some (operation "AND" [inInbox, mentioning]))) =
          .ok request ∧
        request.position = 0 ∧ request.limit = none ∧
          request.fetchMessages = false :=
    ⟨_, rfl, rfl, rfl, rfl⟩
  obtain ⟨request, accepted, fromStart, unlimited, unfetched⟩ := accepted
  have fits : ∀ answer,
      engine.query "alice" (asking others none) = .ok (some answer) →
      answer.total ≤ request.limit.getD engine.settings.defaultLimit := by
    intro answer answered
    rw [answered] at total
    rw [Option.some.inj (Except.ok.inj total), unlimited]
    decide
  have answers : request.fetchMessages = true →
      ∃ answer, engine.query "alice" (asking others none) =
        .ok (some answer) := by
    rw [unfetched]
    exact nofun
  have serves : Serves engine.listing (· ∈ messages) :=
    serves_filter (by decide)
  obtain ⟨operator, all, parts, combined, named, foundAll, foundParts,
      foundCombined, meaning, -, -,
      -, rearranged⟩ :=
    operators_combine_findings rfl serves rfl (by decide) accepted answers
      fromStart fits
  cases named
  cases computedAll.symm.trans foundAll
  obtain rfl := List.map_injective_iff.mpr (Option.some_injective _)
    (Except.ok.inj (computedParts.symm.trans foundParts))
  cases computedBoth.symm.trans foundCombined
  exact ⟨computedAll, computedInInbox, computedMentioning,
    computedBoth, meaning,
    rearranged [mentioning, inInbox, mentioning] (by simp [or_comm])⟩

end Budget

end Query
end MailSearch
