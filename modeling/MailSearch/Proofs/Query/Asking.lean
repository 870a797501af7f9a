import MailSearch.Proofs.Data.Outcome
import MailSearch.Proofs.Json.Value
import MailSearch.Query.Request

/-!
# Requests with another filter or page

The filter, the position and the limit of a request are read as they are,
whatever its other members, and decoded by themselves afterwards.  So a request
with a filter is the request without it and the filter; and a request with a
position and a limit behind its members is the request for that page.
-/

namespace MailSearch
namespace Query

/-- A request that consists of some members and a filter, if there is one. -/
def asking (others : List (String × Json)) : Option Json -> Json
  | none => .obj others
  | some filter => .obj (others ++ [("filter", filter)])

/-- A request with a position and a limit behind its other members. -/
def paged (members : List (String × Json)) (position limit : Nat) : Json :=
  .obj (members ++ [("position", .nat position), ("limit", .nat limit)])

namespace Request

/-! ## Members that are decoded later -/

/-- The members of a request that are read as they are. -/
inductive Deferred where
  | filter
  | position
  | limit

/-- The name of the member. -/
def Deferred.name : Deferred -> String
  | .filter => "filter"
  | .position => "position"
  | .limit => "limit"

namespace Members

/-- What was read of a member. -/
def deferred (members : Members) : Deferred -> Option Json
  | .filter => members.filter
  | .position => members.position
  | .limit => members.limit

/-- The same members with another value for one of them. -/
def defer (members : Members) (member : Deferred) (value : Option Json) :
    Members :=
  match member with
  | .filter => { members with filter := value }
  | .position => { members with position := value }
  | .limit => { members with limit := value }

section Reading

variable {member : Deferred} {name : String}

/-- Reading other members does not look at the member. -/
theorem read_defer
    (other : name ≠ member.name)
    (members : Members)
    (given : Option Json)
    (value : Json) :
    read (members.defer member given) name value =
      (read members name value).map fun found => found.defer member given := by
  have once : ∀ {α : Type} (decoded : Json.Decoded α)
      (put before : α -> Members),
      (∀ found, put found = (before found).defer member given) →
        decoded.map put = (decoded.map before).map fun found =>
          found.defer member given := by
    intro α decoded put before commutes
    cases decoded with
    | error error => rfl
    | ok found => exact congrArg Except.ok (commutes found)
  unfold read
  cases member
  all_goals
    split
    all_goals
      first | rfl | exact absurd rfl other | exact once _ _ _ fun _ => rfl

/-- A member that was not read before is taken as it is. -/
theorem read_deferred
    {members : Members}
    (unread : members.deferred member = none)
    (value : Json) :
    read members member.name value =
      .ok (members.defer member (some value)) := by
  cases member with
  | filter =>
      change (Json.once "filter" members.filter .ok value).map _ = _
      rw [show members.filter = none from unread]
      rfl
  | position =>
      change (Json.once "position" members.position .ok value).map _ = _
      rw [show members.position = none from unread]
      rfl
  | limit =>
      change (Json.once "limit" members.limit .ok value).map _ = _
      rw [show members.limit = none from unread]
      rfl

end Reading

section Records

variable {items : List (String × Json)}

theorem record_cons
    (members : Members)
    (item : String × Json) :
    Json.record layout read members (.obj (item :: items)) =
      (read members item.1 item.2 >>= fun next =>
        Json.record layout read next (.obj items)) := by
  rw [Json.record, List.foldlM_cons]
  rfl

theorem record_defer
    {member : Deferred}
    (others : ∀ item ∈ items, item.1 ≠ member.name)
    (members : Members)
    (given : Option Json) :
    Json.record layout read (members.defer member given) (.obj items) =
      (Json.record layout read members (.obj items)).map fun found =>
        found.defer member given := by
  induction items generalizing members with
  | nil => rfl
  | cons item rest inductionHypothesis =>
      obtain ⟨first, restOthers⟩ := List.forall_mem_cons.mp others
      rw [record_cons, record_cons, read_defer first]
      cases read members item.1 item.2 with
      | error error => rfl
      | ok next => exact inductionHypothesis restOthers next

/-- A member that does not occur is not found. -/
theorem deferred_of_record
    (member : Deferred)
    (others : ∀ item ∈ items, item.1 ≠ member.name)
    {found : Members}
    (decoded : Json.record layout read empty (.obj items) = .ok found) :
    found.deferred member = none := by
  have unchanged := record_defer others empty none
  rw [show empty.defer member none = empty by cases member <;> rfl, decoded]
    at unchanged
  rw [Except.ok.inj unchanged]
  cases member <;> rfl

/-- A member in its place among others is found as it is, and the others as
without it. -/
theorem record_put
    (member : Deferred)
    {front back : List (String × Json)}
    (others : ∀ item ∈ front ++ back, item.1 ≠ member.name)
    (value : Json) :
    Json.record layout read empty
        (.obj (front ++ (member.name, value) :: back)) =
      (Json.record layout read empty (.obj (front ++ back))).map
        fun found => found.defer member (some value) := by
  obtain ⟨frontOthers, backOthers⟩ := List.forall_mem_append.mp others
  rw [Json.record_append, Json.record_append]
  cases decoded : Json.record layout read empty (.obj front) with
  | error error => rfl
  | ok found =>
      change Json.record layout read found
          (.obj ((member.name, value) :: back)) =
        (Json.record layout read found (.obj back)).map _
      rw [record_cons,
        read_deferred (deferred_of_record member frontOthers decoded),
        ← record_defer backOthers]
      rfl

/-- A member that is put among ascending ones is found as it is, in place of
another value. -/
theorem record_insertMember
    (member : Deferred)
    (ascending : items.Pairwise fun left right => left.1 < right.1)
    {found : Members}
    (decoded : Json.record layout read empty (.obj items) = .ok found)
    (value : Json) :
    Json.record layout read empty
        (.obj (Json.insertMember member.name value items)) =
      .ok (found.defer member (some value)) := by
  obtain ⟨front, back, others, split, inserted⟩ :=
    Json.exists_insertMember_eq ascending member.name
  rw [inserted, record_put member others]
  rcases split with rfl | ⟨present, rfl⟩
  · rw [decoded]
    rfl
  · rw [record_put member others] at decoded
    obtain ⟨plain, decodedPlain, rfl⟩ := Outcome.exists_of_map_eq_ok decoded
    rw [decodedPlain]
    cases member <;> rfl

end Records

/-- The other members are read as without the filter, wherever the filter stands
among them. -/
theorem record_asking
    {others : List (String × Json)}
    (unfiltered : ∀ member ∈ others, member.1 ≠ "filter")
    (filter : Json) :
    Json.record layout read empty (asking others (some filter)).sortKeys =
      (Json.record layout read empty (asking others none).sortKeys).map
        fun found => found.defer .filter (some filter.sortKeys) := by
  have absent : ∀ member ∈ Json.sortMembers [] others, member.1 ≠ "filter" :=
    Json.forall_sortMembers_ne (List.forall_mem_nil _) unfiltered
  have ascending := Json.pairwise_sortMembers List.Pairwise.nil others
  obtain ⟨front, back, elsewhere, split, inserted⟩ :=
    Json.exists_insertMember_eq ascending "filter"
  rw [asking, asking, Json.sortKeys, Json.sortKeys,
    Json.sortMembers_append_singleton, inserted]
  rcases split with split | ⟨present, split⟩
  · rw [split]
    exact record_put .filter elsewhere filter.sortKeys
  · refine absurd rfl (absent ("filter", present) ?_)
    rw [split]
    exact List.mem_append_right front List.mem_cons_self

/-- The request that some members stand for without their filter. -/
def unfiltered (members : Members) : Except Invalid Request := do
  let sort ← sortOf members.sort.join
  let position ← Page.position members.position
  let limit ← Page.bound "limit" members.limit
  let properties ← propertiesOf members.properties.join
  return {
    accountId := members.accountId.join
    filter := none
    sort := sort
    position := position
    limit := limit
    collapseThreads := members.collapseThreads.getD false
    fetchMessages := members.fetchMessages.getD false
    properties := properties }

end Members

section Decoding

variable {settings : Settings} {value : Json}

theorem ofJson_of_record_error
    {error : Json.DecodeError}
    (failed : Json.record Members.layout Members.read .empty value.sortKeys =
      .error error) :
    ofJson settings value = .error (.layout error) := by
  unfold ofJson
  rw [failed]
  rfl

/-- The filter is decoded first, and nothing else depends on it. -/
theorem ofJson_of_record
    {members : Members}
    (decoded : Json.record Members.layout Members.read .empty value.sortKeys =
      .ok members) :
    ofJson settings value =
      (filterOf settings.maxFilterDepth members.filter >>= fun filter =>
        members.unfiltered.map fun request =>
          { request with filter := filter }) := by
  unfold ofJson Members.unfiltered
  rw [decoded]
  simp only [bind, Except.bind]
  cases filterOf settings.maxFilterDepth members.filter with
  | error cause => rfl
  | ok filter =>
      cases sortOf members.sort.join with
      | error cause => rfl
      | ok sort =>
          cases Page.position members.position with
          | error cause => rfl
          | ok position =>
              cases Page.bound "limit" members.limit with
              | error cause => rfl
              | ok limit => cases propertiesOf members.properties.join <;> rfl

end Decoding

/-- A request with a filter is the request without it and the filter. -/
theorem ofJson_asking_eq_ok_iff
    {settings : Settings}
    {others : List (String × Json)}
    (unfiltered : ∀ member ∈ others, member.1 ≠ "filter")
    {filter : Json}
    {request : Request} :
    ofJson settings (asking others (some filter)) = .ok request ↔
      filterOf settings.maxFilterDepth (some filter.sortKeys) =
          .ok request.filter ∧
        ofJson settings (asking others none) =
          .ok { request with filter := none } := by
  have recorded := Members.record_asking unfiltered filter
  cases read : Json.record Members.layout Members.read .empty
    (asking others none).sortKeys with
  | error error =>
      rw [read] at recorded
      rw [ofJson_of_record_error read, ofJson_of_record_error recorded]
      exact ⟨nofun, nofun⟩
  | ok found =>
      rw [read] at recorded
      have noFilter : found.filter = none :=
        Members.deferred_of_record .filter
          (Json.forall_sortMembers_ne (List.forall_mem_nil _) unfiltered) read
      rw [ofJson_of_record recorded, ofJson_of_record read, noFilter]
      change (filterOf settings.maxFilterDepth (some filter.sortKeys) >>=
          fun decoded =>
          found.unfiltered.map _) = _ ↔
        _ ∧ found.unfiltered.map _ = _
      cases filterOf settings.maxFilterDepth (some filter.sortKeys) with
      | error cause => exact ⟨nofun, fun absurd => nomatch absurd.1⟩
      | ok decoded =>
          cases found.unfiltered with
          | error cause => exact ⟨nofun, fun absurd => nomatch absurd.2⟩
          | ok plain =>
              cases plain
              cases request
              change Except.ok _ = _ ↔ Except.ok _ = _ ∧ Except.ok _ = _
              simp only [Except.ok.injEq, mk.injEq, true_and]
              exact and_left_comm

/-! ## Pages -/

/-- The same request for a page. -/
def page (request : Request) (position limit : Nat) : Request :=
  { request with position := position, limit := some limit }

theorem Members.unfiltered_of_page
    {members : Members}
    {plain : Request}
    (decoded : members.unfiltered = .ok plain)
    {position limit : Nat}
    (positionFits : position ≤ Page.greatest)
    (limitFits : limit ≤ Page.greatest) :
    ((members.defer .position (some (.nat position))).defer .limit
      (some (.nat limit))).unfiltered = .ok (plain.page position limit) := by
  have bounded : ∀ name number, number ≤ Page.greatest →
      Page.bound name (some (.nat number)) = .ok (some number) := by
    intro name number fits
    exact if_pos ⟨Int.natCast_nonneg number, Int.ofNat_le.mpr fits⟩
  unfold unfiltered at decoded ⊢
  obtain ⟨sort, sorted, decoded⟩ := Outcome.exists_of_bind_eq_ok decoded
  obtain ⟨_, -, decoded⟩ := Outcome.exists_of_bind_eq_ok decoded
  obtain ⟨_, -, decoded⟩ := Outcome.exists_of_bind_eq_ok decoded
  obtain ⟨properties, selected, decoded⟩ := Outcome.exists_of_bind_eq_ok decoded
  cases decoded
  change (sortOf members.sort.join >>= fun sort =>
    Page.position (some (.nat position)) >>= fun position =>
      Page.bound "limit" (some (.nat limit)) >>= fun limit =>
        propertiesOf members.properties.join >>= fun properties => _) = _
  rw [sorted, Page.position, bounded _ _ positionFits,
    bounded _ _ limitFits, selected]
  rfl

/-- A position and a limit behind its members make an accepted request one for
that page. -/
theorem ofJson_paged
    {settings : Settings}
    {members : List (String × Json)}
    {request : Request}
    (accepted : ofJson settings (.obj members) = .ok request)
    {position limit : Nat}
    (positionFits : position ≤ Page.greatest)
    (limitFits : limit ≤ Page.greatest) :
    ofJson settings (paged members position limit) =
      .ok (request.page position limit) := by
  have ascending := Json.pairwise_sortMembers List.Pairwise.nil members
  cases read : Json.record Members.layout Members.read .empty
    (Json.obj members).sortKeys with
  | error error =>
      rw [ofJson_of_record_error read] at accepted
      cases accepted
  | ok found =>
      have readPosition :=
        Members.record_insertMember .position ascending read (.nat position)
      have readBoth := Members.record_insertMember .limit
        (by
          rw [Json.insertMember_eq_insertSorted];
            exact IdMap.pairwise_insertSorted ascending)
        readPosition (.nat limit)
      have recorded : Json.record Members.layout Members.read .empty
          (paged members position limit).sortKeys =
            .ok ((found.defer .position (some (.nat position))).defer .limit
              (some (.nat limit))) := by
        rw [paged, List.append_cons, Json.sortKeys,
          Json.sortMembers_append_singleton, Json.sortMembers_append_singleton]
        exact readBoth
      rw [ofJson_of_record read] at accepted
      rw [ofJson_of_record recorded]
      obtain ⟨filter, decodedFilter, accepted⟩ :=
        Outcome.exists_of_bind_eq_ok accepted
      obtain ⟨plain, decodedPlain, rfl⟩ := Outcome.exists_of_map_eq_ok accepted
      rw [Members.unfiltered_of_page decodedPlain positionFits limitFits]
      change (filterOf settings.maxFilterDepth found.filter >>= _) = _
      rw [decodedFilter]
      rfl

end Request
end Query
end MailSearch
