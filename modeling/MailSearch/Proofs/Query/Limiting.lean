import MailSearch.Proofs.Query.Answering
import MailSearch.Proofs.Query.ListForm
import MailSearch.Proofs.Query.Presentation

/-!
# Requests with another limit

A request is an object, or a list of values in the order in which a request has
its members.  In both forms another limit can be put in the place of the limit
that is there, whatever value that is.  What is accepted then is a request for a
page of that limit, so its answer lists no more messages.
-/

namespace MailSearch
namespace Query

/-- A request with another limit; what is neither an object nor a list has
none. -/
def relimited (limit : Nat) : Json -> Json
  | .obj members =>
      .obj ((members.filter fun member => member.1 != "limit") ++
        [("limit", .nat limit)])
  | .arr items =>
      .arr (items.take 4 ++ List.replicate (4 - items.length) .null ++
        .nat limit :: items.drop 5)
  | other => other

namespace Request

/-- A request is read with its keys sorted. -/
theorem ofJson_sortKeys
    (settings : Settings)
    (value : Json) :
    ofJson settings value.sortKeys = ofJson settings value := by
  unfold ofJson
  rw [Json.sortKeys_sortKeys]

/-- A request has the limit that its last member for limits gives. -/
theorem limit_of_last?
    {settings : Settings}
    {limit : Nat}
    {members : List (String × Json)}
    {request : Request}
    (given : Json.last? "limit" members = some (.nat limit))
    (accepted : ofJson settings (.obj members) = .ok request) :
    request.limit = some limit := by
  have denoted := (ofJson_eq_ok_iff_denotes.mp accepted).limit
  rw [given] at denoted
  generalize request.limit = found at denoted ⊢
  cases denoted with
  | given form =>
      obtain ⟨same, -⟩ := form
      exact congrArg some (Int.ofNat.inj (Json.int.inj same)).symm

/-- Whatever stands for a request, with another limit it stands for one with
this limit. -/
theorem limit_of_relimited
    {settings : Settings}
    {limit : Nat}
    {value : Json}
    {request : Request}
    (accepted : ofJson settings (relimited limit value) = .ok request) :
    request.limit = some limit := by
  cases value with
  | obj members =>
      refine limit_of_last? ?_ accepted
      simp [Json.last?_append, Json.last?]
  | arr items =>
      obtain ⟨-, accepted⟩ := ofJson_arr_eq_ok_iff.mp accepted
      refine limit_of_last? ?_ accepted
      have isFifth :
          (items.take 4 ++ List.replicate (4 - items.length) Json.null).length =
          4 := by
        simp
        omega
      obtain ⟨account, filter, sort, position, before⟩ :=
        List.length_eq_four.mp isFifth
      rw [before, Json.last?_of_distinct (distinct_named _)]
      rfl
  | _ => exact absurd ((ofJson_of_record_error rfl).symm.trans accepted) nofun

end Request

/-- An answer lists as many messages as the limit of its request allows. -/
theorem Engine.length_messageIds_le
    {engine : Engine}
    {principal : String}
    {request : Request}
    {answer : Answer}
    (answered : engine.execute principal request = .ok (some answer)) :
    answer.messageIds.length ≤
      request.limit.getD engine.settings.defaultLimit := by
  obtain ⟨_, selected, -, -, replied⟩ := exists_selected_of_run answered
  rw [(Answer.ofSelected_eq_some_iff.mp replied.symm).messageIds_eq,
    List.length_map]
  exact List.length_take_le _ _

/-- An answer to a request with another limit lists no more messages than
that. -/
theorem Engine.length_messageIds_relimited_le
    {engine : Engine}
    {principal : String}
    {limit : Nat}
    {value : Json}
    {answer : Answer}
    (answered : engine.query principal (relimited limit value) =
      .ok (some answer)) :
    answer.messageIds.length ≤ limit := by
  obtain ⟨request, accepted, executed⟩ := exists_accepted answered
  have bounded := length_messageIds_le executed
  rwa [Request.limit_of_relimited accepted] at bounded

end Query
end MailSearch
