import MailSearch.Proofs.Data.Outcome
import MailSearch.Proofs.Json.Value
import MailSearch.Query.Request

/-!
# Members of requests

Reading a member looks at its own slot only and fills it.  So the members of a
request are read exactly if each is known and its value is decoded, and every
slot then holds what its member was decoded to.
-/

namespace MailSearch
namespace Query
namespace Request

/-- What can be a member of a request. -/
inductive Slot where
  | accountId
  | filter
  | sort
  | position
  | limit
  | collapseThreads
  | fetchMessages
  | properties
  | fetchThreads
  | fetchSnippets

namespace Slot

/-- The name of the member. -/
def name : Slot -> String
  | .accountId => "accountId"
  | .filter => "filter"
  | .sort => "sort"
  | .position => "position"
  | .limit => "limit"
  | .collapseThreads => "collapseThreads"
  | .fetchMessages => "fetchMessages"
  | .properties => "fetchMessageProperties"
  | .fetchThreads => "fetchThreads"
  | .fetchSnippets => "fetchSearchSnippets"

/-- What the value of the member is decoded to. -/
def Value : Slot -> Type
  | .accountId => Option String
  | .filter => Json
  | .sort => Option (List String)
  | .position => Json
  | .limit => Json
  | .collapseThreads => Bool
  | .fetchMessages => Bool
  | .properties => Option (List String)
  | .fetchThreads => Bool
  | .fetchSnippets => Bool

/-- Decode the value of the member. -/
def decode : (slot : Slot) -> Json -> Json.Decoded slot.Value
  | .accountId => Json.nullable Json.string
  | .filter => .ok
  | .sort => Json.nullable (Json.list Json.string)
  | .position => .ok
  | .limit => .ok
  | .collapseThreads => Json.boolean
  | .fetchMessages => Json.boolean
  | .properties => Json.nullable (Json.list Json.string)
  | .fetchThreads => Json.boolean
  | .fetchSnippets => Json.boolean

/-- The member with a name. -/
def ofName? (name : String) : Option Slot :=
  [accountId, filter, sort, position, limit, collapseThreads, fetchMessages,
    properties, fetchThreads, fetchSnippets].find? fun slot => slot.name == name

theorem ofName?_name
    (slot : Slot) :
    ofName? slot.name = some slot := by
  cases slot <;> rfl

theorem name_injective : Function.Injective name := by
  intro left right same
  have found := ofName?_name left
  rw [same, ofName?_name right] at found
  exact (Option.some.inj found).symm

end Slot

namespace Members

/-- What was read of a member. -/
def get (members : Members) : (slot : Slot) -> Option slot.Value
  | .accountId => members.accountId
  | .filter => members.filter
  | .sort => members.sort
  | .position => members.position
  | .limit => members.limit
  | .collapseThreads => members.collapseThreads
  | .fetchMessages => members.fetchMessages
  | .properties => members.properties
  | .fetchThreads => members.fetchThreads
  | .fetchSnippets => members.fetchSnippets

/-- The same members with another value for one of them. -/
def set (members : Members) : (slot : Slot) -> Option slot.Value -> Members
  | .accountId, value => { members with accountId := value }
  | .filter, value => { members with filter := value }
  | .sort, value => { members with sort := value }
  | .position, value => { members with position := value }
  | .limit, value => { members with limit := value }
  | .collapseThreads, value => { members with collapseThreads := value }
  | .fetchMessages, value => { members with fetchMessages := value }
  | .properties, value => { members with properties := value }
  | .fetchThreads, value => { members with fetchThreads := value }
  | .fetchSnippets, value => { members with fetchSnippets := value }

@[simp] theorem get_empty
    (slot : Slot) :
    empty.get slot = none := by
  cases slot <;> rfl

@[simp] theorem get_set
    (members : Members)
    (slot : Slot)
    (value : Option slot.Value) :
    (members.set slot value).get slot = value := by
  cases slot <;> rfl

theorem get_set_of_ne
    (members : Members)
    {slot other : Slot}
    (differs : other ≠ slot)
    (value : Option slot.Value) :
    (members.set slot value).get other = members.get other := by
  cases slot
  all_goals
    cases other
    all_goals first | rfl | exact absurd rfl differs

/-- A member is decoded and put into its slot, which must be empty. -/
theorem read_name
    (members : Members)
    (slot : Slot)
    (value : Json) :
    read members slot.name value =
      (Json.once slot.name (members.get slot) slot.decode value).map
        (members.set slot) := by
  cases slot <;> rfl

/-- Only members that are known are read. -/
theorem exists_slot_of_read
    {members next : Members}
    {name : String}
    {value : Json}
    (read : Members.read members name value = .ok next) :
    ∃ slot : Slot, slot.name = name := by
  unfold Members.read at read
  split at read
  · exact ⟨.accountId, rfl⟩
  · exact ⟨.filter, rfl⟩
  · exact ⟨.sort, rfl⟩
  · exact ⟨.position, rfl⟩
  · exact ⟨.limit, rfl⟩
  · exact ⟨.collapseThreads, rfl⟩
  · exact ⟨.fetchMessages, rfl⟩
  · exact ⟨.properties, rfl⟩
  · exact ⟨.fetchThreads, rfl⟩
  · exact ⟨.fetchSnippets, rfl⟩
  · cases read

/-! ## Reading all members -/

/-- What a slot holds after its member was looked for: what it held, or what the
member says. -/
def Takes (slot : Slot) (before : Option slot.Value) (given : Option Json)
    (after : Option slot.Value) : Prop :=
  match given with
  | none => after = before
  | some value => before = none ∧ ∃ meaning, slot.decode value = .ok meaning ∧
      after = some meaning

theorem read_eq_ok_iff
    {members next : Members}
    {slot : Slot}
    {value : Json} :
    read members slot.name value = .ok next ↔
      members.get slot = none ∧ ∃ meaning, slot.decode value = .ok meaning ∧
        members.set slot (some meaning) = next := by
  rw [read_name, Outcome.map_eq_ok_iff]
  cases members.get slot with
  | some held => simp [Json.once]
  | none =>
      simp only [Json.once, Outcome.map_eq_ok_iff, true_and]
      constructor
      · rintro ⟨_, ⟨meaning, decoded, rfl⟩, rfl⟩
        exact ⟨meaning, decoded, rfl⟩
      · rintro ⟨meaning, decoded, rfl⟩
        exact ⟨_, ⟨meaning, decoded, rfl⟩, rfl⟩

/-- Members are equal if all their slots hold the same. -/
theorem ext_get
    {left right : Members}
    (same : ∀ slot, left.get slot = right.get slot) :
    left = right := by
  obtain ⟨⟩ := left
  obtain ⟨⟩ := right
  simp only [mk.injEq]
  exact ⟨same .accountId, same .filter, same .sort, same .position, same .limit,
    same .collapseThreads, same .fetchMessages, same .properties,
      same .fetchThreads,
    same .fetchSnippets⟩

/-- The slots can hold anything. -/
theorem exists_get_eq
    (value : (slot : Slot) -> Option slot.Value) :
    ∃ members : Members, ∀ slot, members.get slot = value slot := by
  refine ⟨⟨value .accountId, value .filter, value .sort, value .position,
    value .limit, value .collapseThreads, value .fetchMessages,
    value .properties, value .fetchThreads,
    value .fetchSnippets⟩, fun slot => ?_⟩
  cases slot <;> rfl

/-- A member that does not occur again is taken up before the others. -/
theorem takes_cons_iff
    {before after : Members}
    {slot : Slot}
    {value : Json}
    {meaning : slot.Value}
    {rest : List (String × Json)}
    (empty : before.get slot = none)
    (decoded : slot.decode value = .ok meaning)
    (once : Json.member? slot.name rest = none)
    (other : Slot) :
    Takes other (before.get other)
        (Json.member? other.name ((slot.name, value) :: rest))
        (after.get other) ↔
      Takes other ((before.set slot (some meaning)).get other)
          (Json.member? other.name rest)
        (after.get other) := by
  by_cases same : other = slot
  · subst same
    simp [Takes, Json.member?, once, empty, decoded]
  · have differs : slot.name ≠ other.name :=
      fun equal => same (Slot.name_injective equal).symm
    rw [Json.member?, if_neg differs, get_set_of_ne before same]

/-- Members with different names are read if each is known and taken up by its
slot. -/
theorem foldlM_read_eq_ok_iff
    {items : List (String × Json)}
    (distinct : items.Pairwise fun left right => left.1 ≠ right.1)
    {before after : Members} :
    items.foldlM (fun members (name, value) => read members name value) before =
        .ok after ↔
      (∀ item ∈ items, ∃ slot : Slot, slot.name = item.1) ∧
        ∀ slot, Takes slot (before.get slot) (Json.member? slot.name items)
          (after.get slot) := by
  -- What is read of the first member is what the others start from.
  induction items generalizing before with
  | nil =>
      simp only [List.foldlM_nil, List.not_mem_nil, false_implies,
        implies_true, true_and, Json.member?, Takes]
      constructor
      · intro ended slot
        cases ended
        rfl
      · intro same
        rw [ext_get same]
        rfl
  | cons item rest inductionHypothesis =>
      obtain ⟨name, value⟩ := item
      obtain ⟨unlike, distinctRest⟩ := List.pairwise_cons.mp distinct
      have once : Json.member? name rest = none :=
        Json.member?_eq_none_iff.mpr fun member isMember =>
          (unlike member isMember).symm
      rw [List.foldlM_cons, List.forall_mem_cons]
      constructor
      · intro ended
        obtain ⟨next, first, later⟩ := Outcome.exists_of_bind_eq_ok ended
        obtain ⟨slot, rfl⟩ := exists_slot_of_read first
        obtain ⟨empty, meaning, decoded, rfl⟩ := read_eq_ok_iff.mp first
        obtain ⟨known, takes⟩ := (inductionHypothesis distinctRest).mp later
        refine ⟨⟨⟨slot, rfl⟩, known⟩, fun other => ?_⟩
        exact (takes_cons_iff empty decoded once other).mpr (takes other)
      · rintro ⟨⟨⟨slot, named⟩, known⟩, takes⟩
        obtain rfl : slot.name = name := named
        have first := takes slot
        rw [Json.member?, if_pos rfl] at first
        obtain ⟨empty, meaning, decoded, -⟩ := first
        have taken : read before slot.name value =
            .ok (before.set slot (some meaning)) :=
          read_eq_ok_iff.mpr ⟨empty, meaning, decoded, rfl⟩
        change (read before slot.name value >>= _) = _
        rw [taken]
        apply (inductionHypothesis distinctRest).mpr
        exact ⟨known, fun other =>
          (takes_cons_iff empty decoded once other).mp (takes other)⟩

/-- A request's members are read if each is known and its value is decoded into
its slot. -/
theorem record_eq_ok_iff
    {items : List (String × Json)}
    {found : Members} :
    Json.record layout read empty (Json.obj items).sortKeys = .ok found ↔
      (∀ name, Json.last? name items ≠ none → ∃ slot : Slot, slot.name = name) ∧
        ∀ slot, Option.Rel
            (fun value meaning => slot.decode value.sortKeys = .ok meaning)
          (Json.last? slot.name items) (found.get slot) := by
  have distinct := Json.distinct_sortMembers items
  rw [Json.sortKeys, Json.record]
  refine (foldlM_read_eq_ok_iff distinct).trans
    (and_congr ?_ (forall_congr' fun slot => ?_))
  · constructor
    · intro each name given
      obtain ⟨value, given⟩ := Option.ne_none_iff_exists'.mp given
      exact each (name, value.sortKeys) (Json.mem_sortMembers_iff.mpr
        ⟨value, given, rfl⟩)
    · rintro each ⟨name, sorted⟩ isMember
      obtain ⟨value, given, -⟩ := Json.mem_sortMembers_iff.mp isMember
      apply each name
      simp [given]
  · rw [Json.member?_sortMembers, Json.member?, Option.or_none, get_empty]
    cases Json.last? slot.name items with
    | none => cases found.get slot <;> simp [Takes]
    | some value => cases found.get slot <;> simp [Takes, eq_comm]

end Members
end Request
end Query
end MailSearch
