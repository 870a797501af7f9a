import MailSearch.Query.Predicate

/-!
# Filters

A filter is a condition, whose predicates must all hold, or an operator over
filters. `Selects` says which candidates a filter is meant to select; `evaluate`
finds out with as few questions to the text index as it can, and stops at the
first failure of the index.
-/

namespace MailSearch
namespace Query

/-- How an operator combines filters. -/
inductive Operator where
  /-- All of them. -/
  | conjunction
  /-- One of them at least. -/
  | disjunction
  /-- None of them. -/
  | exclusion
  deriving DecidableEq, Repr

namespace Operator

/-- The operators by their names in requests. -/
def names : List (String × Operator) :=
  [("AND", .conjunction), ("OR", .disjunction), ("NOT", .exclusion)]

/-- The operator with a name. -/
def ofName (name : String) : Except Invalid Operator :=
  match names.lookup name with
  | some operator => .ok operator
  | none => .error (.unknownOperator name)

end Operator

/-- A filter. -/
inductive Filter where
  /-- All predicates hold. -/
  | condition (predicates : List Predicate)
  /-- The filters below hold as the operator says. -/
  | combination (operator : Operator) (filters : List Filter)

namespace Filter

/-! ## Decoding -/

/--
The predicates of a condition: those that do not ask the text index come first,
and both kinds keep their order.
-/
def arrange (predicates : List Predicate) : List Predicate :=
  predicates.filter (fun predicate => !predicate.asksIndex) ++
    predicates.filter Predicate.asksIndex

/-- Decode a condition; properties that are `null` do not count. -/
def conditionOf (members : List (String × Json)) : Except Invalid Filter := do
  let given := members.filter fun member => !member.2.isNull
  let predicates ← given.mapM fun member =>
      Predicate.ofProperty member.1 member.2
  return .condition (arrange predicates)

/-- The name of the operator and the filters below it, as far as they were
read. -/
structure OperatorMembers where
  /-- The operator. -/
  operator : Option Operator
  /-- The filters below it. -/
  filters : List Json

namespace OperatorMembers

/-- Read one member. -/
def read (found : OperatorMembers) (member : String × Json) :
    Except Invalid OperatorMembers :=
  match member with
  | ("operator", .str name) => (Operator.ofName name).map fun operator =>
      { found with operator := some operator }
  | ("operator", _) => .error .operatorShape
  | ("conditions", .arr filters) => .ok { found with filters := filters }
  | ("conditions", _) => .error .conditionsShape
  | (property, _) => .error (.unknownOperatorProperty property)

end OperatorMembers

/--
Decode a filter in which operators may nest to `levels` more levels; `limit` is
the number that the rejection of a deeper one names.
-/
def decode (limit levels : Nat) (value : Json) : Except Invalid Filter :=
  match value with
  | .obj members =>
      if (Json.member? "operator" members).isNone then conditionOf members
      else
        match levels with
        | 0 => .error (.depth limit)
        | levels + 1 => do
            let found ← members.foldlM OperatorMembers.read ⟨none, []⟩
            match found.operator, found.filters with
            | some operator, first :: rest =>
                return .combination operator
                  (← (first :: rest).mapM (decode limit levels))
            | _, _ => .error .noConditions
  | _ => .error .filterShape

/-- Decode a filter in which operators may nest to a number of levels. -/
def ofJson (limit : Nat) (value : Json) : Except Invalid Filter :=
  decode limit limit value.sortKeys

/-! ## Scope -/

/-- The mailboxes that the candidates of a filter must lie in, if it is a
condition that says so. -/
def scope? : Filter -> Option IdSet
  | .condition predicates =>
      predicates.findSome? fun predicate =>
        match predicate with
        | .inMailboxes ids => some ids
        | _ => none
  | .combination _ _ => none

/-! ## Evaluation -/

/-- Whether all predicates hold; the first that does not ends the evaluation. -/
def evaluateAll (index : Predicate.Index) (candidate : Candidate) :
    List Predicate -> Except Error Bool
  | [] => .ok true
  | predicate :: rest => do
      if ← predicate.evaluate index candidate then
        evaluateAll index candidate rest
      else return false

mutual

/-- Whether a filter selects a candidate, or the failure of the text index. -/
def evaluate (index : Predicate.Index) (candidate : Candidate) :
    Filter -> Except Error Bool
  | .condition predicates => evaluateAll index candidate predicates
  | .combination .conjunction filters => evaluateEvery index candidate filters
  | .combination .disjunction filters => evaluateSome index candidate filters
  | .combination .exclusion filters =>
      (evaluateSome index candidate filters).map (!·)

/-- Whether every filter selects a candidate; the first that does not ends the
evaluation. -/
def evaluateEvery (index : Predicate.Index) (candidate : Candidate) :
    List Filter -> Except Error Bool
  | [] => .ok true
  | filter :: rest => do
      if ← evaluate index candidate filter then
        evaluateEvery index candidate rest
      else return false

/-- Whether some filter selects a candidate; the first that does ends the
evaluation. -/
def evaluateSome (index : Predicate.Index) (candidate : Candidate) :
    List Filter -> Except Error Bool
  | [] => .ok false
  | filter :: rest => do
      if ← evaluate index candidate filter then return true
      else evaluateSome index candidate rest

end

/-- Whether an optional filter selects a candidate; without a filter every
candidate is selected. -/
def evaluate? (index : Predicate.Index) (candidate : Candidate) :
    Option Filter -> Except Error Bool
  | none => .ok true
  | some filter => filter.evaluate index candidate

/-! ## Meaning -/

/-- Whether a predicate is true of a candidate, where `contains` answers
full-text searches. -/
def isTrue (contains : TextScope -> String -> String -> Bool)
    (candidate : Candidate)
    (predicate : Predicate) : Prop :=
  match predicate.search? with
  | some (scope, term) => contains scope term candidate.id = true
  | none => predicate.holds candidate = true

mutual

/-- Which candidates a filter is meant to select. -/
def Selects (contains : TextScope -> String -> String -> Bool)
    (candidate : Candidate) :
    Filter -> Prop
  | .condition predicates =>
      ∀ predicate ∈ predicates, isTrue contains candidate predicate
  | .combination .conjunction filters =>
      ∀ meaning ∈ meanings contains candidate filters, meaning
  | .combination .disjunction filters =>
      ∃ meaning ∈ meanings contains candidate filters, meaning
  | .combination .exclusion filters =>
      ∀ meaning ∈ meanings contains candidate filters, ¬ meaning

/-- What each of some filters says of a candidate. -/
def meanings (contains : TextScope -> String -> String -> Bool)
    (candidate : Candidate) :
    List Filter -> List Prop
  | [] => []
  | filter :: rest =>
      Selects contains candidate filter :: meanings contains candidate rest

end

theorem meanings_eq_map (contains : TextScope -> String -> String -> Bool)
    (candidate : Candidate) (filters : List Filter) :
    meanings contains candidate filters =
      filters.map (Selects contains candidate) := by
  induction filters with
  | nil => simp [meanings]
  | cons filter rest ih => simp [meanings, ih]

end Filter
end Query
end MailSearch
