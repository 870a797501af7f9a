import MailSearch.Proofs.Data.Outcome
import MailSearch.Proofs.Json.Value
import MailSearch.Query.Request

/-!
# Nesting of filters

What an operator over some filters decodes to.  The filters below it are decoded
with one level less than the operator, and a filter that is accepted is accepted
with more levels, as the same filter: so what is accepted below an operator is
also accepted alone.
-/

namespace MailSearch
namespace Query

/-- An operator over some filters as a client sends it. -/
def operation (name : String) (children : List Json) : Json :=
  .obj [("operator", .str name), ("conditions", .arr children)]

/-- The members of an operator with ascending keys. -/
theorem sortKeys_operation
    (name : String)
    (children : List Json) :
    (operation name children).sortKeys =
      .obj [("conditions", .arr (children.map Json.sortKeys)),
        ("operator", .str name)] := by
  rw [← Json.sortItems_eq_map]
  rfl

namespace Filter

section Decoding

variable {limit levels : Nat}

theorem decode_of_no_operator
    {members : List (String × Json)}
    (plain : Json.member? "operator" members = none) :
    decode limit levels (.obj members) = conditionOf members := by
  rw [decode.eq_def]
  simp only [plain, Option.isNone_none, if_true]

/-- An operator needs a level for itself and leaves the others to the filters
below it. -/
theorem decode_operator_eq_ok_iff
    {members : List (String × Json)}
    (nested : Json.member? "operator" members ≠ none)
    {filter : Filter} :
    decode limit levels (.obj members) = .ok filter ↔
      ∃ below operator children filters, levels = below + 1 ∧
        members.foldlM OperatorMembers.read ⟨none, []⟩ =
          .ok ⟨some operator, children⟩ ∧
        children ≠ [] ∧ children.mapM (decode limit below) = .ok filters ∧
        combination operator filters = filter := by
  have shape : (Json.member? "operator" members).isNone = false := by
    rw [Option.isNone_eq_false_iff, Option.isSome_iff_ne_none]
    exact nested
  rw [decode.eq_def]
  simp only [shape, Bool.false_eq_true, if_false]
  cases levels with
  | zero => simp
  | succ below =>
      constructor
      · intro decoded
        obtain ⟨⟨operator?, children⟩, found, decoded⟩ :=
          Outcome.exists_of_bind_eq_ok decoded
        cases operator? with
        | none => cases decoded
        | some operator =>
            cases children with
            | nil => cases decoded
            | cons first rest =>
                obtain ⟨filters, each, combined⟩ :=
                  Outcome.exists_of_bind_eq_ok decoded
                cases combined
                exact ⟨below, operator, first :: rest, filters, rfl, found,
                  List.cons_ne_nil first rest, each, rfl⟩
      · rintro ⟨same, operator, children, filters, levelsEq, found, nonempty,
            each, rfl⟩
        cases levelsEq
        obtain ⟨first, rest, rfl⟩ := List.exists_cons_of_ne_nil nonempty
        rw [found]
        change (do
          return combination operator
            (← (first :: rest).mapM (decode limit below))) = _
        rw [each]
        rfl

/-- A filter that is accepted is accepted with one level more, as the same
filter. -/
theorem decode_succ
    {value : Json}
    {filter : Filter}
    (decoded : decode limit levels value = .ok filter) :
    decode limit (levels + 1) value = .ok filter := by
  induction levels using Nat.strongRecOn generalizing value filter with
  | ind levels inductionHypothesis =>
      cases value with
      | obj members =>
          by_cases plain : Json.member? "operator" members = none
          · rw [decode_of_no_operator plain] at decoded ⊢
            exact decoded
          · rw [decode_operator_eq_ok_iff plain] at decoded ⊢
            obtain ⟨below, operator, children, filters, rfl, found, nonempty,
                each, combined⟩ :=
              decoded
            refine ⟨below + 1, operator, children, filters, rfl, found,
              nonempty, ?_, combined⟩
            refine Outcome.mapM_eq_ok_of_confirmed
              (fun child _ filter accepted => ?_) each
            exact inductionHypothesis below (Nat.lt_succ_self below) accepted
      | _ =>
          rw [decode.eq_def] at decoded
          cases decoded

end Decoding

theorem decode_operation_eq_ok_iff
    {limit levels : Nat}
    {name : String}
    {children : List Json}
    {filter : Filter} :
    decode limit levels (.obj [("conditions", .arr children),
        ("operator", .str name)]) =
        .ok filter ↔
      ∃ below operator filters, levels = below + 1 ∧
        Operator.ofName name = .ok operator ∧
        children ≠ [] ∧ children.mapM (decode limit below) = .ok filters ∧
        combination operator filters = filter := by
  have nested : Json.member? "operator" [("conditions", .arr children),
      ("operator", .str name)] ≠
      none := nofun
  have members : [("conditions", .arr children), ("operator", .str name)].foldlM
      OperatorMembers.read ⟨none, []⟩ =
        (Operator.ofName name).map fun operator =>
          ⟨some operator, children⟩ := by
    change ((Operator.ofName name).map fun operator => _) >>= pure = _
    cases Operator.ofName name <;> rfl
  rw [decode_operator_eq_ok_iff nested, members]
  cases Operator.ofName name with
  | error cause => simp [Except.map]
  | ok operator =>
      simp only [Except.map, Except.ok.injEq, OperatorMembers.mk.injEq,
        Option.some.injEq]
      constructor
      · rintro ⟨below, _, _, filters, levelsEq, ⟨rfl, rfl⟩, accepted⟩
        exact ⟨below, operator, filters, levelsEq, rfl, accepted⟩
      · rintro ⟨below, _, filters, levelsEq, rfl, accepted⟩
        exact ⟨below, operator, children, filters, levelsEq,
          ⟨rfl, rfl⟩, accepted⟩

end Filter

namespace Request

/-! ## Filters as members of requests -/

/-- A value as the member of a request that takes filters of some depth stands
for a filter. -/
def StandsFor (depth : Nat) (value : Json) (filter : Filter) : Prop :=
  filterOf depth (some value.sortKeys) = .ok (some filter)

/-- The keys of a member are sorted with the request, and once more with the
filter. -/
theorem standsFor_of_decode
    {depth : Nat}
    {value : Json}
    {filter : Filter}
    (decoded : Filter.decode depth depth value.sortKeys.sortKeys = .ok filter) :
    StandsFor depth value filter := by
  have shape : filterOf depth (some value.sortKeys) =
      (Filter.ofJson depth value.sortKeys).map some := by
    cases value with
    | null =>
        rw [Json.sortKeys, Json.sortKeys, Filter.decode.eq_def] at decoded
        cases decoded
    | _ => rfl
  rw [StandsFor, shape, Filter.ofJson, decoded]
  rfl

theorem filterOf_operation
    (depth : Nat)
    (name : String)
    (children : List Json) :
    filterOf depth (some (operation name children).sortKeys) =
      (Filter.decode depth depth (.obj [("conditions",
        .arr (children.map fun child => child.sortKeys.sortKeys)),
          ("operator", .str name)])).map
        some := by
  have again : Json.sortKeys
      (.obj [("conditions", .arr (children.map Json.sortKeys)),
          ("operator", .str name)]) =
        .obj [("conditions",
            .arr (Json.sortItems (children.map Json.sortKeys))),
          ("operator", .str name)] :=
    rfl
  rw [sortKeys_operation, filterOf, Filter.ofJson, again, Json.sortItems_eq_map,
    List.map_map]
  · rfl
  · exact nofun

/-- The filters below an accepted operator are accepted alone, and the operator
is over them. -/
theorem exists_filters_of_operation
    {depth : Nat}
    {name : String}
    {children : List Json}
    {filter? : Option Filter}
    (accepted : filterOf depth (some (operation name children).sortKeys) =
      .ok filter?) :
    ∃ operator filters, Operator.ofName name = .ok operator ∧ children ≠ [] ∧
      filter? = some (.combination operator filters) ∧
      (∀ child ∈ children, ∃ filter ∈ filters, StandsFor depth child filter) ∧
      (∀ filter ∈ filters, ∃ child ∈ children,
        StandsFor depth child filter) := by
  rw [filterOf_operation] at accepted
  obtain ⟨filter, decoded, rfl⟩ := Outcome.exists_of_map_eq_ok accepted
  obtain ⟨below, operator, filters, rfl, named, nonempty, each, rfl⟩ :=
    Filter.decode_operation_eq_ok_iff.mp decoded
  have alone : ∀ child filter,
      Filter.decode (below + 1) below child.sortKeys.sortKeys = .ok filter →
        StandsFor (below + 1) child filter :=
    fun _ _ decoded => standsFor_of_decode (Filter.decode_succ decoded)
  refine ⟨operator, filters, named,
    mt (fun none => by rw [none, List.map_nil]) nonempty, rfl,
    fun child isChild => ?_, fun filter isFilter => ?_⟩
  · have isItem : child.sortKeys.sortKeys ∈ children.map fun child =>
        child.sortKeys.sortKeys :=
      List.mem_map_of_mem isChild
    obtain ⟨filter, decoded⟩ := Outcome.exists_of_mapM_eq_ok each _ isItem
    exact ⟨filter, (Outcome.mem_results_iff each).mpr ⟨_, isItem, decoded⟩,
      alone child filter decoded⟩
  · obtain ⟨_, isItem, decoded⟩ := (Outcome.mem_results_iff each).mp isFilter
    obtain ⟨child, isChild, rfl⟩ := List.mem_map.mp isItem
    exact ⟨child, isChild, alone child filter decoded⟩

/-- An operator is accepted over the same filters in another order or number. -/
theorem exists_filterOf_rearranged
    {depth : Nat}
    {name : String}
    {children rearranged : List Json}
    {operator : Operator}
    {filters : List Filter}
    (accepted : filterOf depth (some (operation name children).sortKeys) =
      .ok (some (.combination operator filters)))
    (same : ∀ child, child ∈ rearranged ↔ child ∈ children) :
    ∃ others, filterOf depth (some (operation name rearranged).sortKeys) =
        .ok (some (.combination operator others)) ∧
      ∀ filter, filter ∈ others ↔ filter ∈ filters := by
  rw [filterOf_operation] at accepted ⊢
  obtain ⟨filter, decoded, isCombination⟩ :=
    Outcome.exists_of_map_eq_ok accepted
  cases isCombination
  obtain ⟨below, _, _, rfl, named, nonempty, each, combined⟩ :=
    Filter.decode_operation_eq_ok_iff.mp decoded
  cases combined
  have sameItems : ∀ item, item ∈ rearranged.map
      (fun child => child.sortKeys.sortKeys) ↔
      item ∈ children.map fun child => child.sortKeys.sortKeys := by
    intro item
    simp only [List.mem_map, same]
  obtain ⟨others, eachOther⟩ := Outcome.exists_mapM_eq_ok fun item isItem =>
    Outcome.exists_of_mapM_eq_ok each item ((sameItems item).mp isItem)
  have stillNonempty : rearranged.map
      (fun child => child.sortKeys.sortKeys) ≠ [] := by
    obtain ⟨item, isItem⟩ := List.exists_mem_of_ne_nil _ nonempty
    exact List.ne_nil_of_mem ((sameItems item).mpr isItem)
  refine ⟨others, ?_, fun filter => ?_⟩
  · rw [Filter.decode_operation_eq_ok_iff.mpr
      ⟨below, operator, others, rfl, named, stillNonempty, eachOther, rfl⟩]
    rfl
  · rw [Outcome.mem_results_iff each, Outcome.mem_results_iff eachOther]
    simp only [sameItems]

end Request
end Query
end MailSearch
