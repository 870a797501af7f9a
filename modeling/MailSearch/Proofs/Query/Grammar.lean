import MailSearch.Proofs.Query.Nesting
import MailSearch.Proofs.Query.PropertyValue

/-!
# The grammar of filters

A value is a filter if it is a condition, whose properties have well-formed
values, or an operator over filters one level deeper.  Such a value denotes one
filter: the operators stand where they stand in the value, and a condition has
the predicates of its properties in the order of their names, those that ask the
text index last.  The decoder accepts exactly the values of the grammar, as the
filters that they denote.
-/

namespace MailSearch
namespace Query

/-- A property that is given, and not as `null`, stands for a predicate. -/
def Given (members : List (String × Json)) (name : String)
    (predicate : Predicate) : Prop :=
  ∃ value shape, Json.last? name members = some value ∧ value ≠ .null ∧
    shapes.lookup name = some shape ∧ shape.Reads value predicate

namespace Filter

/-- A value on some level is a filter in which operators nest within a limit. -/
inductive Grammar (limit : Nat) : Nat -> Json -> Prop where
  /-- Without an operator every property must be `null` or stand for a
  predicate. -/
  | condition {level : Nat} {members : List (String × Json)}
      (plain : Json.last? "operator" members = none)
      (each : ∀ name value, Json.last? name members = some value →
        value = .null ∨ ∃ predicate, Given members name predicate) :
      Grammar limit level (.obj members)
  /-- An operator within the limit stands beside its filters only, of which
  there is one. -/
  | operation {level : Nat} {members : List (String × Json)} {name : String}
      {operator : Operator} {children : List Json}
      (within : level ≤ limit)
      (keys : ∀ key, Json.last? key members ≠ none ↔ key = "operator" ∨
        key = "conditions")
      (named : Json.last? "operator" members = some (.str name))
      (known : Operator.names.lookup name = some operator)
      (listed : Json.last? "conditions" members = some (.arr children))
      (nonempty : children ≠ [])
      (each : ∀ child ∈ children, Grammar limit (level + 1) child) :
      Grammar limit level (.obj members)

/-- A value denotes a filter. -/
inductive Denotes : Json -> Filter -> Prop where
  /-- The predicates of a condition, each kind in the order of the names of
  properties. -/
  | condition {members : List (String × Json)}
      {free asking : List (String × Predicate)}
      (plain : Json.last? "operator" members = none)
      (freeAscending : free.Pairwise fun left right => left.1 < right.1)
      (askingAscending : asking.Pairwise fun left right => left.1 < right.1)
      (mem_free : ∀ name predicate, (name, predicate) ∈ free ↔
        Given members name predicate ∧ predicate.asksIndex = false)
      (mem_asking : ∀ name predicate, (name, predicate) ∈ asking ↔
        Given members name predicate ∧ predicate.asksIndex = true) :
      Denotes (.obj members) (.condition ((free ++ asking).map Prod.snd))
  /-- The filters below an operator stand in the order of the values. -/
  | operation {members : List (String × Json)} {name : String}
      {operator : Operator}
      {children : List Json} {filters : List Filter}
      (named : Json.last? "operator" members = some (.str name))
      (known : Operator.names.lookup name = some operator)
      (listed : Json.last? "conditions" members = some (.arr children))
      (each : List.Forall₂ Denotes children filters) :
      Denotes (.obj members) (.combination operator filters)

/-- No operator is over nothing, and operators nest to some number of levels at
most. -/
inductive Within : Nat -> Filter -> Prop where
  /-- A condition takes no level. -/
  | condition {levels : Nat} (predicates : List Predicate) :
      Within levels (.condition predicates)
  /-- An operator takes one level. -/
  | combination {levels : Nat} {operator : Operator} {filters : List Filter}
      (nonempty : filters ≠ [])
      (each : ∀ filter ∈ filters, Within levels filter) :
      Within (levels + 1) (.combination operator filters)

/-! ## Conditions -/

/-- The predicates of ascending properties, with the names of the properties. -/
theorem exists_properties
    {given : List (String × Json)}
    (ascending : given.Pairwise fun left right => left.1 < right.1)
    {predicates : List Predicate}
    (decoded : (given.mapM fun member =>
        Predicate.ofProperty member.1 member.2) =
      .ok predicates) :
    ∃ properties : List (String × Predicate),
        properties.map Prod.snd = predicates ∧
      (properties.Pairwise fun left right => left.1 < right.1) ∧
      ∀ name predicate, (name, predicate) ∈ properties ↔
        ∃ value, (name, value) ∈ given ∧
          Predicate.ofProperty name value = .ok predicate := by
  induction given generalizing predicates with
  | nil =>
      cases decoded
      exact ⟨[], rfl, .nil, by simp⟩
  | cons member rest inductionHypothesis =>
      obtain ⟨least, ascendingRest⟩ := List.pairwise_cons.mp ascending
      obtain ⟨predicate, others, first, later, rfl⟩ :=
        Outcome.mapM_cons_eq_ok_iff.mp decoded
      obtain ⟨properties, rfl, propertiesAscending, members⟩ :=
        inductionHypothesis ascendingRest later
      refine ⟨(member.1, predicate) :: properties, rfl,
        List.pairwise_cons.mpr ⟨?_, propertiesAscending⟩, ?_⟩
      · rintro ⟨name, other⟩ isProperty
        obtain ⟨value, isMember, -⟩ := (members name other).mp isProperty
        exact least (name, value) isMember
      · intro name other
        rw [List.mem_cons, members]
        constructor
        · rintro (same | ⟨value, isMember, read⟩)
          · cases same
            exact ⟨member.2, List.mem_cons_self, first⟩
          · exact ⟨value, List.mem_cons_of_mem _ isMember, read⟩
        · rintro ⟨value, isMember, read⟩
          rcases List.mem_cons.mp isMember with rfl | isMember
          · cases first.symm.trans read
            exact Or.inl rfl
          · exact Or.inr ⟨value, isMember, read⟩

section Conditions

variable {members : List (String × Json)}

theorem isNull_sortKeys
    (value : Json) :
    value.sortKeys.isNull = value.isNull := by
  cases value <;> rfl

theorem isNull_eq_false_iff
    {value : Json} :
    value.isNull = false ↔ value ≠ .null := by
  cases value <;> simp [Json.isNull]

/-- The members that count in a condition, with ascending names. -/
def givenMembers (members : List (String × Json)) : List (String × Json) :=
  (Json.sortMembers [] members).filter fun member => !member.2.isNull

theorem mem_givenMembers_iff
    {name : String}
    {sorted : Json} :
    (name, sorted) ∈ givenMembers members ↔
      ∃ value, Json.last? name members = some value ∧ value ≠ .null ∧
        value.sortKeys = sorted := by
  rw [givenMembers, List.mem_filter, Json.mem_sortMembers_iff]
  constructor
  · rintro ⟨⟨value, given, rfl⟩, notNull⟩
    refine ⟨value, given, isNull_eq_false_iff.mp ?_, rfl⟩
    rw [← isNull_sortKeys]
    exact Bool.not_eq_true' _ ▸ notNull
  · rintro ⟨value, given, notNull, rfl⟩
    refine ⟨⟨value, given, rfl⟩, ?_⟩
    rw [isNull_sortKeys, isNull_eq_false_iff.mpr notNull]
    rfl

/-- The given properties are those of the members that count. -/
theorem given_iff
    {name : String}
    {predicate : Predicate} :
    Given members name predicate ↔
      ∃ value, (name, value) ∈ givenMembers members ∧
        Predicate.ofProperty name value = .ok predicate := by
  simp only [mem_givenMembers_iff, Predicate.ofProperty_eq_ok_iff]
  constructor
  · rintro ⟨value, shape, given, notNull, shaped, reads⟩
    exact ⟨value.sortKeys, ⟨value, given, notNull, rfl⟩, shape, shaped,
      Shape.reads_sortKeys_iff.mpr reads⟩
  · rintro ⟨_, ⟨value, given, notNull, rfl⟩, shape, shaped, reads⟩
    exact ⟨value, shape, given, notNull, shaped,
      Shape.reads_sortKeys_iff.mp reads⟩

theorem pairwise_givenMembers
    (members : List (String × Json)) :
    (givenMembers members).Pairwise fun left right => left.1 < right.1 :=
  (Json.pairwise_sortMembers List.Pairwise.nil members).sublist
    List.filter_sublist

theorem arrange_map
    (properties : List (String × Predicate)) :
    arrange (properties.map Prod.snd) =
      ((properties.filter fun property => !property.2.asksIndex) ++
        properties.filter fun property =>
          property.2.asksIndex).map Prod.snd := by
  rw [arrange, List.map_append, List.filter_map, List.filter_map]
  rfl

/-- The members that count are decoded if all properties are well formed. -/
theorem exists_ofProperty_of_given
    (each : ∀ name value, Json.last? name members = some value →
      value = .null ∨ ∃ predicate, Given members name predicate) :
    ∀ member ∈ givenMembers members, ∃ predicate,
      Predicate.ofProperty member.1 member.2 = .ok predicate := by
  rintro ⟨name, sorted⟩ counts
  obtain ⟨value, given, notNull, rfl⟩ := mem_givenMembers_iff.mp counts
  obtain ⟨predicate, other, shape, otherGiven, -, shaped, reads⟩ :=
    (each name value given).resolve_left notNull
  cases given.symm.trans otherGiven
  exact ⟨predicate, Predicate.ofProperty_eq_ok_iff.mpr
    ⟨shape, shaped, Shape.reads_sortKeys_iff.mpr reads⟩⟩

theorem conditionOf_of_mapM
    {predicates : List Predicate}
    (decoded : ((givenMembers members).mapM fun member =>
      Predicate.ofProperty member.1 member.2) = .ok predicates) :
    conditionOf (Json.sortMembers [] members) =
      .ok (.condition (arrange predicates)) := by
  unfold conditionOf
  change ((givenMembers members).mapM _ >>= _) = _
  rw [decoded]
  rfl

/-- A condition is decoded if it belongs to the grammar, as the filter that it
denotes. -/
theorem conditionOf_eq_ok_iff
    (plain : Json.last? "operator" members = none)
    {limit level : Nat}
    {filter : Filter} :
    conditionOf (Json.sortMembers [] members) = .ok filter ↔
      Grammar limit level (.obj members) ∧ Denotes (.obj members) filter := by
  have ascending := pairwise_givenMembers members
  constructor
  · intro decoded
    obtain ⟨predicates, each, combined⟩ := Outcome.exists_of_bind_eq_ok decoded
    cases combined
    obtain ⟨properties, rfl, propertiesAscending, isProperty⟩ :=
      exists_properties ascending each
    simp only [← given_iff] at isProperty
    refine ⟨.condition plain fun name value given => ?_, ?_⟩
    · by_cases isNull : value = .null
      · exact Or.inl isNull
      · have counts := mem_givenMembers_iff.mpr ⟨value, given, isNull, rfl⟩
        obtain ⟨predicate, read⟩ := Outcome.exists_of_mapM_eq_ok each _ counts
        exact Or.inr ⟨predicate, given_iff.mpr ⟨_, counts, read⟩⟩
    · rw [arrange_map]
      refine .condition plain (propertiesAscending.sublist List.filter_sublist)
        (propertiesAscending.sublist List.filter_sublist) ?_ ?_
      · intro name predicate
        rw [List.mem_filter, isProperty, Bool.not_eq_true']
      · intro name predicate
        rw [List.mem_filter, isProperty]
  · rintro ⟨belongs, denotes⟩
    cases belongs with
    | operation within keys named => rw [plain] at named; cases named
    | condition _ each =>
        cases denotes with
        | operation named => rw [plain] at named; cases named
        | @condition _ free asking _ freeAscending askingAscending mem_free
              mem_asking =>
            obtain ⟨predicates, decoded⟩ :=
              Outcome.exists_mapM_eq_ok (exists_ofProperty_of_given each)
            obtain ⟨properties, rfl, propertiesAscending, isProperty⟩ :=
              exists_properties ascending decoded
            simp only [← given_iff] at isProperty
            -- Both kinds are known by their members, and names ascend in only
            -- one order.
            have sameFree : (properties.filter fun property =>
                !property.2.asksIndex) = free := by
              refine IdMap.eq_of_pairwise_keys
                (propertiesAscending.sublist List.filter_sublist)
                  freeAscending ?_
              rintro ⟨name, predicate⟩
              rw [List.mem_filter, isProperty, mem_free, Bool.not_eq_true']
            have sameAsking :
                (properties.filter fun property => property.2.asksIndex) =
                  asking := by
              refine IdMap.eq_of_pairwise_keys
                (propertiesAscending.sublist List.filter_sublist)
                  askingAscending ?_
              rintro ⟨name, predicate⟩
              rw [List.mem_filter, isProperty, mem_asking]
            rw [← sameFree, ← sameAsking, ← arrange_map]
            exact conditionOf_of_mapM decoded

end Conditions

/-! ## Operators -/

section Operators

variable {members : List (String × Json)}

theorem ofName_eq_ok_iff
    {name : String}
    {operator : Operator} :
    Operator.ofName name = .ok operator ↔
      Operator.names.lookup name = some operator := by
  unfold Operator.ofName
  cases Operator.names.lookup name <;> simp

/-- A member that is read is the operator or its filters, and leaves the other
as it was. -/
theorem OperatorMembers.read_cases
    {found next : OperatorMembers}
    {member : String × Json}
    (read : OperatorMembers.read found member = .ok next) :
    (member.1 = "operator" ∧ next.filters = found.filters) ∨
      (member.1 = "conditions" ∧ next.operator = found.operator) := by
  unfold OperatorMembers.read at read
  split at read
  · obtain ⟨operator, -, rfl⟩ := Outcome.exists_of_map_eq_ok read
    exact Or.inl ⟨rfl, rfl⟩
  · cases read
  · cases read
    exact Or.inr ⟨rfl, rfl⟩
  · cases read
  · cases read

/-- What was read of some members came from a member with its key. -/
theorem keys_of_foldlM_read
    {found result : OperatorMembers}
    (read : members.foldlM OperatorMembers.read found = .ok result) :
    (∀ member ∈ members, member.1 = "operator" ∨ member.1 = "conditions") ∧
      (result.operator = found.operator ∨ "operator" ∈ members.map Prod.fst) ∧
      (result.filters = found.filters ∨
        "conditions" ∈ members.map Prod.fst) := by
  induction members generalizing found with
  | nil =>
      cases read
      exact ⟨List.forall_mem_nil _, Or.inl rfl, Or.inl rfl⟩
  | cons member rest inductionHypothesis =>
      rw [List.foldlM_cons] at read
      obtain ⟨next, first, later⟩ := Outcome.exists_of_bind_eq_ok read
      obtain ⟨keys, operatorKey, filtersKey⟩ := inductionHypothesis later
      rw [List.map_cons]
      rcases OperatorMembers.read_cases first with
        ⟨isOperator, same⟩ | ⟨isConditions, same⟩
      · rw [same] at filtersKey
        rw [isOperator]
        exact ⟨List.forall_mem_cons.mpr ⟨Or.inl isOperator, keys⟩,
          Or.inr List.mem_cons_self,
          filtersKey.imp_right (List.mem_cons_of_mem _)⟩
      · rw [same] at operatorKey
        rw [isConditions]
        exact ⟨List.forall_mem_cons.mpr ⟨Or.inr isConditions, keys⟩,
          operatorKey.imp_right (List.mem_cons_of_mem _),
            Or.inr List.mem_cons_self⟩

/-- An operator over some filters stands behind the filters, and nothing else
beside them. -/
theorem exists_of_foldlM_read
    (ascending : members.Pairwise fun left right => left.1 < right.1)
    {operator : Operator}
    {children : List Json}
    (nonempty : children ≠ [])
    (read : members.foldlM OperatorMembers.read ⟨none, []⟩ =
      .ok ⟨some operator, children⟩) :
    ∃ name, members = [("conditions", .arr children),
      ("operator", .str name)] := by
  obtain ⟨keys, operatorKey, filtersKey⟩ := keys_of_foldlM_read read
  have both : members.map Prod.fst = ["conditions", "operator"] := by
    refine (List.pairwise_map.mpr ascending).eq_of_mem_iff (by decide)
      fun key => ?_
    rw [List.mem_cons, List.mem_singleton, List.mem_map]
    constructor
    · rintro ⟨member, isMember, rfl⟩
      exact (keys member isMember).symm
    · rintro (rfl | rfl)
      · exact List.mem_map.mp (filtersKey.resolve_left nonempty)
      · exact List.mem_map.mp (operatorKey.resolve_left nofun)
  obtain ⟨⟨_, filters⟩, _, rfl, isConditions, isLast⟩ :=
    List.map_eq_cons_iff.mp both
  obtain ⟨⟨_, named⟩, rest, rfl, isOperator, isEnd⟩ :=
    List.map_eq_cons_iff.mp isLast
  cases List.map_eq_nil_iff.mp isEnd
  cases isConditions
  cases isOperator
  cases filters with
  | arr items =>
      cases named with
      | str name =>
          have reading : ((Operator.ofName name).map fun found =>
              OperatorMembers.mk (some found) items) =
                .ok ⟨some operator, children⟩ := by
            rw [← read]
            change _ = ((Operator.ofName name).map _) >>= pure
            cases Operator.ofName name <;> rfl
          obtain ⟨found, -, same⟩ := Outcome.exists_of_map_eq_ok reading
          cases same
          exact ⟨name, rfl⟩
      | _ => cases read
  | _ => cases read

/-- Which members an operator over some filters has, in whatever order and
however often. -/
theorem sortMembers_eq_iff
    {name : String}
    {sorted : List Json} :
    Json.sortMembers [] members = [("conditions", .arr sorted),
        ("operator", .str name)] ↔
      (∀ key, Json.last? key members ≠ none ↔ key = "operator" ∨
        key = "conditions") ∧
      Json.last? "operator" members = some (.str name) ∧
      ∃ children, Json.last? "conditions" members = some (.arr children) ∧
        children.map Json.sortKeys = sorted := by
  constructor
  · intro same
    have isMember : ∀ key value, (key, value) ∈
        [("conditions", Json.arr sorted), ("operator", Json.str name)] ↔
          ∃ given, Json.last? key members = some given ∧
            given.sortKeys = value := by
      intro key value
      rw [← same, Json.mem_sortMembers_iff]
    obtain ⟨given, named, plain⟩ := (isMember "operator" (.str name)).mp
      (List.mem_cons_of_mem _ List.mem_cons_self)
    cases Json.eq_of_sortKeys plain nofun nofun
    obtain ⟨given, listed, items⟩ := (isMember "conditions" (.arr sorted)).mp
      List.mem_cons_self
    obtain ⟨children, rfl, rfl⟩ := Json.exists_items_of_sortKeys items
    refine ⟨fun key => ?_, named, children, listed, rfl⟩
    constructor
    · intro given
      obtain ⟨value, given⟩ := Option.ne_none_iff_exists'.mp given
      have present := (isMember key value.sortKeys).mpr ⟨value, given, rfl⟩
      rw [List.mem_cons, List.mem_singleton, Prod.mk.injEq, Prod.mk.injEq]
        at present
      exact present.symm.imp And.left And.left
    · rintro (rfl | rfl)
      · rw [named]
        nofun
      · rw [listed]
        nofun
  · rintro ⟨keys, named, children, listed, rfl⟩
    have inOrder : "conditions" < "operator" := by decide
    refine IdMap.eq_of_pairwise_keys
        (Json.pairwise_sortMembers List.Pairwise.nil members)
      (List.pairwise_pair.mpr inOrder) ?_
    rintro ⟨key, value⟩
    rw [Json.mem_sortMembers_iff, List.mem_cons, List.mem_singleton,
      Prod.mk.injEq, Prod.mk.injEq]
    constructor
    · rintro ⟨given, held, rfl⟩
      rcases (keys key).mp (by rw [held]; nofun) with rfl | rfl
      · cases named.symm.trans held
        exact Or.inr ⟨rfl, rfl⟩
      · cases listed.symm.trans held
        refine Or.inl ⟨rfl, ?_⟩
        rw [Json.sortKeys, Json.sortItems_eq_map]
    · rintro (⟨rfl, rfl⟩ | ⟨rfl, rfl⟩)
      · refine ⟨_, listed, ?_⟩
        rw [Json.sortKeys, Json.sortItems_eq_map]
      · exact ⟨_, named, rfl⟩

theorem operator_sortMembers_eq_none_iff :
    Json.member? "operator" (Json.sortMembers [] members) = none ↔
      Json.last? "operator" members = none := by
  rw [Json.member?_sortMembers, Json.member?, Option.or_none,
    Option.map_eq_none_iff]

/-- An operator is decoded if it and the filters below it are well formed. -/
theorem decode_members_eq_ok_iff
    (nested : Json.last? "operator" members ≠ none)
    {limit levels : Nat}
    {filter : Filter} :
    decode limit levels (.obj (Json.sortMembers [] members)) = .ok filter ↔
      ∃ below name operator children filters, levels = below + 1 ∧
        (∀ key, Json.last? key members ≠ none ↔ key = "operator" ∨
          key = "conditions") ∧
        Json.last? "operator" members = some (.str name) ∧
        Operator.names.lookup name = some operator ∧
        Json.last? "conditions" members = some (.arr children) ∧ children ≠ [] ∧
        List.Forall₂
            (fun child filter => decode limit below child.sortKeys = .ok filter)
          children filters ∧
        combination operator filters = filter := by
  constructor
  · intro decoded
    obtain ⟨below, operator, sorted, filters, rfl, found, nonempty, -, -⟩ :=
      (decode_operator_eq_ok_iff
        (mt operator_sortMembers_eq_none_iff.mp nested)).mp decoded
    obtain ⟨name, shape⟩ := exists_of_foldlM_read
      (Json.pairwise_sortMembers List.Pairwise.nil members) nonempty found
    obtain ⟨keys, named, children, listed, rfl⟩ := sortMembers_eq_iff.mp shape
    rw [shape] at decoded
    obtain ⟨_, operator, filters, sameLevels, known, -, each, combined⟩ :=
      decode_operation_eq_ok_iff.mp decoded
    cases sameLevels
    rw [Outcome.mapM_eq_ok_iff, List.forall₂_map_left_iff] at each
    exact ⟨below, name, operator, children, filters, rfl, keys, named,
      ofName_eq_ok_iff.mp known, listed, mt List.map_eq_nil_iff.mpr nonempty,
      each, combined⟩
  · rintro ⟨below, name, operator, children, filters, rfl, keys, named, known,
      listed, nonempty,
      each, combined⟩
    rw [sortMembers_eq_iff.mpr ⟨keys, named, children, listed, rfl⟩,
      decode_operation_eq_ok_iff]
    refine ⟨below, operator, filters, rfl, ofName_eq_ok_iff.mpr known,
      mt List.map_eq_nil_iff.mp nonempty, ?_, combined⟩
    rw [Outcome.mapM_eq_ok_iff, List.forall₂_map_left_iff]
    exact each

end Operators

/-! ## Filters -/

/--
What is decoded with some levels left belongs to the grammar on the level that
is reached then, as the filter that it denotes.
-/
theorem decode_eq_ok_iff
    {limit levels : Nat}
    (atMost : levels ≤ limit)
    {value : Json}
    {filter : Filter} :
    decode limit levels value.sortKeys = .ok filter ↔
      Grammar limit (limit + 1 - levels) value ∧ Denotes value filter := by
  -- Every operator takes one of the levels that are left, so the filters below
  -- it have fewer.
  induction levels using Nat.strongRecOn generalizing value filter with
  | ind levels inductionHypothesis =>
      cases value with
      | obj members =>
          rw [Json.sortKeys]
          by_cases plain : Json.last? "operator" members = none
          · rw [decode_of_no_operator
              (operator_sortMembers_eq_none_iff.mpr plain)]
            exact conditionOf_eq_ok_iff plain
          · rw [decode_members_eq_ok_iff plain]
            constructor
            · rintro ⟨below, name, operator, children, filters, rfl, keys,
                named, known, listed,
                nonempty, each, rfl⟩
              have levelBelow : limit + 1 - (below + 1) + 1 =
                  limit + 1 - below := by omega
              have both : List.Forall₂ (fun child filter =>
                  Grammar limit (limit + 1 - below) child ∧
                      Denotes child filter)
                    children filters :=
                each.imp fun child filter decoded =>
                  (inductionHypothesis below below.lt_succ_self
                    (by omega)).mp decoded
              obtain ⟨belongs, denotes⟩ := (List.forall₂_and_left _ _).mp both
              rw [← levelBelow] at belongs
              exact ⟨.operation (by omega) keys named known listed
                  nonempty belongs,
                .operation named known listed denotes⟩
            · rintro ⟨belongs, denotes⟩
              cases belongs with
              | condition isPlain => exact absurd isPlain plain
              | @operation _ _ name operator children within keys named known
                    listed nonempty
                  belongs =>
                  cases denotes with
                  | condition isPlain => exact absurd isPlain plain
                  | operation sameNamed sameKnown sameListed denotes =>
                      cases named.symm.trans sameNamed
                      cases known.symm.trans sameKnown
                      cases listed.symm.trans sameListed
                      obtain ⟨below, rfl⟩ : ∃ below, levels = below + 1 :=
                        ⟨levels - 1, by omega⟩
                      have levelBelow : limit + 1 - (below + 1) + 1 =
                          limit + 1 - below := by
                        omega
                      rw [levelBelow] at belongs
                      refine ⟨below, name, operator, children, _, rfl, keys,
                        named, known, listed, nonempty, ?_, rfl⟩
                      refine ((List.forall₂_and_left _ _).mpr
                        ⟨belongs, denotes⟩).imp ?_
                      exact fun child filter =>
                        (inductionHypothesis below below.lt_succ_self
                          (by omega)).mpr
      | _ =>
          constructor
          · intro decoded
            rw [decode.eq_def] at decoded
            cases decoded
          · rintro ⟨absurd, -⟩
            cases absurd

/-- Operators nest in a filter to the levels that are left where its value
stands. -/
theorem Grammar.within
    {limit level : Nat}
    {value : Json}
    (belongs : Grammar limit level value)
    {filter : Filter}
    (denotes : Denotes value filter) :
    Within (limit + 1 - level) filter := by
  induction belongs generalizing filter with
  | condition plain =>
      cases denotes with
      | condition => exact .condition _
      | operation named => rw [plain] at named; cases named
  | @operation level members name operator children within keys named known
        listed nonempty each
      inductionHypothesis =>
      cases denotes with
      | condition plain => rw [plain] at named; cases named
      | @operation _ _ _ _ filters _ _ sameListed denotes =>
          cases listed.symm.trans sameListed
          have levelBelow : limit + 1 - level = limit + 1 - (level + 1) +
              1 := by omega
          have below : List.Forall₂
              (fun _ filter => Within (limit + 1 - (level + 1)) filter)
              children filters :=
            ((List.forall₂_and_left _ _).mpr ⟨inductionHypothesis, denotes⟩).imp
              fun child filter both => both.1 both.2
          rw [levelBelow]
          refine .combination ?_ (Outcome.forall_right below)
          rintro rfl
          exact nonempty (List.forall₂_nil_right_iff.mp denotes)

/-- Every value of the grammar denotes a filter. -/
theorem Grammar.exists_denotes
    {limit level : Nat}
    {value : Json}
    (belongs : Grammar limit level value) :
    ∃ filter, Denotes value filter := by
  induction belongs with
  | @condition level members plain each =>
      obtain ⟨predicates, decoded⟩ :=
        Outcome.exists_mapM_eq_ok (exists_ofProperty_of_given each)
      have both : Grammar limit level (.obj members) ∧
          Denotes (.obj members) (.condition (arrange predicates)) :=
        (conditionOf_eq_ok_iff plain).mp (conditionOf_of_mapM decoded)
      exact ⟨_, both.2⟩
  | operation _ _ named known listed _ _ inductionHypothesis =>
      obtain ⟨filters, each⟩ := Outcome.exists_forall₂ inductionHypothesis
      exact ⟨_, .operation named known listed each⟩

/--
The decoder accepts exactly the values of the grammar, with the first operator
on level one, and rejects all others.  What it makes of an accepted value is the
filter that the value denotes, in which no operator is over nothing and
operators nest within the limit.
-/
theorem decoded_iff_grammar
    (limit : Nat)
    (value : Json) :
    ((∃ filter, ofJson limit value = .ok filter) ↔ Grammar limit 1 value) ∧
      (∀ filter, ofJson limit value = .ok filter ↔ Grammar limit 1 value ∧
        Denotes value filter) ∧
      (∀ filter, ofJson limit value = .ok filter → Within limit filter) ∧
      (¬ Grammar limit 1 value → ∃ cause,
        ofJson limit value = .error cause) := by
  have decoded : ∀ filter, ofJson limit value = .ok filter ↔
      Grammar limit 1 value ∧ Denotes value filter := by
    intro filter
    rw [ofJson, decode_eq_ok_iff (Nat.le_refl limit), Nat.add_sub_cancel_left]
  have accepted : (∃ filter, ofJson limit value = .ok filter) ↔
      Grammar limit 1 value := by
    constructor
    · rintro ⟨filter, accepted⟩
      exact ((decoded filter).mp accepted).1
    · intro belongs
      obtain ⟨filter, denotes⟩ := belongs.exists_denotes
      exact ⟨filter, (decoded filter).mpr ⟨belongs, denotes⟩⟩
  refine ⟨accepted, decoded, fun filter isFilter => ?_, fun foreign => ?_⟩
  · obtain ⟨belongs, denotes⟩ := (decoded filter).mp isFilter
    exact belongs.within denotes
  · cases outcome : ofJson limit value with
    | error cause => exact ⟨cause, rfl⟩
    | ok filter => exact absurd (accepted.mp ⟨filter, outcome⟩) foreign

example : ofJson 1 (operation "OR" [operation "NOT" [.obj []]]) =
    .error (.depth 1) := rfl

end Filter
end Query
end MailSearch
