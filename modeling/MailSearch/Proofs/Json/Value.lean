import MailSearch.Json.Decode
import MailSearch.Proofs.Data.IdMap

/-!
# Members with sorted keys

Where a member is put among ascending ones depends on its key alone, and sorting
the keys of an object neither adds keys nor changes them.
-/

namespace MailSearch
namespace Json

theorem sortItems_eq_map (items : List Json) :
    sortItems items = items.map sortKeys := by
  induction items with
  | nil => rw [sortItems, List.map_nil]
  | cons item rest inductionHypothesis =>
      rw [sortItems, List.map_cons, inductionHypothesis]

/-! ## Values without members -/

theorem strings_injective : Function.Injective strings := by
  intro left right same
  apply List.map_injective_iff.mpr (fun _ _ equal => str.inj equal)
  exact arr.inj same

theorem sortKeys_strings
    (texts : List String) :
    (strings texts).sortKeys = strings texts := by
  rw [strings, sortKeys, sortItems_eq_map, List.map_map]
  rfl

/-- Only the list itself becomes a list of texts. -/
theorem eq_strings_of_sortKeys
    {value : Json}
    {texts : List String}
    (same : value.sortKeys = strings texts) :
    value = strings texts := by
  cases value with
  | arr items =>
      rw [sortKeys, sortItems_eq_map, strings, arr.injEq] at same
      rw [strings, arr.injEq]
      induction items generalizing texts with
      | nil => exact same
      | cons item rest inductionHypothesis =>
          obtain ⟨text, others, rfl, first, later⟩ :=
            List.map_eq_cons_iff.mp same.symm
          rw [List.map_cons, ← inductionHypothesis later.symm]
          cases item with
          | str other => rw [first, sortKeys]
          | obj members => rw [sortKeys] at first; cases first
          | arr items => rw [sortKeys] at first; cases first
          | _ => cases first
  | obj members => rw [sortKeys] at same; cases same
  | _ => cases same

/-- Only a value that is neither a list nor an object becomes one with sorted
keys. -/
theorem eq_of_sortKeys
    {value plain : Json}
    (same : value.sortKeys = plain)
    (noList : ∀ items, plain ≠ .arr items)
    (noObject : ∀ members, plain ≠ .obj members) :
    value = plain := by
  cases value with
  | arr items => exact absurd same.symm (noList _)
  | obj members => exact absurd same.symm (noObject _)
  | _ => exact same

/-- A value without members is the only one that becomes it with sorted keys. -/
theorem sortKeys_eq_iff
    {value plain : Json}
    (sorted : plain.sortKeys = plain)
    (noList : ∀ items, plain ≠ .arr items)
    (noObject : ∀ members, plain ≠ .obj members) :
    value.sortKeys = plain ↔ value = plain := by
  constructor
  · intro same
    exact eq_of_sortKeys same noList noObject
  · rintro rfl
    exact sorted

theorem sortKeys_eq_strings_iff
    {value : Json}
    {texts : List String} :
    value.sortKeys = strings texts ↔ value = strings texts := by
  constructor
  · exact eq_strings_of_sortKeys
  · rintro rfl
    exact sortKeys_strings texts

/-- Only a list becomes a list with sorted keys, item by item. -/
theorem exists_items_of_sortKeys
    {value : Json}
    {sorted : List Json}
    (same : value.sortKeys = .arr sorted) :
    ∃ items, value = .arr items ∧ items.map sortKeys = sorted := by
  cases value with
  | arr items =>
      rw [sortKeys, sortItems_eq_map, arr.injEq] at same
      exact ⟨items, rfl, same⟩
  | obj members => rw [sortKeys] at same; cases same
  | _ => cases same

/-! ## Places of members -/

/-- Members are put in their places like the entries of a map. -/
theorem insertMember_eq_insertSorted
    (key : String)
    (value : Json)
    (members : List (String × Json)) :
    insertMember key value members = IdMap.insertSorted key value members := by
  induction members with
  | nil => rfl
  | cons member rest inductionHypothesis =>
      rw [insertMember, IdMap.insertSorted, inductionHypothesis]

/-- The members with sorted keys have ascending keys. -/
theorem pairwise_sortMembers
    {done : List (String × Json)}
    (ascending : done.Pairwise fun left right => left.1 < right.1)
    (members : List (String × Json)) :
    (sortMembers done members).Pairwise fun left right => left.1 < right.1 := by
  induction members generalizing done with
  | nil =>
      rw [sortMembers]
      exact ascending
  | cons member rest inductionHypothesis =>
      rw [sortMembers]
      refine inductionHypothesis ?_
      rw [insertMember_eq_insertSorted]
      exact IdMap.pairwise_insertSorted ascending

/-- So no key occurs twice. -/
theorem distinct_sortMembers
    (members : List (String × Json)) :
    (sortMembers [] members).Pairwise fun left right => left.1 ≠ right.1 := by
  refine (pairwise_sortMembers List.Pairwise.nil members).imp ?_
  rintro ⟨left, _⟩ ⟨right, _⟩ less rfl
  exact String.lt_irrefl left less

/--
A key has one place among ascending members, whatever its value.  Nothing else
there has the key, except for a member that stands in the place already and is
replaced.
-/
theorem exists_insertMember_eq
    {members : List (String × Json)}
    (ascending : members.Pairwise fun left right => left.1 < right.1)
    (key : String) :
    ∃ front back, (∀ member ∈ front ++ back, member.1 ≠ key) ∧
      (members = front ++ back ∨ ∃ present,
        members = front ++ (key, present) :: back) ∧
      ∀ value, insertMember key value members = front ++ (key, value) ::
        back := by
  induction members with
  | nil => exact ⟨[], [], List.forall_mem_nil _, Or.inl rfl, fun _ => rfl⟩
  | cons member rest inductionHypothesis =>
      obtain ⟨other, present⟩ := member
      obtain ⟨least, ascendingRest⟩ := List.pairwise_cons.mp ascending
      by_cases precedes : key < other
      · refine ⟨[], (other, present) :: rest, ?_, Or.inl rfl, fun value => ?_⟩
        · refine List.forall_mem_cons.mpr ⟨(Std.ne_of_lt precedes).symm,
            fun later member => ?_⟩
          exact (Std.ne_of_lt
            (String.lt_trans precedes (least later member))).symm
        · rw [insertMember, if_pos precedes, List.nil_append]
      · by_cases same : key = other
        · subst same
          refine ⟨[], rest, fun later member =>
              (Std.ne_of_lt (least later member)).symm,
            Or.inr ⟨present, rfl⟩, fun value => ?_⟩
          rw [insertMember, if_neg precedes, if_pos rfl, List.nil_append]
        · obtain ⟨front, back, others, split, inserted⟩ :=
            inductionHypothesis ascendingRest
          refine ⟨(other, present) :: front, back,
            List.forall_mem_cons.mpr ⟨Ne.symm same, others⟩, ?_,
              fun value => ?_⟩
          · exact split.imp (congrArg _) fun ⟨held, split⟩ =>
              ⟨held, congrArg _ split⟩
          · rw [insertMember, if_neg precedes, if_neg same, inserted,
              List.cons_append]

section Keys

variable {absent : String} {done members : List (String × Json)}

theorem forall_insertMember_ne
    {key : String}
    (differs : key ≠ absent)
    (value : Json)
    (each : ∀ member ∈ members, member.1 ≠ absent) :
    ∀ member ∈ insertMember key value members, member.1 ≠ absent := by
  induction members with
  | nil => exact List.forall_mem_singleton.mpr differs
  | cons member rest inductionHypothesis =>
      obtain ⟨other, present⟩ := member
      obtain ⟨first, others⟩ := List.forall_mem_cons.mp each
      rw [insertMember]
      split
      · exact List.forall_mem_cons.mpr ⟨differs, each⟩
      · split
        · exact List.forall_mem_cons.mpr ⟨differs, others⟩
        · exact List.forall_mem_cons.mpr ⟨first, inductionHypothesis others⟩

theorem forall_sortMembers_ne
    (eachDone : ∀ member ∈ done, member.1 ≠ absent)
    (each : ∀ member ∈ members, member.1 ≠ absent) :
    ∀ member ∈ sortMembers done members, member.1 ≠ absent := by
  induction members generalizing done with
  | nil =>
      rw [sortMembers]
      exact eachDone
  | cons member rest inductionHypothesis =>
      obtain ⟨first, others⟩ := List.forall_mem_cons.mp each
      rw [sortMembers]
      exact inductionHypothesis
        (forall_insertMember_ne first member.2.sortKeys eachDone) others

end Keys

/-! ## Values of members -/

/-- The value of the last member with a key. -/
def last? (key : String) : List (String × Json) -> Option Json
  | [] => none
  | (other, value) :: rest =>
      (last? key rest).or (if other = key then some value else none)

theorem member?_insertMember
    (key other : String)
    (value : Json)
    (members : List (String × Json)) :
    member? other (insertMember key value members) =
      if key = other then some value else member? other members := by
  induction members with
  | nil => rfl
  | cons member rest inductionHypothesis =>
      obtain ⟨held, present⟩ := member
      rw [insertMember]
      split
      · rw [member?]
      · split
        · rename_i same
          subst same
          rw [member?, member?]
          split <;> rfl
        · rename_i different
          rw [member?, member?, inductionHypothesis]
          split
          · rename_i isHeld
            rw [if_neg fun same => different (same.trans isHeld.symm)]
          · rfl

/-- With sorted keys, a key has the value of its last member. -/
theorem member?_sortMembers
    (key : String)
    (done members : List (String × Json)) :
    member? key (sortMembers done members) =
      ((last? key members).map sortKeys).or (member? key done) := by
  induction members generalizing done with
  | nil => rw [sortMembers, last?, Option.map_none, Option.none_or]
  | cons member rest inductionHypothesis =>
      rw [sortMembers, inductionHypothesis, member?_insertMember, last?]
      cases last? key rest with
      | some later => rfl
      | none => split <;> rfl

/-- Among members with different keys, the value of a key is that of its only
member. -/
theorem mem_iff_member?
    {members : List (String × Json)}
    (distinct : members.Pairwise fun left right => left.1 ≠ right.1)
    {key : String}
    {value : Json} :
    (key, value) ∈ members ↔ member? key members = some value := by
  induction members with
  | nil => simp [member?]
  | cons member rest inductionHypothesis =>
      obtain ⟨held, present⟩ := member
      obtain ⟨unlike, distinctRest⟩ := List.pairwise_cons.mp distinct
      rw [List.mem_cons, member?, Prod.mk.injEq]
      split
      · rename_i same
        subst same
        constructor
        · rintro (⟨-, rfl⟩ | later)
          · rfl
          · exact absurd rfl (unlike (held, value) later)
        · intro found
          exact Or.inl ⟨rfl, (Option.some.inj found).symm⟩
      · rename_i different
        rw [← inductionHypothesis distinctRest]
        exact or_iff_right fun same => different same.1.symm

theorem member?_eq_none_iff
    {key : String}
    {members : List (String × Json)} :
    member? key members = none ↔ ∀ member ∈ members, member.1 ≠ key := by
  induction members with
  | nil => simp [member?]
  | cons member rest inductionHypothesis =>
      rw [member?, List.forall_mem_cons, ← inductionHypothesis]
      split
      · rename_i same
        simp [same]
      · rename_i different
        simp [different]

/-- The value of a member is changed with all the others. -/
theorem member?_map_values
    (change : Json -> Json)
    (key : String)
    (members : List (String × Json)) :
    member? key (members.map (Prod.map id change)) =
      (member? key members).map change := by
  induction members with
  | nil => rfl
  | cons member rest inductionHypothesis =>
      rw [List.map_cons, member?, member?, inductionHypothesis]
      dsimp only [Prod.map_fst, Prod.map_snd, id_eq]
      split <;> rfl

/-- Different keys in order give every value at most one key. -/
theorem distinct_zip
    {keys : List String}
    (nodup : keys.Nodup)
    (values : List Json) :
    (keys.zip values).Pairwise fun left right => left.1 ≠ right.1 := by
  induction keys generalizing values with
  | nil => exact List.Pairwise.nil
  | cons key rest inductionHypothesis =>
      obtain ⟨fresh, nodupRest⟩ := List.nodup_cons.mp nodup
      cases values with
      | nil => exact List.Pairwise.nil
      | cons value others =>
          refine List.pairwise_cons.mpr ⟨?_,
            inductionHypothesis nodupRest others⟩
          rintro ⟨later, _⟩ isMember rfl
          exact fresh (List.of_mem_zip isMember).1

/-- The members with sorted keys are the last ones of their keys. -/
theorem mem_sortMembers_iff
    {members : List (String × Json)}
    {key : String}
    {value : Json} :
    (key, value) ∈ sortMembers [] members ↔
      ∃ given, last? key members = some given ∧ given.sortKeys = value := by
  rw [mem_iff_member? (distinct_sortMembers members), member?_sortMembers,
    member?, Option.or_none, Option.map_eq_some_iff]

theorem last?_eq_none_iff
    {key : String}
    {members : List (String × Json)} :
    last? key members = none ↔ ∀ member ∈ members, member.1 ≠ key := by
  induction members with
  | nil => simp [last?]
  | cons member rest inductionHypothesis =>
      rw [last?, Option.or_eq_none_iff, inductionHypothesis,
        List.forall_mem_cons, and_comm]
      simp

/-- Among members with different keys, the last one with a key is the first
one. -/
theorem last?_of_distinct
    {members : List (String × Json)}
    (distinct : members.Pairwise fun left right => left.1 ≠ right.1)
    (key : String) :
    last? key members = member? key members := by
  induction members with
  | nil => rfl
  | cons member rest inductionHypothesis =>
      obtain ⟨held, present⟩ := member
      obtain ⟨unlike, distinctRest⟩ := List.pairwise_cons.mp distinct
      rw [last?, member?, inductionHypothesis distinctRest]
      split
      · rename_i same
        subst same
        have absent : member? held rest = none :=
          member?_eq_none_iff.mpr fun member isMember =>
            (unlike member isMember).symm
        simp [absent]
      · simp

/-- The last member is the last one that is put in its place. -/
theorem sortMembers_append_singleton
    (done members : List (String × Json))
    (key : String)
    (value : Json) :
    sortMembers done (members ++ [(key, value)]) =
      insertMember key value.sortKeys (sortMembers done members) := by
  induction members generalizing done with
  | nil => rw [List.nil_append, sortMembers, sortMembers, sortMembers]
  | cons member rest inductionHypothesis =>
      rw [List.cons_append, sortMembers, sortMembers, inductionHypothesis]

/-- Members are decoded one after the other. -/
theorem record_append
    {α : Type}
    (layout : Layout)
    (step : α -> String -> Json -> Decoded α)
    (initial : α)
    (front back : List (String × Json)) :
    record layout step initial (.obj (front ++ back)) =
      (record layout step initial (.obj front) >>= fun state =>
        record layout step state (.obj back)) := by
  rw [record, List.foldlM_append]
  rfl

/-! ## Keys that are sorted already -/

theorem last?_sortMembers
    (key : String)
    (members : List (String × Json)) :
    last? key (sortMembers [] members) = (last? key members).map sortKeys := by
  rw [last?_of_distinct (distinct_sortMembers members), member?_sortMembers]
  simp [member?]

mutual

/-- Sorting keys a second time changes nothing. -/
theorem sortKeys_sortKeys :
    (value : Json) → value.sortKeys.sortKeys = value.sortKeys
  | .arr items => by
      rw [sortKeys, sortKeys, sortItems_eq_map, sortItems_eq_map, List.map_map]
      congr 1
      exact List.map_congr_left fun item isItem =>
        sortKeys_sortKeys_of_mem_items items item isItem
  | .obj members => by
      rw [sortKeys, sortKeys]
      congr 1
      -- Both sides have ascending keys, so it is enough that each key has one
      -- value.
      apply IdMap.eq_of_pairwise_keys (pairwise_sortMembers List.Pairwise.nil _)
        (pairwise_sortMembers List.Pairwise.nil _)
      rintro ⟨key, value⟩
      rw [mem_sortMembers_iff, mem_sortMembers_iff, last?_sortMembers]
      simp only [Option.map_eq_some_iff]
      constructor
      · rintro ⟨_, ⟨given, found, rfl⟩, rfl⟩
        exact ⟨given, found,
          (sortKeys_sortKeys_of_last? members key given found).symm⟩
      · rintro ⟨given, found, rfl⟩
        exact ⟨given.sortKeys, ⟨given, found, rfl⟩,
          sortKeys_sortKeys_of_last? members key given found⟩
  | .null => rfl
  | .bool _ => rfl
  | .int _ => rfl
  | .real _ => rfl
  | .str _ => rfl

theorem sortKeys_sortKeys_of_mem_items :
    (items : List Json) → ∀ item ∈ items, item.sortKeys.sortKeys = item.sortKeys
  | [] => List.forall_mem_nil _
  | first :: rest =>
      List.forall_mem_cons.mpr ⟨sortKeys_sortKeys first,
        sortKeys_sortKeys_of_mem_items rest⟩

theorem sortKeys_sortKeys_of_last? :
    (members : List (String × Json)) → ∀ key value,
        last? key members = some value →
      value.sortKeys.sortKeys = value.sortKeys
  | [] => nofun
  | (other, present) :: rest => by
      intro key value found
      rw [last?, Option.or_eq_some_iff] at found
      rcases found with later | ⟨-, first⟩
      · exact sortKeys_sortKeys_of_last? rest key value later
      · split at first
        · cases first
          exact sortKeys_sortKeys present
        · cases first

end

/-! ## Members that are put in the place of others -/

theorem last?_append
    (key : String)
    (front back : List (String × Json)) :
    last? key (front ++ back) = (last? key back).or (last? key front) := by
  induction front with
  | nil => rw [List.nil_append, last?, Option.or_none]
  | cons member rest inductionHypothesis =>
      obtain ⟨name, value⟩ := member
      rw [List.cons_append, last?, last?, inductionHypothesis, Option.or_assoc]

theorem last?_filter_ne
    {key name : String}
    (differs : key ≠ name)
    (members : List (String × Json)) :
    last? key (members.filter fun member => member.1 != name) =
      last? key members := by
  induction members with
  | nil => rfl
  | cons member rest inductionHypothesis =>
      obtain ⟨other, value⟩ := member
      by_cases removed : other = name
      · have unlike : other ≠ key :=
          fun same => differs (same.symm.trans removed)
        rw [List.filter_cons_of_neg (by simp [removed]),
          inductionHypothesis, last?, if_neg unlike, Option.or_none]
      · rw [List.filter_cons_of_pos (by simp [removed]), last?, last?,
          inductionHypothesis]

/-- Sorted members are known from the last value of each key. -/
theorem sortMembers_eq_of_last?
    {left right : List (String × Json)}
    (same : ∀ key, last? key left = last? key right) :
    sortMembers [] left = sortMembers [] right := by
  apply IdMap.eq_of_pairwise_keys (pairwise_sortMembers List.Pairwise.nil _)
    (pairwise_sortMembers List.Pairwise.nil _)
  rintro ⟨key, value⟩
  rw [mem_sortMembers_iff, mem_sortMembers_iff, same]

/-- A new last member counts as much as one in the place of all members of its
name. -/
theorem sortMembers_replaced
    (name : String)
    (value : Json)
    (members : List (String × Json)) :
    sortMembers []
        ((members.filter fun member => member.1 != name) ++ [(name, value)]) =
      insertMember name value.sortKeys (sortMembers [] members) := by
  rw [← sortMembers_append_singleton]
  apply sortMembers_eq_of_last?
  intro key
  rw [last?_append, last?_append]
  by_cases same : name = key
  · simp [last?, same]
  · rw [last?_filter_ne (Ne.symm same)]

/-! ## Values that are compared -/

mutual

/-- Whether two values are the same; fractions are never said to be. -/
def same : Json -> Json -> Bool
  | .null, .null => true
  | .bool left, .bool right => left == right
  | .int left, .int right => left == right
  | .str left, .str right => left == right
  | .arr left, .arr right => sameItems left right
  | .obj left, .obj right => sameMembers left right
  | _, _ => false

/-- Whether two lists hold the same values. -/
def sameItems : List Json -> List Json -> Bool
  | [], [] => true
  | left :: lefts, right :: rights => same left right && sameItems lefts rights
  | _, _ => false

/-- Whether two objects hold the same members. -/
def sameMembers : List (String × Json) -> List (String × Json) -> Bool
  | [], [] => true
  | (key, left) :: lefts, (other, right) :: rights =>
      key == other && same left right && sameMembers lefts rights
  | _, _ => false

end

mutual

/-- Values that are said to be the same are. -/
theorem eq_of_same : (left right : Json) → same left right = true → left = right
  | .arr lefts, .arr rights, agree =>
      congrArg arr (eq_of_sameItems lefts rights agree)
  | .obj lefts, .obj rights, agree =>
      congrArg obj (eq_of_sameMembers lefts rights agree)
  | .null, .null, _ => rfl
  | .bool _, .bool _, agree => congrArg bool (eq_of_beq agree)
  | .int _, .int _, agree => congrArg int (eq_of_beq agree)
  | .str _, .str _, agree => congrArg str (eq_of_beq agree)

theorem eq_of_sameItems :
    (lefts rights : List Json) → sameItems lefts rights = true → lefts = rights
  | [], [], _ => rfl
  | left :: lefts, right :: rights, agree => by
      rw [sameItems, Bool.and_eq_true] at agree
      rw [eq_of_same left right agree.1, eq_of_sameItems lefts rights agree.2]

theorem eq_of_sameMembers :
    (lefts rights : List (String × Json)) → sameMembers lefts rights = true →
      lefts = rights
  | [], [], _ => rfl
  | (key, left) :: lefts, (other, right) :: rights, agree => by
      rw [sameMembers, Bool.and_eq_true, Bool.and_eq_true, beq_iff_eq] at agree
      rw [agree.1.1, eq_of_same left right agree.1.2,
        eq_of_sameMembers lefts rights agree.2]

end

end Json
end MailSearch
