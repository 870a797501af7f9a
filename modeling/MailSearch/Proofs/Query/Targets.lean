import Mathlib.Data.List.Basic
import Mathlib.Data.List.Induction
import MailSearch.Query.Rule

/-!
# Targets of rules

Rules send a message to the mailboxes that the matching ones list, each mailbox
once and where it is listed first.  So the targets of two lists of rules, one
behind the other, are those of the first list and then the further ones of the
second.
-/

namespace MailSearch
namespace Query
namespace Rule

/-! ## First occurrences -/

/-- Some texts are those of a list, each of them once, in the order in which
they first occur. -/
structure FirstOccurrences (listed targets : List String) : Prop where
  /-- A text is among them if it is in the list. -/
  mem_iff : ∀ text, text ∈ targets ↔ text ∈ listed
  /-- A text that occurs earlier in the list stands in front. -/
  ordered : targets.Pairwise fun left right =>
    listed.idxOf left < listed.idxOf right

namespace FirstOccurrences

variable {listed targets : List String}

theorem nodup
    (first : FirstOccurrences listed targets) :
    targets.Nodup := by
  refine first.ordered.imp ?_
  rintro left right less rfl
  exact absurd less (Nat.lt_irrefl _)

/-- A text that the list goes on with is added at the end, unless it is
there. -/
theorem addTarget
    (first : FirstOccurrences listed targets)
    (next : String) :
    FirstOccurrences (listed ++ [next]) (addTarget targets next) := by
  have kept : targets.Pairwise fun left right =>
      (listed ++ [next]).idxOf left < (listed ++ [next]).idxOf right := by
    refine first.ordered.imp_of_mem fun leftIn rightIn less => ?_
    rwa [List.idxOf_append_of_mem ((first.mem_iff _).mp leftIn),
      List.idxOf_append_of_mem ((first.mem_iff _).mp rightIn)]
  by_cases present : next ∈ targets
  · have unchanged : Rule.addTarget targets next = targets :=
      if_pos (by simpa using present)
    rw [unchanged]
    refine ⟨fun text => ?_, kept⟩
    rw [List.mem_append, List.mem_singleton, first.mem_iff]
    refine (or_iff_left_of_imp ?_).symm
    rintro rfl
    exact (first.mem_iff _).mp present
  · have appended : Rule.addTarget targets next = targets ++ [next] :=
      if_neg (by simpa using present)
    rw [appended]
    refine ⟨fun text => by simp only [List.mem_append, first.mem_iff], ?_⟩
    refine List.pairwise_append.mpr ⟨kept, List.pairwise_singleton _ _,
      fun left isTarget => ?_⟩
    refine List.forall_mem_singleton.mpr ?_
    have isListed : left ∈ listed := (first.mem_iff left).mp isTarget
    have unlisted : next ∉ listed :=
      fun isIn => present ((first.mem_iff next).mpr isIn)
    rw [List.idxOf_append_of_mem isListed, List.idxOf_append_of_notMem unlisted]
    exact Nat.lt_add_right _ (List.idxOf_lt_length_iff.mpr isListed)

end FirstOccurrences

/-- Adding the texts of a list one after the other leaves their first
occurrences. -/
theorem firstOccurrences_foldl
    (listed : List String) :
    FirstOccurrences listed (listed.foldl addTarget []) := by
  induction listed using List.reverseRecOn with
  | nil => exact ⟨fun _ => Iff.rfl, .nil⟩
  | append_singleton earlier next inductionHypothesis =>
      rw [List.foldl_append]
      exact inductionHypothesis.addTarget next

/-- Of further texts those are added that are not there, as if there were no
others. -/
theorem foldl_addTarget
    (targets listed : List String) :
    listed.foldl addTarget targets =
      targets ++ (listed.foldl addTarget []).filter fun text =>
        text ∉ targets := by
  induction listed using List.reverseRecOn with
  | nil => simp
  | append_singleton earlier next inductionHypothesis =>
      rw [List.foldl_append, List.foldl_append, inductionHypothesis]
      generalize earlier.foldl addTarget [] = added
      simp only [List.foldl_cons, List.foldl_nil, addTarget,
        List.contains_iff_mem]
      by_cases present : next ∈ targets <;> by_cases repeated : next ∈ added <;>
        simp [present, repeated, List.filter_append]

/-! ## Lists of rules -/

/-- The mailboxes that the matching rules list, one rule after the other. -/
def listed (rules : List Rule) (message : Message) : List String :=
  (rules.filter fun rule => rule.isMatch message).flatMap Rule.appendIn

section Targets

variable {rules : List Rule} {rule : Rule} {message : Message}

theorem mem_listed_iff
    {mailbox : String} :
    mailbox ∈ listed rules message ↔
      ∃ rule ∈ rules, rule.isMatch message = true ∧
        mailbox ∈ rule.appendIn := by
  simp only [listed, List.mem_flatMap, List.mem_filter, and_assoc]

theorem firstOccurrences_targets
    (rules : List Rule)
    (message : Message) :
    FirstOccurrences (listed rules message) (targets rules message) :=
  firstOccurrences_foldl _

theorem targets_append
    (rules later : List Rule)
    (message : Message) :
    targets (rules ++ later) message =
      targets rules message ++
        (targets later message).filter fun mailbox =>
          mailbox ∉ targets rules message := by
  have parted : listed (rules ++ later) message =
      listed rules message ++ listed later message := by
    rw [listed, List.filter_append, List.flatMap_append]
    rfl
  change (listed (rules ++ later) message).foldl addTarget [] = _
  rw [parted, List.foldl_append, foldl_addTarget]
  rfl

/-- A rule that is there already has no further targets. -/
theorem targets_append_of_mem
    (isRule : rule ∈ rules) :
    targets (rules ++ [rule]) message = targets rules message := by
  rw [targets_append, List.append_right_eq_self, List.filter_eq_nil_iff]
  intro mailbox isTarget
  have isListed : mailbox ∈ listed [rule] message :=
    ((firstOccurrences_targets _ _).mem_iff mailbox).mp isTarget
  obtain ⟨same, isSame, isMatch, isIn⟩ := mem_listed_iff.mp isListed
  rw [List.mem_singleton.mp isSame] at isMatch isIn
  have again : mailbox ∈ targets rules message :=
    ((firstOccurrences_targets _ _).mem_iff mailbox).mpr
      (mem_listed_iff.mpr ⟨rule, isRule, isMatch, isIn⟩)
  simpa using again

end Targets

/--
The targets of rules are an ordered union of what the matching rules list: each
mailbox stands there once, if some matching rule lists it, and where it is
listed first.  Further rules only add the targets that they have of their own,
behind the others, and a repeated rule adds nothing.
-/
theorem targets_form_ordered_union
    (rules : List Rule)
    (message : Message) :
    (targets rules message).Nodup ∧
    (∀ mailbox, mailbox ∈ targets rules message ↔
      ∃ rule ∈ rules, rule.isMatch message = true ∧ mailbox ∈ rule.appendIn) ∧
    ((targets rules message).Pairwise fun left right =>
      (listed rules message).idxOf left < (listed rules message).idxOf right) ∧
    (∀ later, targets (rules ++ later) message =
      targets rules message ++
        (targets later message).filter fun mailbox =>
          mailbox ∉ targets rules message) ∧
    (∀ later, targets rules message <+: targets (rules ++ later) message) ∧
    ∀ rule ∈ rules, ∀ later,
      targets (rules ++ rule :: later) message =
        targets (rules ++ later) message := by
  have first := firstOccurrences_targets rules message
  refine ⟨first.nodup, fun mailbox =>
      (first.mem_iff mailbox).trans mem_listed_iff, first.ordered,
    fun later => targets_append rules later message, fun later => ?_, ?_⟩
  · rw [targets_append]
    exact List.prefix_append _ _
  · intro rule isRule later
    rw [List.append_cons, targets_append, targets_append_of_mem isRule,
      ← targets_append]

end Rule
end Query
end MailSearch
