import MailSearch.Proofs.Mail.Message
import MailSearch.Proofs.Query.Acceptance
import MailSearch.Proofs.Query.Algebra
import MailSearch.Proofs.Query.Conditions
import MailSearch.Proofs.Query.FieldSearch

/-!
# Ranges

A filter for the messages below a bound, or above it, compares them with the
bound as sorting compares them with one another.  So in a listing that goes by
the same field the messages below stand first and those above stand last.
-/

namespace MailSearch

/-- An instant is before another if it comes first in the order in time. -/
theorem Calendar.Instant.before_iff
    {left right : Instant} :
    left.before right = true ↔ left.compare right = .lt := by
  rw [before, compare, Ordering.then_eq_lt, Std.LawfulEqOrd.compare_eq_iff_eq,
    Std.compare_eq_lt, Std.compare_eq_lt]
  simp

theorem Calendar.Instant.compare_eq_iff
    {left right : Instant} :
    left.compare right = .eq ↔ left = right := by
  obtain ⟨leftSecond, leftNano⟩ := left
  obtain ⟨rightSecond, rightNano⟩ := right
  rw [compare, Ordering.then_eq_eq, Std.LawfulEqOrd.compare_eq_iff_eq,
    Std.LawfulEqOrd.compare_eq_iff_eq, Instant.mk.injEq]

namespace Query

/-- What a range ends at. -/
inductive Bound where
  /-- A text of RFC 3339, with the instant that it denotes. -/
  | date (text : String) (instant : Calendar.Instant)
      (denotes : Calendar.InternetText instant text.toList)
  /-- A whole number of 64 bits. -/
  | size (number : Nat) (fits : number < 2 ^ 64)

namespace Bound

/-- The field that is compared with the bound. -/
def field : Bound -> SortField
  | .date _ _ _ => .date
  | .size _ _ => .size

/-- The text of the sort key that goes by the field, the least first. -/
def sortText : Bound -> String
  | .date _ _ _ => "date asc"
  | .size _ _ => "size asc"

/-- The filter for the messages below the bound. -/
def below : Bound -> Json
  | .date text _ _ => .obj [("before", .str text)]
  | .size number _ => .obj [("maxSize", .nat number)]

/-- The filter for the messages above the bound. -/
def above : Bound -> Json
  | .date text _ _ => .obj [("after", .str text)]
  | .size number _ => .obj [("minSize", .nat number)]

/-- A message has the date or the size of the bound. -/
def Meets (bound : Bound) (message : Message) : Prop :=
  match bound with
  | .date _ instant _ => message.sentAt = instant
  | .size number _ => message.size = number

/-- What holds of the messages below the bound. -/
def isBelow : Bound -> Predicate
  | .date _ instant _ => .before instant
  | .size number _ => .smallerThan number

/-- What holds of the messages above the bound. -/
def isAbove : Bound -> Predicate
  | .date _ instant _ => .after instant
  | .size number _ => .largerThan number

/-- A candidate that is neither below nor above the bound. -/
def probe : Bound -> Candidate
  | .date _ instant _ =>
      ⟨{ Message.bare "" [] 0 with receivedAt := instant }, .empty⟩
  | .size number _ => ⟨.bare "" [] number, .empty⟩

/-- Where a candidate stands to the bound. -/
def place (bound : Bound) (candidate : Candidate) : Ordering :=
  bound.field.compare candidate bound.probe

section Places

variable {bound : Bound} {contains : TextScope -> String -> String -> Bool}
  {candidate : Candidate}

theorem isTrue_isBelow_iff :
    Filter.isTrue contains candidate bound.isBelow ↔
      bound.place candidate = .lt := by
  cases bound with
  | date text instant denotes => exact Calendar.Instant.before_iff
  | size number fits =>
      change decide (candidate.message.size < number) = true ↔
        Ord.compare candidate.message.size number = .lt
      rw [decide_eq_true_iff, Std.compare_eq_lt]

theorem isTrue_isAbove_iff :
    Filter.isTrue contains candidate bound.isAbove ↔
      bound.place candidate = .gt := by
  rw [place, Std.OrientedCmp.gt_iff_lt]
  cases bound with
  | date text instant denotes => exact Calendar.Instant.before_iff
  | size number fits =>
      change decide (number < candidate.message.size) = true ↔
        Ord.compare number candidate.message.size = .lt
      rw [decide_eq_true_iff, Std.compare_eq_lt]

theorem place_eq_iff_meets :
    bound.place candidate = .eq ↔ bound.Meets candidate.message := by
  cases bound with
  | date text instant denotes => exact Calendar.Instant.compare_eq_iff
  | size number fits => exact Std.LawfulEqOrd.compare_eq_iff_eq

end Places

/-! ## Filters of ranges -/

/-- A filter with one property stands for the predicate of its value. -/
theorem standsFor_single
    {name : String}
    {shape : Shape}
    (shaped : shapes.lookup name = some shape)
    {value : Json}
    {predicate : Predicate}
    (reads : shape.Reads value predicate)
    (notNull : value.isNull = false)
    (depth : Nat) :
    Request.StandsFor depth (.obj [(name, value)]) (.condition [predicate]) :=
  Request.filterOf_eq_ok_iff.mpr
    (.given (Filter.denotes_single shaped reads notNull depth))

theorem standsFor_below
    (bound : Bound)
    (depth : Nat) :
    Request.StandsFor depth bound.below (.condition [bound.isBelow]) := by
  cases bound with
  | date text instant denotes =>
      exact standsFor_single rfl (.date denotes) rfl depth
  | size number fits => exact standsFor_single rfl (.size fits) rfl depth

theorem standsFor_above
    (bound : Bound)
    (depth : Nat) :
    Request.StandsFor depth bound.above (.condition [bound.isAbove]) := by
  cases bound with
  | date text instant denotes =>
      exact standsFor_single rfl (.date denotes) rfl depth
  | size number fits => exact standsFor_single rfl (.size fits) rfl depth

end Bound

/-! ## Listings -/

/-- Items that come in the order of their places are those of one place after
the other. -/
theorem eq_filter_append
    {α : Type}
    {place : α -> Ordering}
    {items : List α}
    (ordered : items.Pairwise fun left right =>
      (place right = .lt → place left = .lt) ∧
        (place left = .gt → place right = .gt)) :
    items = items.filter (place · == .lt) ++ items.filter (place · == .eq) ++
      items.filter (place · == .gt) := by
  induction items with
  | nil => rfl
  | cons item rest inductionHypothesis =>
      obtain ⟨first, restOrdered⟩ := List.pairwise_cons.mp ordered
      have later := inductionHypothesis restOrdered
      cases here : place item with
      | lt =>
          simp only [List.filter_cons, here]
          exact congrArg (item :: ·) later
      | eq =>
          have noneBelow : rest.filter (place · == .lt) = [] := by
            apply List.filter_eq_nil_iff.mpr
            intro other isOther isBelow
            have := (first other isOther).1 (beq_iff_eq.mp isBelow)
            simp [here] at this
          rw [noneBelow, List.nil_append] at later
          simp only [List.filter_cons, here, noneBelow]
          exact congrArg (item :: ·) later
      | gt =>
          have noneOn : ∀ side, side ≠ .gt →
              rest.filter (place · == side) = [] := by
            intro side differs
            apply List.filter_eq_nil_iff.mpr
            intro other isOther isOn
            rw [(first other isOther).2 here, beq_iff_eq] at isOn
            exact differs isOn.symm
          rw [noneOn .lt nofun, noneOn .eq nofun] at later
          simp only [List.filter_cons, here, noneOn .lt nofun, noneOn .eq nofun]
          exact congrArg (item :: ·) later

namespace Bound

/-- In the order of the field, places come in their order. -/
theorem place_of_before
    {bound : Bound}
    {left right : Candidate}
    (before : Before left right [⟨bound.field, .ascending⟩]) :
    (bound.place right = .lt → bound.place left = .lt) ∧
      (bound.place left = .gt → bound.place right = .gt) := by
  have least : (bound.field.compare left right).isLE = true := by
    cases before with
    | differ first =>
        have compared : bound.field.compare left right = .lt := first
        rw [compared]
        rfl
    | agree same _ =>
        have compared : bound.field.compare left right = .eq := same
        rw [compared]
        rfl
  constructor
  · exact Std.TransCmp.lt_of_isLE_of_lt least
  · intro above
    rw [place, Std.OrientedCmp.gt_iff_lt] at above ⊢
    exact Std.TransCmp.lt_of_lt_of_isLE above least

/-- A listing by the field has the candidates below first and those above
last. -/
theorem split_of_lists
    {bound : Bound}
    {wanted : Candidate -> Prop}
    {listed : List Candidate}
    (lists : Lists [⟨bound.field, .ascending⟩] wanted listed) :
    listed = listed.filter (bound.place · == .lt) ++
      listed.filter (bound.place · == .eq) ++
      listed.filter (bound.place · == .gt) :=
  eq_filter_append (lists.ordered.imp place_of_before)

end Bound

/-! ## Queries by ranges -/

/-- Without a member for the filter a request has none. -/
theorem Request.filter_eq_none
    {settings : Settings}
    {others : List (String × Json)}
    (unfiltered : ∀ member ∈ others, member.1 ≠ "filter")
    {request : Request}
    (accepted : ofJson settings (asking others none) = .ok request) :
    request.filter = none := by
  have denotes := (ofJson_eq_ok_iff_denotes.mp accepted).filter
  rw [Json.last?_eq_none_iff.mpr unfiltered] at denotes
  generalize request.filter = filter at denotes
  cases denotes
  rfl

/-- A request with one sort key for the field of a bound is sorted by it. -/
theorem Request.keys_of_sortText
    {settings : Settings}
    {members : List (String × Json)}
    {request : Request}
    (accepted : ofJson settings (.obj members) = .ok request)
    {bound : Bound}
    (sorted : Json.last? "sort" members =
      some (Json.strings [bound.sortText])) :
    (request.sort.getD settings.order).keys = [⟨bound.field, .ascending⟩] := by
  have spelled : SortKey.Spells bound.sortText ⟨bound.field, .ascending⟩ := by
    cases bound with
    | date text instant denotes =>
        have words : Text.words "date asc".toList =
            ["date".toList, "asc".toList] := rfl
        exact .directed words
    | size number fits =>
        have words : Text.words "size asc".toList =
            ["size".toList, "asc".toList] := rfl
        exact .directed words
  obtain ⟨texts, given, order⟩ := (ofJson_eq_ok_iff_denotes.mp accepted).sort
  rw [sorted] at given
  cases given with
  | given form =>
      cases Json.strings_injective form
      have expected : Sorted [bound.sortText]
          (some ⟨[⟨bound.field, .ascending⟩], List.cons_ne_nil _ _⟩) :=
        .given (.cons spelled .nil)
      have read : sortOf (some [bound.sortText]) = .ok request.sort :=
        sortOf_eq_ok_iff.mpr order
      have same := read.symm.trans (sortOf_eq_ok_iff.mpr expected)
      rw [Except.ok.inj same, Option.getD_some]

namespace Engine

section Answering

variable {engine : Engine} {principal : String} {visible : IdSet}
  {held : Message -> Prop} {contains : TextScope -> String -> String -> Bool}

/-- With a filter a query finds the part that it selects of what is found
without one. -/
theorem find_eq_filter
    (sees : engine.visible principal = .ok visible)
    (serves : Serves engine.listing held)
    (finds : engine.index = fun scope term id => .ok (contains scope term id))
    {others : List (String × Json)}
    (unfiltered : ∀ member ∈ others, member.1 ≠ "filter")
    {request : Request}
    (accepted : Request.ofJson engine.settings (asking others none) =
      .ok request)
    (fromStart : request.position = 0)
    {listed : List Candidate}
    (lists : Lists (request.sort.getD engine.settings.order).keys
      (fun candidate => candidate.Shown visible held) listed)
    (canShow : request.CanShow engine.settings listed)
    (room : listed.length ≤ request.limit.getD engine.settings.defaultLimit)
    {value : Json}
    {filter : Filter}
    (standsFor : Request.StandsFor engine.settings.maxFilterDepth value filter)
    {test : Candidate -> Bool}
    (selects : ∀ candidate, filter.Selects contains candidate ↔
      test candidate = true) :
    engine.find principal (asking others (some value)) =
      .ok (some ((listed.filter test).map Candidate.id)) := by
  have plain : Request.ofJson engine.settings (asking others none) =
      .ok { request with filter := none } := by
    rw [accepted, ← Request.filter_eq_none unfiltered accepted]
  refine find_eq_of_lists sees serves finds unfiltered plain fromStart canShow
      room standsFor
    List.filter_sublist ⟨fun candidate => ?_, lists.ordered.filter _⟩
  rw [List.mem_filter, lists.mem_iff, selects]

/-- The queries below and above a bound find the ends of what is found without a
filter. -/
theorem exists_split
    (sees : engine.visible principal = .ok visible)
    (serves : Serves engine.listing held)
    (finds : engine.index = fun scope term id => .ok (contains scope term id))
    (bound : Bound)
    {others : List (String × Json)}
    (unfiltered : ∀ member ∈ others, member.1 ≠ "filter")
    {request : Request}
    (accepted : Request.ofJson engine.settings (asking others none) =
      .ok request)
    (sorted : Json.last? "sort" others = some (Json.strings [bound.sortText]))
    (answers : request.fetchMessages = true →
      ∃ answer, engine.query principal (asking others none) = .ok (some answer))
    (fromStart : request.position = 0)
    (fits : ∀ answer,
        engine.query principal (asking others none) = .ok (some answer) →
      answer.total ≤ request.limit.getD engine.settings.defaultLimit) :
    ∃ below between above : List Candidate,
      ((below ++ between ++ above).map Candidate.id).Nodup ∧
      engine.find principal (asking others none) =
        .ok (some ((below ++ between ++ above).map Candidate.id)) ∧
      engine.find principal (asking others (some bound.below)) =
        .ok (some (below.map Candidate.id)) ∧
      engine.find principal (asking others (some bound.above)) =
        .ok (some (above.map Candidate.id)) ∧
      ∀ candidate, candidate ∈ between ↔
        candidate.Shown visible held ∧ bound.Meets candidate.message := by
  have keys := Request.keys_of_sortText accepted sorted
  obtain ⟨listed, lists, canShow, room, found⟩ :=
    exists_find_unfiltered sees serves finds accepted
        (Request.filter_eq_none unfiltered accepted)
      answers fromStart fits
  have split : listed = listed.filter (bound.place · == .lt) ++
      listed.filter (bound.place · == .eq) ++
        listed.filter (bound.place · == .gt) :=
    Bound.split_of_lists (keys ▸ lists)
  refine ⟨listed.filter (bound.place · == .lt),
    listed.filter (bound.place · == .eq),
    listed.filter (bound.place · == .gt), ?_, ?_,
    find_eq_filter sees serves finds unfiltered accepted fromStart lists
        canShow room
      (bound.standsFor_below _) fun candidate => ?_,
    find_eq_filter sees serves finds unfiltered accepted fromStart lists
        canShow room
      (bound.standsFor_above _) fun candidate => ?_,
    fun candidate => ?_⟩
  · rw [← split]
    exact lists.nodup_ids fun left right leftShown rightShown =>
      leftShown.eq_of_id_eq serves rightShown
  · rw [← split, found]
  · rw [Filter.selects_single, Bound.isTrue_isBelow_iff, beq_iff_eq]
  · rw [Filter.selects_single, Bound.isTrue_isAbove_iff, beq_iff_eq]
  · rw [List.mem_filter, lists.mem_iff, beq_iff_eq, Bound.place_eq_iff_meets]

end Answering

end Engine

end Query
end MailSearch
