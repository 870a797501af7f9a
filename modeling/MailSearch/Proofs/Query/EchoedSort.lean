import MailSearch.Proofs.Query.Answering
import MailSearch.Proofs.Query.ListForm
import MailSearch.Proofs.Query.Paging
import MailSearch.Proofs.Text.Words

/-!
# Sort orders of answers

An answer repeats the sort order in which it lists messages, key by key as a
text.  These texts are read as the same order, so the same request with them as
its sort order has the same answer, wherever the order came from before.
-/

namespace MailSearch
namespace Query

/-! ## Texts of sort orders -/

theorem SortField.solid_name
    (field : SortField) :
    Text.Solid field.name.toList := by
  apply Text.Solid.of_isAlphanum <;> cases field <;> decide

theorem Direction.solid_name
    (direction : Direction) :
    Text.Solid direction.name.toList := by
  apply Text.Solid.of_isAlphanum <;> cases direction <;> decide

namespace SortKey

/-- How a text of a sort key is laid out, with blanks wherever they may
stand. -/
inductive LaidOut : List Char -> SortKey -> Prop where
  /-- A field alone runs downwards. -/
  | bare {front back : List Char}
      (frontBlanks : Text.Blanks front)
      (field : SortField)
      (backBlanks : Text.Blanks back) :
      LaidOut (front ++ field.name.toList ++ back) ⟨field, .descending⟩
  /-- Behind the field stands the direction. -/
  | directed {front gap back : List Char}
      (frontBlanks : Text.Blanks front)
      (field : SortField)
      (gapBlanks : Text.Blanks gap)
      (apart : gap ≠ [])
      (direction : Direction)
      (backBlanks : Text.Blanks back) :
      LaidOut (front ++ field.name.toList ++ gap ++
          direction.name.toList ++ back)
        ⟨field, direction⟩

/-- A text stands for a sort key if it is laid out as one. -/
theorem spells_iff_laidOut
    {text : String}
    {key : SortKey} :
    Spells text key ↔ LaidOut text.toList key := by
  constructor
  · intro spells
    cases spells with
    | @bare field words =>
        obtain ⟨-, front, back, frontBlanks, backBlanks, laidOut⟩ :=
          Text.words_eq_singleton_iff.mp words
        rw [laidOut]
        exact .bare frontBlanks field backBlanks
    | @directed field direction words =>
        obtain ⟨-, -, front, gap, back, frontBlanks, gapBlanks, apart,
            backBlanks, laidOut⟩ :=
          Text.words_eq_pair_iff.mp words
        rw [laidOut]
        exact .directed frontBlanks field gapBlanks apart direction backBlanks
  · generalize same : text.toList = chars
    intro laidOut
    cases laidOut with
    | @bare front back frontBlanks field backBlanks =>
        refine .bare (Text.words_eq_singleton_iff.mpr ⟨field.solid_name, ?_⟩)
        exact ⟨front, back, frontBlanks, backBlanks, same⟩
    | @directed front gap back frontBlanks field gapBlanks apart direction
          backBlanks =>
        refine .directed (Text.words_eq_pair_iff.mpr ⟨field.solid_name,
          direction.solid_name, ?_⟩)
        exact ⟨front, gap, back, frontBlanks, gapBlanks, apart,
          backBlanks, same⟩

/-- The text of a key stands for the key. -/
theorem spells_toText
    (key : SortKey) :
    Spells key.toText key := by
  rw [spells_iff_laidOut]
  have blank : Text.Blanks [' '] := by decide
  have laidOut := LaidOut.directed (List.forall_mem_nil _) key.field blank
      (List.cons_ne_nil _ _)
    key.direction (List.forall_mem_nil _)
  have chars : key.toText.toList =
      [] ++ key.field.name.toList ++ [' '] ++
        key.direction.name.toList ++ [] := by
    rw [List.nil_append, List.append_nil, toText, String.toList_append,
      String.toList_append]
    rfl
  rwa [chars]

end SortKey

namespace SortOrder

theorem forall₂_spells_toTexts
    (order : SortOrder) :
    List.Forall₂ SortKey.Spells order.toTexts order.keys := by
  rw [toTexts, List.forall₂_map_left_iff, List.forall₂_same]
  exact fun key _ => key.spells_toText

/-- The texts of a sort order are read as this order. -/
theorem parse_toTexts
    (order : SortOrder) :
    parse order.toTexts = .ok order :=
  parse_eq_ok_iff.mpr order.forall₂_spells_toTexts

/-- Texts are a sort order if there are some and each is a field, perhaps with a
direction. -/
theorem exists_parse_eq_ok_iff
    {texts : List String} :
    (∃ order, parse texts = .ok order) ↔ texts ≠ [] ∧ ∀ text ∈ texts,
      ∃ field : SortField,
      Text.words text.toList = [field.name.toList] ∨ ∃ direction : Direction,
        Text.words text.toList = [field.name.toList,
          direction.name.toList] := by
  simp only [parse_eq_ok_iff]
  constructor
  · rintro ⟨order, each⟩
    refine ⟨?_, fun text isText => ?_⟩
    · rintro rfl
      exact order.nonempty (List.forall₂_nil_left_iff.mp each)
    · obtain ⟨key, spells⟩ := Outcome.exists_of_forall₂ each text isText
      cases spells with
      | @bare field words => exact ⟨field, .inl words⟩
      | @directed field direction words =>
          exact ⟨field, .inr ⟨direction, words⟩⟩
  · rintro ⟨nonempty, each⟩
    have spelled : ∀ text ∈ texts, ∃ key, SortKey.Spells text key := by
      intro text isText
      obtain ⟨field, words | ⟨direction, words⟩⟩ := each text isText
      · exact ⟨_, .bare words⟩
      · exact ⟨_, .directed words⟩
    obtain ⟨keys, spells⟩ := Outcome.exists_forall₂ spelled
    refine ⟨⟨keys, ?_⟩, spells⟩
    rintro rfl
    exact nonempty (List.forall₂_nil_right_iff.mp spells)

end SortOrder

/-! ## Requests with another sort order -/

/-- A request with other sort keys; what is neither an object nor a list has
none. -/
def resorted (texts : List String) : Json -> Json
  | .obj members =>
      .obj ((members.filter fun member => member.1 != "sort") ++
        [("sort", Json.strings texts)])
  | .arr [] => .arr [.null, .null, Json.strings texts]
  | .arr [account] => .arr [account, .null, Json.strings texts]
  | .arr (account :: filter :: rest) =>
      .arr (account :: filter :: Json.strings texts :: rest.tail)
  | other => other

namespace Request

section Objects

variable {settings : Settings} {request : Request} {given : Option Json}

/-- The other members say nothing about the sort order. -/
theorem Slot.States.withSort
    {slot : Slot}
    (other : slot ≠ .sort)
    (states : slot.States settings request given)
    (order : SortOrder) :
    slot.States settings { request with sort := some order } given := by
  cases slot with
  | sort => exact absurd rfl other
  | _ => exact states

/-- Members that differ in the sort order only denote requests that do so. -/
theorem ofJson_withSort
    {members others : List (String × Json)}
    {order : SortOrder}
    (known : ∀ name, Json.last? name others ≠ none → name ∈ memberNames)
    (sorted : Json.last? "sort" others = some (Json.strings order.toTexts))
    (kept : ∀ slot : Slot, slot ≠ .sort →
      slot.States settings request (Json.last? slot.name members) →
        slot.States settings request (Json.last? slot.name others))
    (accepted : ofJson settings (.obj members) = .ok request) :
    ofJson settings (.obj others) =
      .ok { request with sort := some order } := by
  obtain ⟨-, states⟩ :=
    denotes_iff_states.mp (ofJson_eq_ok_iff_denotes.mp accepted)
  refine ofJson_eq_ok_iff_denotes.mpr (denotes_iff_states.mpr
    ⟨known, fun slot => ?_⟩)
  by_cases isSort : slot = .sort
  · subst isSort
    refine ⟨some order.toTexts, ?_, .given order.forall₂_spells_toTexts⟩
    exact sorted ▸ .given rfl
  · exact (kept slot isSort (states slot)).withSort isSort order

theorem ofJson_resorted_obj
    {members : List (String × Json)}
    (accepted : ofJson settings (.obj members) = .ok request)
    (order : SortOrder) :
    ofJson settings (resorted order.toTexts (.obj members)) =
      .ok { request with sort := some order } := by
  have sorted :
      Json.last? "sort" ((members.filter fun member => member.1 != "sort") ++
          [("sort", Json.strings order.toTexts)]) =
        some (Json.strings order.toTexts) := by
    simp [Json.last?_append, Json.last?]
  have kept : ∀ name, name ≠ "sort" → Json.last? name
      ((members.filter fun member => member.1 != "sort") ++
        [("sort", Json.strings order.toTexts)]) = Json.last? name members := by
    intro name other
    rw [Json.last?_append, Json.last?_filter_ne other]
    simp [Json.last?, other.symm]
  refine ofJson_withSort ?_ sorted ?_ accepted
  · intro name present
    by_cases isSort : name = "sort"
    · subst isSort
      decide
    · rw [kept name isSort] at present
      exact (ofJson_eq_ok_iff_denotes.mp accepted).known name present
  · intro slot other states
    rwa [kept slot.name fun same =>
      other (@Slot.name_injective slot .sort same)]

/-- In a list, what stands before the sort keys is `null` where nothing was
given. -/
theorem ofJson_resorted_arr
    {items : List Json}
    (accepted : ofJson settings (.arr items) = .ok request)
    (order : SortOrder) :
    ofJson settings (resorted order.toTexts (.arr items)) =
      .ok { request with sort := some order } := by
  obtain ⟨fits, accepted⟩ := ofJson_arr_eq_ok_iff.mp accepted
  have known {others : List Json} : ∀ name,
      Json.last? name (named others) ≠ none →
      name ∈ memberNames := fun name => mem_memberNames_of_last?_named
  have short : 3 ≤ memberNames.length := by decide
  -- The account and the filter stand before the sort order, and either may be
  -- absent.
  rcases items with - | ⟨account, - | ⟨filter, - | ⟨sort, rest⟩⟩⟩
  · refine ofJson_arr_eq_ok_iff.mpr ⟨short,
      ofJson_withSort known rfl ?_ accepted⟩
    intro slot other states
    cases slot with
    | sort => exact absurd rfl other
    | accountId => exact Json.Optionally.null_of_absent states
    | filter => exact Json.Optionally.null_of_absent states
    | _ => exact states
  · refine ofJson_arr_eq_ok_iff.mpr ⟨short,
      ofJson_withSort known rfl ?_ accepted⟩
    intro slot other states
    cases slot with
    | sort => exact absurd rfl other
    | filter => exact Json.Optionally.null_of_absent states
    | _ => exact states
  · refine ofJson_arr_eq_ok_iff.mpr ⟨short,
      ofJson_withSort known rfl ?_ accepted⟩
    intro slot other states
    cases slot with
    | sort => exact absurd rfl other
    | _ => exact states
  · refine ofJson_arr_eq_ok_iff.mpr ⟨fits, ofJson_withSort known ?_ ?_ accepted⟩
    · rw [Json.last?_of_distinct (distinct_named _)]
      rfl
    · intro slot other states
      rw [Json.last?_of_distinct (distinct_named _)] at states ⊢
      cases slot with
      | sort => exact absurd rfl other
      | _ => exact states

end Objects

/-- A request with the texts of a sort order is read as the same request with
this order. -/
theorem ofJson_resorted
    {settings : Settings}
    {value : Json}
    {request : Request}
    (accepted : ofJson settings value = .ok request)
    (order : SortOrder) :
    ofJson settings (resorted order.toTexts value) =
      .ok { request with sort := some order } := by
  cases value with
  | obj members => exact ofJson_resorted_obj accepted order
  | arr items => exact ofJson_resorted_arr accepted order
  | _ => exact absurd ((ofJson_of_record_error rfl).symm.trans accepted) nofun

end Request

/-! ## Answers to requests with another sort order -/

namespace Engine

variable {engine : Engine} {principal : String}

/-- An answer has the sort order of its request, or else the configured one. -/
theorem sort_eq_of_execute
    {request : Request}
    {answer : Answer}
    (answered : engine.execute principal request = .ok (some answer)) :
    answer.sort = request.sort.getD engine.settings.order := by
  obtain ⟨_, selected, -, -, replied⟩ := exists_selected_of_run answered
  exact (Answer.ofSelected_eq_some_iff.mp replied.symm).sort_eq

/-- It does not matter whether a request gives the order that applies without
one. -/
theorem execute_withSort
    (engine : Engine)
    (principal : String)
    (request : Request) :
    engine.execute principal
      { request with sort := some (request.sort.getD engine.settings.order) } =
        engine.execute principal request := rfl

/-- The request with the sort order of its answer has the same answer. -/
theorem query_resorted
    {value : Json}
    {answer : Answer}
    (answered : engine.query principal value = .ok (some answer)) :
    engine.query principal (resorted answer.sort.toTexts value) =
      .ok (some answer) := by
  obtain ⟨request, accepted, executed⟩ := exists_accepted answered
  rw [query_of_accepted (Request.ofJson_resorted accepted answer.sort)
      principal,
    sort_eq_of_execute executed, execute_withSort, executed]

end Engine

/--
Sort orders are read back from their texts, and texts are a sort order if they
are laid out as its keys, however many blanks of whatever kind stand between and
around the words.  So a request with the sort order of its answer has the same
answer, whether the request gave this order, the configuration did, or neither.
-/
theorem echoed_sort_reproduces_answer :
    (∀ order : SortOrder, SortOrder.parse order.toTexts = .ok order) ∧
      (∀ texts, (∃ order, SortOrder.parse texts = .ok order) ↔
        texts ≠ [] ∧ ∀ text ∈ texts, ∃ field : SortField,
          Text.words text.toList = [field.name.toList] ∨
              ∃ direction : Direction,
            Text.words text.toList = [field.name.toList,
              direction.name.toList]) ∧
      (∀ texts order, SortOrder.parse texts = .ok order ↔
        List.Forall₂
          (fun text key => SortKey.LaidOut text.toList key) texts order.keys) ∧
      ∀ (engine : Engine) (principal : String) (value : Json) (answer : Answer),
        engine.query principal value = .ok (some answer) →
          engine.query principal (resorted answer.sort.toTexts value) =
            .ok (some answer) := by
  refine ⟨SortOrder.parse_toTexts, fun texts =>
      SortOrder.exists_parse_eq_ok_iff,
    fun texts order =>
      SortOrder.parse_eq_ok_iff.trans ⟨fun each => ?_, fun each => ?_⟩,
    fun engine principal value answer => Engine.query_resorted⟩
  · exact each.imp fun _ _ => SortKey.spells_iff_laidOut.mp
  · exact each.imp fun _ _ => SortKey.spells_iff_laidOut.mpr

namespace Shelf

/-- The engine under a configured sort order that cannot be read. -/
def misconfigured : Engine :=
  { engine with settings := { Settings.standard with
    defaultSort := ["size asc", "color"] } }

/-- A request for the configured order is answered with the order that stands in
for it. -/
theorem substitute_order_echoed :
    ∃ answer,
        misconfigured.query "alice"
        (.obj [("sort", .arr []), ("limit", .nat 2)]) =
        .ok (some answer) ∧
      answer.sort.toTexts = ["date desc"] ∧
      misconfigured.query "alice"
          (.obj [("limit", .nat 2), ("sort", Json.strings ["date desc"])]) =
        .ok (some answer) := by
  have accepted : ∃ request, Request.ofJson misconfigured.settings
      (.obj [("sort", .arr []), ("limit", .nat 2)]) = .ok request ∧
      misconfigured.execute "alice" request =
        .ok (Answer.ofSelected misconfigured.settings request candidates) ∧
      request.fetchMessages = false ∧
      (request.sort.getD misconfigured.settings.order).toTexts =
        ["date desc"] :=
    ⟨_, rfl, rfl, rfl, rfl⟩
  obtain ⟨request, accepted, executed, unfetched, texts⟩ := accepted
  obtain ⟨answer, isAnswer⟩ :=
    Engine.exists_answer_of_not_fetched unfetched executed
  have answered := (Engine.query_of_accepted accepted "alice").trans executed
  rw [isAnswer] at answered executed
  have again :=
    echoed_sort_reproduces_answer.2.2.2 misconfigured "alice" _ _ answered
  rw [← Engine.sort_eq_of_execute executed] at texts
  rw [texts] at again
  exact ⟨answer, answered, texts, again⟩

end Shelf

end Query
end MailSearch
