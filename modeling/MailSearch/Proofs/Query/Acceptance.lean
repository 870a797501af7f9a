import MailSearch.Proofs.Json.Decode
import MailSearch.Proofs.Query.Asking
import MailSearch.Proofs.Query.Grammar
import MailSearch.Proofs.Query.Members
import MailSearch.Proofs.Query.SortText
import MailSearch.Proofs.Query.Wishes
import MailSearch.Query.Engine

/-!
# Accepted requests

What the members of a request may be, and what each of them says.  The decoder
accepts exactly the requests whose members are of these forms, as the requests
that they denote, and rejects all others as invalid.
-/

namespace MailSearch
namespace Query
/-- A number of a page is a whole number below 2^53. -/
def Page.Number (value : Json) (number : Nat) : Prop :=
  value = .nat number ∧ number ≤ 2 ^ 53 - 1

namespace Request

/-! ## Forms of members -/

/-- A list of names is a selection if each name asks for something. -/
def Selected (names : List String) (selection : Selection) : Prop :=
  ∃ wishes, List.Forall₂ Wish.Spells names wishes ∧ .ofWishes wishes = selection

/-- A flag is a truth value, and absent it is not set. -/
inductive Flagged : Option Json -> Bool -> Prop where
  /-- The flag is absent. -/
  | absent : Flagged none false
  /-- The flag is given. -/
  | given (truth : Bool) : Flagged (some (.bool truth)) truth

/-- Texts of sort keys are a sort order, unless there are none. -/
inductive Sorted : List String -> Option SortOrder -> Prop where
  /-- Without texts the configured order applies. -/
  | default : Sorted [] none
  /-- Each text stands for a key. -/
  | given {texts : List String} {order : SortOrder}
      (each : List.Forall₂ SortKey.Spells texts order.keys) :
        Sorted texts (some order)

/-- The names that a member of a request can have. -/
def memberNames : List String :=
  ["accountId", "filter", "sort", "position", "limit", "collapseThreads",
    "fetchMessages", "fetchMessageProperties", "fetchThreads",
    "fetchSearchSnippets"]

/-- The members that are flags. -/
def flagNames : List String :=
  ["collapseThreads", "fetchMessages", "fetchThreads", "fetchSearchSnippets"]

/-- Members of an object are those of a valid request.  Of a repeated one the
last counts. -/
structure Acceptable (settings : Settings) (members : List (String × Json)) :
    Prop where
  /-- No other member is there. -/
  known : ∀ name, Json.last? name members ≠ none → name ∈ memberNames
  /-- The account is a text. -/
  accountId : ∀ value, Json.last? "accountId" members = some value →
    value = .null ∨ ∃ text, value = .str text
  /-- The filter belongs to the grammar of filters. -/
  filter : ∀ value, Json.last? "filter" members = some value →
    value = .null ∨ Filter.Grammar settings.maxFilterDepth 1 value
  /-- The sort order is a list of texts of sort keys. -/
  sort : ∀ value, Json.last? "sort" members = some value →
    value = .null ∨ ∃ texts, value = Json.strings texts ∧
      ∀ text ∈ texts, ∃ key, SortKey.Spells text key
  /-- The position is a number of a page. -/
  position : ∀ value, Json.last? "position" members = some value →
    value = .null ∨ ∃ number, Page.Number value number
  /-- The limit is a number of a page. -/
  limit : ∀ value, Json.last? "limit" members = some value →
    value = .null ∨ ∃ number, Page.Number value number
  /-- The flags are truth values. -/
  flags : ∀ name ∈ flagNames, ∀ value, Json.last? name members = some value →
    ∃ truth, value = .bool truth
  /-- The properties are a list of names that ask for something. -/
  properties : ∀ value,
      Json.last? "fetchMessageProperties" members = some value →
    value = .null ∨ ∃ names, value = Json.strings names ∧
      ∀ name ∈ names, ∃ wish, Wish.Spells name wish

/-- Members of an object denote a request. -/
structure Denotes (settings : Settings) (members : List (String × Json))
    (request : Request) : Prop where
  /-- No other member is there. -/
  known : ∀ name, Json.last? name members ≠ none → name ∈ memberNames
  /-- The account is the text that is given. -/
  accountId : Json.Optionally (fun value text => value = .str text)
    (Json.last? "accountId" members) request.accountId
  /-- The filter is the one that the value denotes. -/
  filter : Json.Optionally (fun value filter =>
    Filter.Grammar settings.maxFilterDepth 1 value ∧
      Filter.Denotes value filter)
    (Json.last? "filter" members) request.filter
  /-- The sort order has the keys that the texts stand for. -/
  sort : ∃ texts, Json.Optionally
      (fun value texts => value = Json.strings texts)
    (Json.last? "sort" members) texts ∧ Sorted (texts.getD []) request.sort
  /-- The position is the number that is given, or else the start. -/
  position : ∃ number,
      Json.Optionally Page.Number (Json.last? "position" members) number ∧
    number.getD 0 = request.position
  /-- The limit is the number that is given. -/
  limit : Json.Optionally Page.Number (Json.last? "limit" members) request.limit
  /-- The flag is as it is given. -/
  collapseThreads :
    Flagged (Json.last? "collapseThreads" members) request.collapseThreads
  /-- The flag is as it is given. -/
  fetchMessages :
    Flagged (Json.last? "fetchMessages" members) request.fetchMessages
  /-- The selection has what the names ask for. -/
  properties : Json.Optionally (fun value selection =>
    ∃ names, value = Json.strings names ∧ Selected names selection)
    (Json.last? "fetchMessageProperties" members) request.properties
  /-- The flag is a truth value and says nothing. -/
  fetchThreads : ∃ truth, Flagged (Json.last? "fetchThreads" members) truth
  /-- The flag is a truth value and says nothing. -/
  fetchSnippets : ∃ truth,
    Flagged (Json.last? "fetchSearchSnippets" members) truth

/-- The numbers of a request are in range, and none of its parts is empty or
nests too deeply. -/
structure Bounded (settings : Settings) (request : Request) : Prop where
  /-- The position is below 2^53. -/
  position_le : request.position ≤ 2 ^ 53 - 1
  /-- A limit is below 2^53. -/
  limit_le : ∀ limit, request.limit = some limit → limit ≤ 2 ^ 53 - 1
  /-- A sort order has a key. -/
  sort_ne_nil : ∀ order, request.sort = some order → order.keys ≠ []
  /-- A selection contains the identifier. -/
  contains_id : ∀ selection, request.properties = some selection →
    selection.contains .id = true
  /-- Operators nest in a filter to the configured depth at most. -/
  within : ∀ filter, request.filter = some filter →
    Filter.Within settings.maxFilterDepth filter

/-! ## Decoders of parts -/

theorem Flagged.iff_decoded
    {given : Option Json}
    {truth : Bool} :
    Flagged given truth ↔
      ∃ found,
        Option.Rel (fun value truth => Json.boolean value.sortKeys = .ok truth)
          given found ∧
        found.getD false = truth := by
  constructor
  · intro flagged
    cases flagged with
    | absent => exact ⟨none, .none, rfl⟩
    | given truth => exact ⟨some truth, .some rfl, rfl⟩
  · rintro ⟨found, decoded, rfl⟩
    cases decoded with
    | none => exact .absent
    | some decoded =>
        cases Json.eq_of_sortKeys (Json.boolean_eq_ok_iff.mp decoded)
          nofun nofun
        exact .given _

theorem bound_eq_ok_iff
    {name : String}
    {given : Option Json}
    {number : Option Nat} :
    Page.bound name given = .ok number ↔
      Json.Optionally Page.Number given number := by
  constructor
  · intro decoded
    unfold Page.bound at decoded
    split at decoded
    · cases decoded
      exact .absent
    · cases decoded
      exact .null
    · rename_i value
      obtain ⟨⟨least, most⟩, rfl⟩ := Outcome.ite_eq_ok_iff.mp decoded
      refine .given ⟨?_, ?_⟩
      · rw [Json.nat, Int.toNat_of_nonneg least]
      · unfold Page.greatest at most
        omega
    · cases decoded
  · intro optionally
    cases optionally with
    | absent => rfl
    | null => rfl
    | given form =>
        obtain ⟨rfl, most⟩ := form
        apply Outcome.ite_eq_ok_iff.mpr
        refine ⟨⟨Int.natCast_nonneg _, ?_⟩, by simp⟩
        unfold Page.greatest
        omega

theorem sortOf_eq_ok_iff
    {texts : Option (List String)}
    {sort : Option SortOrder} :
    sortOf texts = .ok sort ↔ Sorted (texts.getD []) sort := by
  have absent : (.ok none : Except Invalid (Option SortOrder)) = .ok sort ↔
      Sorted [] sort := by
    constructor
    · intro same
      cases same
      exact .default
    · intro sorted
      cases sorted with
      | default => rfl
      | @given _ order each =>
          exact absurd (List.forall₂_nil_left_iff.mp each) order.nonempty
  cases texts with
  | none => exact absent
  | some texts =>
      cases texts with
      | nil => exact absent
      | cons first rest =>
          rw [sortOf, Outcome.map_eq_ok_iff, Option.getD_some]
          simp only [SortOrder.parse_eq_ok_iff]
          constructor
          · rintro ⟨order, each, rfl⟩
            exact .given each
          · intro sorted
            cases sorted with
            | given each => exact ⟨_, each, rfl⟩

theorem propertiesOf_eq_ok_iff
    {given : Option Json}
    {names : Option (List String)}
    (named : Json.Optionally
      (fun value names => value = Json.strings names) given names)
    {properties : Option Selection} :
    propertiesOf names = .ok properties ↔
      Json.Optionally (fun value selection =>
        ∃ names, value = Json.strings names ∧ Selected names selection) given
          properties := by
  cases named with
  | absent =>
      constructor
      · intro decoded
        cases decoded
        exact .absent
      · intro optionally
        cases optionally
        rfl
  | null =>
      constructor
      · intro decoded
        cases decoded
        exact .null
      · intro optionally
        cases optionally with
        | null => rfl
        | given form =>
            obtain ⟨names, absurd, -⟩ := form
            cases absurd
  | @given value names form =>
      subst form
      rw [propertiesOf, Outcome.map_eq_ok_iff]
      simp only [Selection.parse_eq_ok_iff]
      constructor
      · rintro ⟨selection, selected, rfl⟩
        exact .given ⟨names, rfl, selected⟩
      · intro optionally
        cases optionally with
        | given form =>
            obtain ⟨others, same, selected⟩ := form
            cases Json.strings_injective same
            exact ⟨_, selected, rfl⟩

theorem filterOf_of_ne_null
    {depth : Nat}
    {value : Json}
    (notNull : value ≠ .null) :
    filterOf depth (some value) = (Filter.ofJson depth value).map some := by
  cases value with
  | null => exact absurd rfl notNull
  | _ => rfl

theorem filterOf_eq_ok_iff
    {depth : Nat}
    {given : Option Json}
    {filter : Option Filter} :
    filterOf depth (given.map Json.sortKeys) = .ok filter ↔
      Json.Optionally (fun value filter =>
        Filter.Grammar depth 1 value ∧ Filter.Denotes value filter) given
          filter := by
  have decoded : ∀ value filter,
      Filter.ofJson depth value.sortKeys = .ok filter ↔
      Filter.Grammar depth 1 value ∧ Filter.Denotes value filter := by
    intro value filter
    rw [Filter.ofJson, Json.sortKeys_sortKeys,
      Filter.decode_eq_ok_iff (Nat.le_refl depth), Nat.add_sub_cancel_left]
  cases given with
  | none =>
      constructor
      · intro same
        cases same
        exact .absent
      · intro optionally
        cases optionally
        rfl
  | some value =>
      by_cases isNull : value = .null
      · subst isNull
        constructor
        · intro same
          cases same
          exact .null
        · intro optionally
          cases optionally with
          | null => rfl
          | given form =>
              obtain ⟨grammar, -⟩ := form
              cases grammar
      · have notNull : value.sortKeys ≠ .null := by
          intro sorted
          refine isNull (Json.eq_of_sortKeys sorted ?_ ?_)
          · rintro items ⟨⟩
          · rintro members ⟨⟩
        rw [Option.map_some, filterOf_of_ne_null notNull, Outcome.map_eq_ok_iff]
        simp only [decoded]
        constructor
        · rintro ⟨filter, form, rfl⟩
          exact .given form
        · intro optionally
          cases optionally with
          | null => exact absurd rfl isNull
          | given form => exact ⟨_, form, rfl⟩

/-! ## All members -/

/-- What a part of a request is made of: what was read of its member. -/
def Slot.Makes (settings : Settings) (request : Request) :
    (slot : Slot) -> Option slot.Value -> Prop
  | .accountId, found => found.join = request.accountId
  | .filter, found =>
      filterOf settings.maxFilterDepth found = .ok request.filter
  | .sort, found => sortOf found.join = .ok request.sort
  | .position, found => Page.position found = .ok request.position
  | .limit, found => Page.bound "limit" found = .ok request.limit
  | .collapseThreads, found => found.getD false = request.collapseThreads
  | .fetchMessages, found => found.getD false = request.fetchMessages
  | .properties, found => propertiesOf found.join = .ok request.properties
  | .fetchThreads, _ => True
  | .fetchSnippets, _ => True

/-- A request is made of what was read of its members, slot by slot. -/
theorem ofJson_eq_ok_iff_makes
    {settings : Settings}
    {members : List (String × Json)}
    {request : Request} :
    ofJson settings (.obj members) = .ok request ↔
      ∃ found, Json.record Members.layout Members.read .empty
          (Json.obj members).sortKeys =
        .ok found ∧ ∀ slot,
          Slot.Makes settings request slot (found.get slot) := by
  cases read : Json.record Members.layout Members.read .empty
    (Json.obj members).sortKeys with
  | error error => simp [ofJson_of_record_error read]
  | ok found =>
      rw [ofJson_of_record read]
      simp only [Except.ok.injEq, exists_eq_left']
      constructor
      · intro decoded
        obtain ⟨filter, filtered, rest⟩ := Outcome.exists_of_bind_eq_ok decoded
        obtain ⟨plain, unfiltered, same⟩ := Outcome.exists_of_map_eq_ok rest
        unfold Members.unfiltered at unfiltered
        obtain ⟨sort, sorted, rest⟩ := Outcome.exists_of_bind_eq_ok unfiltered
        obtain ⟨position, placed, rest⟩ := Outcome.exists_of_bind_eq_ok rest
        obtain ⟨limit, limited, rest⟩ := Outcome.exists_of_bind_eq_ok rest
        obtain ⟨properties, selected, rest⟩ := Outcome.exists_of_bind_eq_ok rest
        cases rest
        cases same
        intro slot
        cases slot
        case filter => exact filtered
        case sort => exact sorted
        case position => exact placed
        case limit => exact limited
        case properties => exact selected
        case fetchThreads => trivial
        case fetchSnippets => trivial
        all_goals rfl
      · intro makes
        have filtered : filterOf settings.maxFilterDepth found.filter =
            .ok request.filter :=
          makes .filter
        have sorted : sortOf found.sort.join = .ok request.sort := makes .sort
        have placed : Page.position found.position = .ok request.position :=
          makes .position
        have limited : Page.bound "limit" found.limit = .ok request.limit :=
          makes .limit
        have selected : propertiesOf found.properties.join =
            .ok request.properties :=
          makes .properties
        have account : found.accountId.join = request.accountId :=
          makes .accountId
        have collapse : found.collapseThreads.getD false =
            request.collapseThreads :=
          makes .collapseThreads
        have fetch : found.fetchMessages.getD false = request.fetchMessages :=
          makes .fetchMessages
        unfold Members.unfiltered
        rw [filtered, sorted, placed, limited, selected, account,
          collapse, fetch]
        rfl

/-- What a member says about a request, or its absence. -/
def Slot.States (settings : Settings) (request : Request)
    (given : Option Json) : Slot -> Prop
  | .accountId =>
      Json.Optionally
        (fun value text => value = .str text) given request.accountId
  | .filter => Json.Optionally (fun value filter =>
      Filter.Grammar settings.maxFilterDepth 1 value ∧
        Filter.Denotes value filter)
      given request.filter
  | .sort => ∃ texts, Json.Optionally
        (fun value texts => value = Json.strings texts) given texts ∧
      Sorted (texts.getD []) request.sort
  | .position => ∃ number, Json.Optionally Page.Number given number ∧
      number.getD 0 = request.position
  | .limit => Json.Optionally Page.Number given request.limit
  | .collapseThreads => Flagged given request.collapseThreads
  | .fetchMessages => Flagged given request.fetchMessages
  | .properties => Json.Optionally (fun value selection =>
      ∃ names, value = Json.strings names ∧ Selected names selection) given
        request.properties
  | .fetchThreads => ∃ truth, Flagged given truth
  | .fetchSnippets => ∃ truth, Flagged given truth

theorem rel_ok_iff
    {given found : Option Json} :
    Option.Rel (fun value meaning =>
      (Except.ok value.sortKeys : Json.Decoded Json) = .ok meaning)
          given found ↔
        given.map Json.sortKeys = found := by
  cases given <;> cases found <;> simp

section Slots

variable {settings : Settings} {request : Request} {given : Option Json}

theorem optionally_number_iff
    {number : Option Nat} :
    Json.Optionally Page.Number (given.map Json.sortKeys) number ↔
      Json.Optionally Page.Number given number := by
  apply Json.optionally_map_sortKeys_iff
  intro value number
  exact and_congr_left' (Json.sortKeys_eq_iff rfl nofun nofun)

theorem optionally_text_iff_decoded
    {text : Option String} :
    Json.Optionally (fun value text => value = .str text) given text ↔
      ∃ found, Option.Rel (fun value meaning =>
        Json.nullable Json.string value.sortKeys = .ok meaning) given found ∧
          found.join = text := by
  apply Json.optionally_iff_decoded
  · exact fun value meaning => Json.string_eq_ok_iff
  · exact nofun
  · exact fun value meaning => Json.sortKeys_eq_iff rfl nofun nofun

theorem optionally_texts_iff_decoded
    {texts : Option (List String)} :
    Json.Optionally
        (fun value texts => value = Json.strings texts) given texts ↔
      ∃ found, Option.Rel (fun value meaning =>
        Json.nullable (Json.list Json.string) value.sortKeys = .ok meaning)
            given found ∧
          found.join = texts := by
  apply Json.optionally_iff_decoded
  · exact fun value meaning => Json.list_string_eq_ok_iff
  · exact nofun
  · exact fun value meaning => Json.sortKeys_eq_strings_iff

/-- A member that is not decoded any further is kept as it is. -/
theorem exists_kept_iff
    (holds : Option Json -> Prop) :
    (∃ found, Option.Rel (fun value meaning =>
        (Except.ok value.sortKeys : Json.Decoded Json) = .ok meaning) given
          found ∧ holds found) ↔
      holds (given.map Json.sortKeys) := by
  simp only [rel_ok_iff, exists_eq_left']

/-- A member that is decoded only to be checked must be a flag. -/
theorem exists_checked_iff :
    (∃ found, Option.Rel (fun value meaning =>
        Json.boolean value.sortKeys = .ok meaning) given found ∧ True) ↔
      ∃ truth, Flagged given truth := by
  constructor
  · rintro ⟨found, read, -⟩
    exact ⟨found.getD false, Flagged.iff_decoded.mpr ⟨found, read, rfl⟩⟩
  · rintro ⟨truth, isFlag⟩
    obtain ⟨found, read, -⟩ := Flagged.iff_decoded.mp isFlag
    exact ⟨found, read, trivial⟩

theorem exists_sortOf_iff
    {sort : Option SortOrder} :
    (∃ found, Option.Rel (fun value meaning =>
        Json.nullable (Json.list Json.string) value.sortKeys = .ok meaning)
            given found ∧
          sortOf found.join = .ok sort) ↔
      ∃ texts, Json.Optionally
          (fun value texts => value = Json.strings texts) given texts ∧
        Sorted (texts.getD []) sort := by
  constructor
  · rintro ⟨found, read, decoded⟩
    exact ⟨found.join, optionally_texts_iff_decoded.mpr ⟨found, read, rfl⟩,
      sortOf_eq_ok_iff.mp decoded⟩
  · rintro ⟨texts, given, sorted⟩
    obtain ⟨found, read, rfl⟩ := optionally_texts_iff_decoded.mp given
    exact ⟨found, read, sortOf_eq_ok_iff.mpr sorted⟩

theorem exists_propertiesOf_iff
    {selection : Option Selection} :
    (∃ found, Option.Rel (fun value meaning =>
        Json.nullable (Json.list Json.string) value.sortKeys = .ok meaning)
            given found ∧
          propertiesOf found.join = .ok selection) ↔
      Json.Optionally (fun value selection =>
        ∃ names, value = Json.strings names ∧ Selected names selection) given
          selection := by
  constructor
  · rintro ⟨found, read, decoded⟩
    have named := optionally_texts_iff_decoded.mpr ⟨found, read, rfl⟩
    exact (propertiesOf_eq_ok_iff named).mp decoded
  · intro stated
    obtain ⟨names, named⟩ : ∃ names, Json.Optionally
        (fun value names => value = Json.strings names) given names := by
      apply Json.exists_optionally_iff.mpr
      rintro value rfl
      refine (Json.exists_optionally_iff.mp ⟨_, stated⟩ value rfl).imp_right ?_
      rintro ⟨_, names, form, -⟩
      exact ⟨names, form⟩
    have decoded := (propertiesOf_eq_ok_iff named).mpr stated
    obtain ⟨found, read, rfl⟩ := optionally_texts_iff_decoded.mp named
    exact ⟨found, read, decoded⟩

/-- A part of a request is made of what was read of its member if the member
says so. -/
theorem Slot.exists_makes_iff
    (slot : Slot) :
    (∃ found, Option.Rel
        (fun value meaning => slot.decode value.sortKeys = .ok meaning)
        given found ∧ slot.Makes settings request found) ↔
      slot.States settings request given := by
  cases slot with
  | accountId => exact optionally_text_iff_decoded.symm
  | filter =>
      exact (exists_kept_iff fun found =>
        filterOf settings.maxFilterDepth found = .ok request.filter).trans
          filterOf_eq_ok_iff
  | sort => exact exists_sortOf_iff
  | position =>
      apply (exists_kept_iff
        fun found => Page.position found = .ok request.position).trans
      rw [Page.position, Outcome.map_eq_ok_iff]
      simp only [bound_eq_ok_iff, optionally_number_iff]
      rfl
  | limit =>
      apply (exists_kept_iff
        fun found => Page.bound "limit" found = .ok request.limit).trans
      rw [bound_eq_ok_iff, optionally_number_iff]
      rfl
  | collapseThreads => exact Flagged.iff_decoded.symm
  | fetchMessages => exact Flagged.iff_decoded.symm
  | properties => exact exists_propertiesOf_iff
  | fetchThreads => exact exists_checked_iff
  | fetchSnippets => exact exists_checked_iff

end Slots

theorem mem_memberNames_iff
    {name : String} :
    name ∈ memberNames ↔ ∃ slot : Slot, slot.name = name := by
  constructor
  · intro isName
    simp only [memberNames, List.mem_cons, List.not_mem_nil, or_false] at isName
    rcases isName with rfl | rfl | rfl | rfl | rfl | rfl | rfl | rfl | rfl | rfl
    · exact ⟨.accountId, rfl⟩
    · exact ⟨.filter, rfl⟩
    · exact ⟨.sort, rfl⟩
    · exact ⟨.position, rfl⟩
    · exact ⟨.limit, rfl⟩
    · exact ⟨.collapseThreads, rfl⟩
    · exact ⟨.fetchMessages, rfl⟩
    · exact ⟨.properties, rfl⟩
    · exact ⟨.fetchThreads, rfl⟩
    · exact ⟨.fetchSnippets, rfl⟩
  · rintro ⟨slot, rfl⟩
    cases slot <;> decide

section Objects

variable {settings : Settings} {members : List (String × Json)}
  {request : Request}

theorem denotes_iff_states :
    Denotes settings members request ↔
      (∀ name, Json.last? name members ≠ none → name ∈ memberNames) ∧
        ∀ slot : Slot,
          slot.States settings request (Json.last? slot.name members) := by
  constructor
  · intro denotes
    refine ⟨denotes.known, fun slot => ?_⟩
    cases slot with
    | accountId => exact denotes.accountId
    | filter => exact denotes.filter
    | sort => exact denotes.sort
    | position => exact denotes.position
    | limit => exact denotes.limit
    | collapseThreads => exact denotes.collapseThreads
    | fetchMessages => exact denotes.fetchMessages
    | properties => exact denotes.properties
    | fetchThreads => exact denotes.fetchThreads
    | fetchSnippets => exact denotes.fetchSnippets
  · rintro ⟨known, stated⟩
    exact ⟨known, stated .accountId, stated .filter, stated .sort,
      stated .position, stated .limit, stated .collapseThreads,
      stated .fetchMessages, stated .properties, stated .fetchThreads,
      stated .fetchSnippets⟩

/-- An object is decoded as the request that its members denote. -/
theorem ofJson_eq_ok_iff_denotes :
    ofJson settings (.obj members) = .ok request ↔
      Denotes settings members request := by
  rw [ofJson_eq_ok_iff_makes, denotes_iff_states]
  simp only [Members.record_eq_ok_iff, mem_memberNames_iff,
    ← Slot.exists_makes_iff]
  constructor
  · rintro ⟨found, ⟨known, read⟩, makes⟩
    exact ⟨known, fun slot => ⟨found.get slot, read slot, makes slot⟩⟩
  · rintro ⟨known, each⟩
    choose value read makes using each
    obtain ⟨found, get⟩ := Members.exists_get_eq value
    refine ⟨found, ⟨known, fun slot => ?_⟩, fun slot => ?_⟩
    · rw [get]
      exact read slot
    · rw [get]
      exact makes slot

theorem Acceptable.exists_sorted
    (acceptable : Acceptable settings members) :
    ∃ sort texts, Json.Optionally
        (fun value texts => value = Json.strings texts)
      (Json.last? "sort" members) texts ∧ Sorted (texts.getD []) sort := by
  cases given : Json.last? "sort" members with
  | none => exact ⟨none, none, .absent, .default⟩
  | some value =>
      obtain rfl | ⟨texts, rfl, each⟩ := acceptable.sort value given
      · exact ⟨none, none, .null, .default⟩
      · cases texts with
        | nil => exact ⟨none, some [], .given rfl, .default⟩
        | cons first rest =>
            obtain ⟨keys, spelled⟩ := Outcome.exists_forall₂ each
            have nonempty : keys ≠ [] := by
              rintro rfl
              cases spelled
            exact ⟨some ⟨keys, nonempty⟩, some (first :: rest), .given rfl,
              .given spelled⟩

theorem Acceptable.exists_selected
    (acceptable : Acceptable settings members) :
    ∃ properties, Json.Optionally (fun value selection =>
      ∃ names, value = Json.strings names ∧ Selected names selection)
      (Json.last? "fetchMessageProperties" members) properties := by
  apply Json.exists_optionally_iff.mpr
  intro value given
  refine (acceptable.properties value given).imp_right ?_
  rintro ⟨names, rfl, each⟩
  obtain ⟨wishes, spelled⟩ := Outcome.exists_forall₂ each
  exact ⟨.ofWishes wishes, names, rfl, wishes, spelled, rfl⟩

/-- Members of a valid request denote one. -/
theorem Acceptable.exists_denotes
    (acceptable : Acceptable settings members) :
    ∃ request, Denotes settings members request := by
  have flagged : ∀ name ∈ flagNames, ∃ truth,
      Flagged (Json.last? name members) truth := by
    intro name isFlag
    cases given : Json.last? name members with
    | none => exact ⟨false, .absent⟩
    | some value =>
        obtain ⟨truth, rfl⟩ := acceptable.flags name isFlag value given
        exact ⟨truth, .given truth⟩
  obtain ⟨accountId, account⟩ :=
    Json.exists_optionally_iff.mpr acceptable.accountId
  obtain ⟨filter, filtered⟩ : ∃ filter, Json.Optionally (fun value filter =>
      Filter.Grammar settings.maxFilterDepth 1 value ∧
        Filter.Denotes value filter)
      (Json.last? "filter" members) filter := by
    apply Json.exists_optionally_iff.mpr
    intro value given
    refine (acceptable.filter value given).imp_right fun belongs => ?_
    obtain ⟨filter, denotes⟩ := belongs.exists_denotes
    exact ⟨filter, belongs, denotes⟩
  obtain ⟨sort, sorted⟩ := acceptable.exists_sorted
  obtain ⟨position, placed⟩ :=
    Json.exists_optionally_iff.mpr acceptable.position
  obtain ⟨limit, limited⟩ := Json.exists_optionally_iff.mpr acceptable.limit
  obtain ⟨properties, selected⟩ := acceptable.exists_selected
  obtain ⟨collapseThreads, collapse⟩ := flagged "collapseThreads" (by decide)
  obtain ⟨fetchMessages, fetch⟩ := flagged "fetchMessages" (by decide)
  exact ⟨⟨accountId, filter, sort, position.getD 0, limit, collapseThreads,
      fetchMessages,
      properties⟩,
    acceptable.known, account, filtered, sorted, ⟨position, placed, rfl⟩,
      limited, collapse, fetch,
    selected, flagged "fetchThreads" (by decide),
      flagged "fetchSearchSnippets" (by decide)⟩

/-- What denotes a request is of the valid form. -/
theorem Denotes.acceptable
    (denotes : Denotes settings members request) :
    Acceptable settings members := by
  refine ⟨denotes.known, Json.exists_optionally_iff.mp ⟨_, denotes.accountId⟩,
    ?_, ?_, ?_, Json.exists_optionally_iff.mp ⟨_, denotes.limit⟩, ?_, ?_⟩
  · intro value given
    refine (Json.exists_optionally_iff.mp
      ⟨_, denotes.filter⟩ value given).imp_right ?_
    rintro ⟨filter, belongs, -⟩
    exact belongs
  · intro value given
    obtain ⟨texts, optionally, sorted⟩ := denotes.sort
    rw [given] at optionally
    cases optionally with
    | null => exact Or.inl rfl
    | @given _ texts form =>
        refine Or.inr ⟨texts, form, fun text isText => ?_⟩
        generalize request.sort = sort at sorted
        cases sorted with
        | default => cases isText
        | given each => exact Outcome.exists_of_forall₂ each text isText
  · obtain ⟨number, optionally, -⟩ := denotes.position
    exact Json.exists_optionally_iff.mp ⟨number, optionally⟩
  · have flagged : ∀ name ∈ flagNames, ∃ truth,
        Flagged (Json.last? name members) truth := by
      simp only [flagNames, List.forall_mem_cons, List.not_mem_nil,
        false_imp_iff, implies_true, and_true]
      exact ⟨⟨_, denotes.collapseThreads⟩, ⟨_, denotes.fetchMessages⟩,
        denotes.fetchThreads, denotes.fetchSnippets⟩
    intro name isFlag value given
    obtain ⟨truth, isTruth⟩ := flagged name isFlag
    rw [given] at isTruth
    cases isTruth
    exact ⟨truth, rfl⟩
  · intro value given
    refine (Json.exists_optionally_iff.mp ⟨_,
      denotes.properties⟩ value given).imp_right ?_
    rintro ⟨selection, names, form, wishes, each, -⟩
    exact ⟨names, form, fun name isName =>
      Outcome.exists_of_forall₂ each name isName⟩

/-- What members denote is in range. -/
theorem Denotes.bounded
    (denotes : Denotes settings members request) :
    Bounded settings request := by
  refine ⟨?_, ?_, fun order _ => order.nonempty, ?_, ?_⟩
  · obtain ⟨number, optionally, same⟩ := denotes.position
    rw [← same]
    cases number with
    | none => exact Nat.zero_le _
    | some number =>
        obtain ⟨value, -, -, most⟩ := optionally.exists_of_some
        exact most
  · intro limit given
    obtain ⟨value, -, -, most⟩ := (given ▸ denotes.limit).exists_of_some
    exact most
  · intro selection given
    obtain ⟨value, -, names, -, wishes, -, rfl⟩ :=
      (given ▸ denotes.properties).exists_of_some
    exact Selection.contains_ofWishes_iff.mpr (Or.inl rfl)
  · intro filter given
    obtain ⟨value, -, belongs, meaning⟩ :=
      (given ▸ denotes.filter).exists_of_some
    exact belongs.within meaning

end Objects

/--
The decoder accepts exactly the members of a valid request, as the request that
they denote, the parts of which are in range.  Whatever answers queries rejects
all others as invalid arguments.
-/
theorem accepted_iff_acceptable
    (settings : Settings)
    (members : List (String × Json)) :
    ((∃ request, ofJson settings (.obj members) = .ok request) ↔
        Acceptable settings members) ∧
      (∀ request, ofJson settings (.obj members) = .ok request ↔
        Denotes settings members request) ∧
      (∀ request, ofJson settings (.obj members) = .ok request →
        Bounded settings request) ∧
      (¬ Acceptable settings members → ∃ cause, ∀ engine : Engine,
          engine.settings = settings →
        ∀ principal, engine.query principal (.obj members) =
            .error (.invalidArguments cause) ∧
          (Error.invalidArguments cause).kind = .invalidArguments) := by
  have accepted : (∃ request, ofJson settings (.obj members) = .ok request) ↔
      Acceptable settings members := by
    simp only [ofJson_eq_ok_iff_denotes]
    constructor
    · rintro ⟨request, denotes⟩
      exact denotes.acceptable
    · exact Acceptable.exists_denotes
  refine ⟨accepted, fun request => ofJson_eq_ok_iff_denotes,
    fun request isRequest => (ofJson_eq_ok_iff_denotes.mp isRequest).bounded,
      fun foreign => ?_⟩
  cases outcome : ofJson settings (.obj members) with
  | ok request => exact absurd (accepted.mp ⟨request, outcome⟩) foreign
  | error cause =>
      refine ⟨cause, ?_⟩
      rintro engine rfl principal
      refine ⟨?_, rfl⟩
      rw [Engine.query, Engine.decode, outcome]
      rfl

end Request
end Query
end MailSearch
