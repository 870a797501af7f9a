import MailSearch.Query.Filter
import MailSearch.Query.Page
import MailSearch.Query.Property
import MailSearch.Query.Settings

/-!
# Requests

A request is decoded as a whole before anything is looked up.  First its members
must have the right types, in the order of their names; then the filter, the
sort order, the page and the properties are decoded, in this order.
-/

namespace MailSearch
namespace Query

/-- What a client asks for. -/
structure Request where
  /-- The account that is asked about. -/
  accountId : Option String
  /-- The filter. -/
  filter : Option Filter
  /-- The sort order; without one the configured order applies. -/
  sort : Option SortOrder
  /-- The position of the page. -/
  position : Nat
  /-- The limit of the page; without one the configured limit applies. -/
  limit : Option Nat
  /-- Whether the client wants threads to be collapsed. -/
  collapseThreads : Bool
  /-- Whether the client wants to see messages. -/
  fetchMessages : Bool
  /-- The properties of messages that the client wants to see; without them
  all. -/
  properties : Option Selection

namespace Request

/-- The members of a request as far as they were read. -/
structure Members where
  accountId : Option (Option String)
  filter : Option Json
  sort : Option (Option (List String))
  position : Option Json
  limit : Option Json
  collapseThreads : Option Bool
  fetchMessages : Option Bool
  properties : Option (Option (List String))
  fetchThreads : Option Bool
  fetchSnippets : Option Bool

namespace Members

/-- No member. -/
def empty : Members :=
  ⟨none, none, none, none, none, none, none, none, none, none⟩

/-- The layout of a request, of which every member may be absent. -/
def layout : Json.Layout where
  name := "RawQueryRequest"
  fields :=
    [("accountId", true), ("filter", true), ("sort", true), ("position", true),
      ("limit", true), ("collapseThreads", true), ("fetchMessages", true),
      ("fetchMessageProperties", true),
      ("fetchThreads", true), ("fetchSearchSnippets", true)]
  counted := true

/-- Read one member. -/
def read (members : Members) (name : String) (value : Json) :
    Json.Decoded Members :=
  let texts := Json.nullable (Json.list Json.string)
  match name with
  | "accountId" =>
      (Json.once name members.accountId (Json.nullable Json.string) value).map
      fun given => { members with accountId := given }
  | "filter" => (Json.once name members.filter .ok value).map
      fun given => { members with filter := given }
  | "sort" => (Json.once name members.sort texts value).map
      fun given => { members with sort := given }
  | "position" => (Json.once name members.position .ok value).map
      fun given => { members with position := given }
  | "limit" => (Json.once name members.limit .ok value).map
      fun given => { members with limit := given }
  | "collapseThreads" =>
      (Json.once name members.collapseThreads Json.boolean value).map
      fun given => { members with collapseThreads := given }
  | "fetchMessages" =>
      (Json.once name members.fetchMessages Json.boolean value).map
      fun given => { members with fetchMessages := given }
  | "fetchMessageProperties" =>
      (Json.once name members.properties texts value).map
      fun given => { members with properties := given }
  | "fetchThreads" =>
      (Json.once name members.fetchThreads Json.boolean value).map
      fun given => { members with fetchThreads := given }
  | "fetchSearchSnippets" =>
      (Json.once name members.fetchSnippets Json.boolean value).map
      fun given => { members with fetchSnippets := given }
  | _ => .error (.unknownField name layout.names)

end Members

/-- Decode the filter of a request; `null` stands for an absent one. -/
def filterOf (depth : Nat) : Option Json -> Except Invalid (Option Filter)
  | none => .ok none
  | some .null => .ok none
  | some value => (Filter.ofJson depth value).map some

/-- Decode the sort order of a request; a list without keys stands for an absent
one. -/
def sortOf : Option (List String) -> Except Invalid (Option SortOrder)
  | none => .ok none
  | some [] => .ok none
  | some (first :: rest) => (SortOrder.parse (first :: rest)).map some

/-- Decode the selection of a request. -/
def propertiesOf : Option (List String) -> Except Invalid (Option Selection)
  | none => .ok none
  | some names => (Selection.parse (some names)).map some

/-- Decode a request. -/
def ofJson (settings : Settings) (value : Json) : Except Invalid Request := do
  let members ←
    match Json.record Members.layout Members.read Members.empty
      value.sortKeys with
    | .ok members => Except.ok members
    | .error error => Except.error (Invalid.layout error)
  let filter ← filterOf settings.maxFilterDepth members.filter
  let sort ← sortOf members.sort.join
  let position ← Page.position members.position
  let limit ← Page.bound "limit" members.limit
  let properties ← propertiesOf members.properties.join
  return {
    accountId := members.accountId.join
    filter := filter
    sort := sort
    position := position
    limit := limit
    collapseThreads := members.collapseThreads.getD false
    fetchMessages := members.fetchMessages.getD false
    properties := properties }

end Request
end Query
end MailSearch
