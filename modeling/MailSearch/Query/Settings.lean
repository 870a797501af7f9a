import MailSearch.Query.SortOrder

/-!
# Settings of queries

The limits and defaults that apply where a request leaves them open.
-/

namespace MailSearch
namespace Query

/-- The limits and defaults of queries. -/
structure Settings where
  /-- How many identifiers an answer lists when the request sets no limit. -/
  defaultLimit : Nat
  /-- How deep the operators of a filter may nest. -/
  maxFilterDepth : Nat
  /-- The keys of the sort order that applies when the request gives none. -/
  defaultSort : List String
  /-- How many characters a preview has at most. -/
  previewLength : Nat
  deriving DecidableEq, Repr

namespace Settings

/-- The settings that apply unless others are given. -/
def standard : Settings :=
  ⟨256, 10, ["date desc"], 256⟩

/--
The sort order that applies when the request gives none: the configured one, or
the newest first if that one cannot be read.
-/
def order (settings : Settings) : SortOrder :=
  match SortOrder.parse settings.defaultSort with
  | .ok order => order
  | .error _ => .newestFirst

end Settings
end Query
end MailSearch
