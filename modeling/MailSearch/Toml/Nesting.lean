import MailSearch.Toml.Value

/-!
# Nested tables in TOML

Tables are built up from keys of several names, of which all but the last lead
through tables within tables.  No key may be set twice, and a table that was
written out in one way cannot be reopened in another.
-/

namespace MailSearch
namespace Toml

/-- How a table came into being. -/
inductive Origin where
  /-- It was opened by a header of its own. -/
  | header
  /-- The header of a table inside it implies it. -/
  | implied
  /-- A key of several names leads through it. -/
  | key
  deriving DecidableEq, Repr

/-- What stands under a name while tables are being built. -/
inductive Node where
  /-- A finished value. -/
  | value (value : Toml)
  /-- A table. -/
  | table (origin : Origin) (entries : List (String × Node))
  /-- Tables with the same header, the last one first. -/
  | tables (items : List Node)

/-- The entries of a table that is being built, in order. -/
abbrev Entries := List (String × Node)

namespace Entries

/-- Set what stands under a name, at its place or else at the end. -/
def set (name : String) (node : Node) : Entries -> Entries
  | [] => [(name, node)]
  | (other, present) :: rest =>
      if other = name then (name, node) :: rest
        else (other, present) :: set name node rest

/--
Change the table that some names lead to, through tables that come into being on
the way and through the last of several tables with the same header.  Keys do
not lead through a table with a header of its own.
-/
def change (byKey : Bool) (edit : Origin -> Entries -> Option Entries) :
    List String -> Origin -> Entries -> Option Entries
  | [], origin, entries => edit origin entries
  | name :: path, _, entries =>
      match entries.lookup name with
      | none => do
          let origin := if byKey then Origin.key else Origin.implied
          let inner ← change byKey edit path origin []
          return set name (.table origin inner) entries
      | some (.value _) => none
      | some (.table origin inner) =>
          if byKey && origin == .header then none
          else do
            let inner ← change byKey edit path origin inner
            return set name (.table origin inner) entries
      | some (.tables (.table origin inner :: earlier)) => do
          let inner ← change byKey edit path origin inner
          return set name (.tables (.table origin inner :: earlier)) entries
      | some (.tables _) => none

/-- Set the value of a new key in a table. -/
def put (entries : Entries) (path : List String) (name : String)
    (value : Toml) :
    Option Entries :=
  change true (fun origin entries =>
    if (origin == .key) == path.isEmpty then none
    else if (entries.lookup name).isSome then none
    else some (entries ++ [(name, .value value)])) path .header entries

end Entries

mutual

/-- The value that was built. -/
def Node.toToml : Node -> Toml
  | .value value => value
  | .table _ entries => .table (entriesToToml entries)
  | .tables items => .array (itemsToToml items).reverse

/-- The entries that were built. -/
def entriesToToml : List (String × Node) -> List (String × Toml)
  | [] => []
  | (name, node) :: rest => (name, node.toToml) :: entriesToToml rest

/-- The tables that were built. -/
def itemsToToml : List Node -> List Toml
  | [] => []
  | item :: rest => item.toToml :: itemsToToml rest

end

end Toml
end MailSearch
