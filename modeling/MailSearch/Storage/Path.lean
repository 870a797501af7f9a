import MailSearch.Text.Occurrence

/-!
# Paths

The text of a path is a sequence of names between slashes; a path that starts
with a slash is absolute.  Slashes at the end and names that are a single dot do
not count there, apart from the root and from a dot that stands alone.
-/

namespace MailSearch
namespace Storage
namespace Path

/-- Whether a path starts at the root. -/
def isAbsolute (path : List Char) : Bool :=
  path.head? = some '/'

/-- Drop what does not count at the end of a path, whose last character comes
first. -/
def trimReversed : List Char -> List Char
  | ['/'] => ['/']
  | '/' :: rest => trimReversed rest
  | '.' :: '/' :: rest => trimReversed ('/' :: rest)
  | path => path

/-- Drop what does not count at the end of a path. -/
def trimEnd (path : List Char) : List Char :=
  (trimReversed path.reverse).reverse

/-- The directory that a path lies in; `none` for the root and the empty
path. -/
def parent? (path : List Char) : Option (List Char) :=
  match trimReversed path.reverse with
  | [] => none
  | ['/'] => none
  | reversed => some (trimReversed (reversed.dropWhile (· != '/'))).reverse

/-- A path and the directories it lies in, from the inside out, `steps` of them
at most. -/
def lineage (steps : Nat) (path : List Char) : List (List Char) :=
  match steps with
  | 0 => []
  | steps + 1 => path :: ((parent? path).map (lineage steps)).getD []

/-- A path and all the directories it lies in, from the inside out. -/
def ancestors (path : List Char) : List (List Char) :=
  lineage (path.length + 1) path

/-- The path of a file whose path is given relative to a directory. -/
def join (directory path : List Char) : List Char :=
  if isAbsolute path then path
  else if directory.isEmpty || directory.getLast? = some '/' then
    directory ++ path
  else directory ++ '/' :: path

/-- The names in a path, empty ones included. -/
def names (path : List Char) : List (List Char) :=
  Text.pieces '/' path

end Path
end Storage
end MailSearch
