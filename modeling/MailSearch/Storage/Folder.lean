import MailSearch.Storage.FileError
import MailSearch.Storage.Path
import MailSearch.Text.Utf8

/-!
# Files

What a program may do with files, and a folder that is a value, in which paths
are looked up name by name.  Nothing is known of what lies outside a folder.
-/

namespace MailSearch
namespace Storage

/-- Access to files. -/
structure Files (m : Type -> Type) where
  /-- The bytes of a file. -/
  read : String -> m (Except FileError (List UInt8))
  /-- Whether a path leads to a file or a directory. -/
  leadsSomewhere : String -> m Bool
  /-- Make a directory and the directories in front of it, as far as they are
  not there. -/
  makeDirectories : String -> m (Except FileError Unit)
  /-- Make an empty file where there is none. -/
  create : String -> m (Except FileError Unit)
  /-- Write a file. -/
  write : String -> List UInt8 -> m (Except FileError Unit)

/-- The text of a file. -/
def Files.readText {m : Type -> Type} [Monad m] (files : Files m)
    (path : String) :
    m (Except FileError (List Char)) := do
  match ← files.read path with
  | .error error => return .error error
  | .ok bytes =>
      match Text.Utf8.decode? bytes with
      | some text => return .ok text
      | none => return .error .notText

/-- The place of a file or a directory: the names that lead to it. -/
abbrev Place := List (List Char)

/-- A folder with files in it and in the directories below it. -/
structure Folder where
  /-- The directories that were made. -/
  directories : List Place
  /-- The bytes of each file by its place. -/
  files : List (Place × List UInt8)

namespace Folder

/-- The folder without files. -/
def empty : Folder :=
  ⟨[], []⟩

/-- The bytes of the file at a place. -/
def file? (folder : Folder) (place : Place) : Option (List UInt8) :=
  folder.files.lookup place

/-- Whether a place is the folder itself, a directory that was made or one in
front of a file. -/
def isDirectory (folder : Folder) (place : Place) : Bool :=
  place.isEmpty || folder.directories.contains place ||
    folder.files.any fun entry => place.isPrefixOf entry.1 && place != entry.1

/-- Whether a file or a directory is at a place. -/
def isTaken (folder : Folder) (place : Place) : Bool :=
  (folder.file? place).isSome || folder.isDirectory place

/-- Set the bytes of the file at a place. -/
def set (folder : Folder) (place : Place) (bytes : List UInt8) : Folder :=
  { folder with
    files := (place, bytes) :: folder.files.filter fun entry =>
      entry.1 != place }

/-! ## Looking up -/

/-- The greatest number of bytes of a name in a path. -/
def longestName : Nat := 255

/-- The greatest number of bytes of a path. -/
def longestPath : Nat := 4095

/-- Whether a name stands for a directory whose own name it does not say. -/
def isDots (name : List Char) : Bool :=
  name == ['.'] || name == ['.', '.']

/-- Follow names from a place on. -/
def follow (folder : Folder) (here : Place) :
    List (List Char) -> Except FileError Place
  | [] => .ok here
  | name :: rest =>
      if (folder.file? here).isSome then .error .notDirectory
      else if name = [] ∨ name = ['.'] then follow folder here rest
      else if name = ['.', '.'] then
        if here.isEmpty then .error .missing
          else follow folder here.dropLast rest
      else if longestName < Text.Utf8.size name then .error .nameTooLong
      else if folder.isTaken (here ++ [name]) then
        follow folder (here ++ [name]) rest
      else .error .missing

/-- The names in a path that leads somewhere within the folder. -/
def names (path : String) : Except FileError (List (List Char)) :=
  let text := path.toList
  if text.contains '\x00' then .error .nullInPath
  else if longestPath < Text.Utf8.size text then .error .nameTooLong
  else if text.isEmpty || Path.isAbsolute text then .error .missing
  else .ok (Path.names text)

/-- The place that a path leads to. -/
def resolve (folder : Folder) (path : String) : Except FileError Place := do
  folder.follow [] (← names path)

/-- The bytes of the file that a path leads to. -/
def read (folder : Folder) (path : String) : Except FileError (List UInt8) := do
  match folder.file? (← folder.resolve path) with
  | some bytes => return bytes
  | none => throw .isDirectory

/-- Whether a path leads to a file or a directory. -/
def leadsSomewhere (folder : Folder) (path : String) : Bool :=
  (folder.resolve path).isOk

/-- Whether a path leads to a directory. -/
def leadsToDirectory (folder : Folder) (path : String) : Bool :=
  match folder.resolve path with
  | .ok place => folder.isDirectory place
  | .error _ => false

/-! ## Making and writing -/

/-- What a path asks for at its end. -/
structure Target where
  /-- The directory. -/
  directory : Place
  /-- The name in it. -/
  name : List Char
  /-- Whether a slash stands behind the name. -/
  slashed : Bool

/-- The place that a target is for. -/
def Target.place (target : Target) : Place :=
  target.directory ++ [target.name]

/-- Look up the directory in which a path asks for something. -/
def target (folder : Folder) (path : String) : Except FileError Target := do
  let names ← names path
  match names.reverse.dropWhile List.isEmpty with
  | [] => throw .missing
  | name :: before =>
      let directory ← folder.follow [] before.reverse
      if (folder.file? directory).isSome then throw .notDirectory
      return ⟨directory, name, names.getLast? == some []⟩

/-- Make a directory in one that is there. -/
def makeDirectory (folder : Folder) (path : String) :
    Except FileError Folder := do
  let target ← folder.target path
  if isDots target.name then throw .alreadyThere
  if longestName < Text.Utf8.size target.name then throw .nameTooLong
  if folder.isTaken target.place then throw .alreadyThere
  return { folder with directories := target.place :: folder.directories }

/--
Make the first of some directories, each of which lies in the next one, and
those of the others that are not there.
-/
def makeLineage (folder : Folder) : List (List Char) -> Except FileError Folder
  | [] => .ok folder
  | [] :: _ => .ok folder
  | text :: outer => do
      let path := String.ofList text
      match folder.makeDirectory path with
      | .ok made => return made
      | .error .missing =>
          let folder ← makeLineage folder outer
          match folder.makeDirectory path with
          | .ok made => return made
          | .error error =>
              if folder.leadsToDirectory path then return folder
                else throw error
      | .error error =>
          if folder.leadsToDirectory path then return folder else throw error

/-- Make a directory and the directories in front of it, as far as they are not
there. -/
def makeDirectories (folder : Folder) (path : String) :
    Except FileError Folder :=
  folder.makeLineage (Path.ancestors path.toList)

/-- The place of the file that a path asks to write. -/
def writable (folder : Folder) (path : String) : Except FileError Place := do
  let target ← folder.target path
  if target.slashed || isDots target.name then throw .isDirectory
  if longestName < Text.Utf8.size target.name then throw .nameTooLong
  if folder.isDirectory target.place then throw .isDirectory
  return target.place

/-- Write the file that a path leads to. -/
def write (folder : Folder) (path : String) (bytes : List UInt8) :
    Except FileError Folder := do
  return folder.set (← folder.writable path) bytes

/-- Write a file, and make the directories in front of it that are not there. -/
def insert (folder : Folder) (path : String) (bytes : List UInt8) :
    Except FileError Folder := do
  let directory := (Path.parent? path.toList).getD []
  let folder ← folder.makeDirectories (String.ofList directory)
  folder.write path bytes

/-- Make an empty file where there is none. -/
def create (folder : Folder) (path : String) : Except FileError Folder := do
  let place ← folder.writable path
  return if (folder.file? place).isSome then folder else folder.set place []

/-- A change of a folder, which stays as it is when the change fails. -/
def change (step : Folder -> Except FileError Folder) :
    StateM Folder (Except FileError Unit) :=
  fun folder =>
    match step folder with
    | .ok changed => (.ok (), changed)
    | .error error => (.error error, folder)

/-- Access to the files of a folder. -/
def access : Files (StateM Folder) where
  read path folder := (folder.read path, folder)
  leadsSomewhere path folder := (folder.leadsSomewhere path, folder)
  makeDirectories path := change fun folder => folder.makeDirectories path
  create path := change fun folder => folder.create path
  write path bytes := change fun folder => folder.write path bytes

end Folder
end Storage
end MailSearch
