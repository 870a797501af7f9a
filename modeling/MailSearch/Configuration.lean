import MailSearch.Query.Settings
import MailSearch.Storage.Folder
import MailSearch.Toml.Printer
import MailSearch.Toml.Reader

/-!
# Configuration

The configuration of the program: where it keeps its log, how much it logs, and
the settings of queries.  What a file leaves open has its standard value, and a
file that cannot be read as a configuration counts as absent.
-/

namespace MailSearch

/-- The configuration of the program. -/
structure Configuration where
  /-- The directory of the log, if one is set. -/
  cacheDir : Option String
  /-- How much is logged. -/
  logLevel : String
  /-- The settings of queries. -/
  query : Query.Settings
  deriving DecidableEq, Repr

namespace Configuration

/-- The configuration that applies unless another is given. -/
def standard : Configuration :=
  ⟨none, "warn", .standard⟩

/-- The file of the log in a directory. -/
def logFile (directory : String) : String :=
  String.ofList (Storage.Path.join directory.toList "mailquery.log".toList)

/-! ## Reading -/

/-- A look-up of the members of a record by position and name. -/
abbrev Members := Nat -> String -> Option Toml

/--
The members of a record: the entries of a table, or the items of a list in the
order of the record.  A date stands for a record of which nothing is set.
-/
def members? : Toml -> Option Members
  | .table entries => some fun _ name => entries.lookup name
  | .array items => some fun position _ => items[position]?
  | .date _ => some fun _ _ => none
  | _ => none

/-- Decode a member that has a standard value. -/
def member {α : Type} (standard : α) (decode : Toml -> Option α) :
    Option Toml -> Option α
  | none => some standard
  | some value => decode value

/-- Decode a text. -/
def text? : Toml -> Option String
  | .string value => some value
  | _ => none

/-- Decode a number that is not negative. -/
def count? : Toml -> Option Nat
  | .integer value => if value < 0 then none else some value.toNat
  | _ => none

/-- Decode a list of texts. -/
def texts? : Toml -> Option (List String)
  | .array items => items.mapM text?
  | _ => none

/-- Decode the settings of queries. -/
def query? (value : Toml) : Option Query.Settings := do
  let get ← members? value
  let standard := Query.Settings.standard
  return {
    defaultLimit := ← member standard.defaultLimit count?
      (get 0 "default_limit")
    maxFilterDepth := ← member standard.maxFilterDepth count?
      (get 1 "max_filter_depth")
    defaultSort := ← member standard.defaultSort texts? (get 2 "default_sort")
    previewLength := ← member standard.previewLength count?
      (get 3 "preview_length") }

/-- Decode the directory and the level of the log. -/
def general? (value : Toml) : Option (Option String × String) := do
  let get ← members? value
  let directory ← member none
      (fun value => (text? value).map some) (get 0 "cache_dir")
  let level ← member standard.logLevel text? (get 1 "log_level")
  return (directory, level)

/-- Decode a configuration. -/
def ofToml? (value : Toml) : Option Configuration := do
  let get ← members? value
  let (directory, level) ←
    member (standard.cacheDir, standard.logLevel) general? (get 0 "general")
  let query ← member standard.query query? (get 1 "query")
  return ⟨directory, level, query⟩

/-- Read the text of a configuration. -/
def ofChars? (text : List Char) : Option Configuration :=
  (Toml.read? text).bind ofToml?

/-! ## Writing -/

/-- The sections of a configuration with their entries. -/
def sections (configuration : Configuration) :
    List (String × List (String × Toml)) :=
  let query := configuration.query
  [("general",
      (configuration.cacheDir.map fun directory =>
          ("cache_dir", Toml.string directory)).toList ++
        [("log_level", .string configuration.logLevel)]),
    ("query",
      [("default_limit", .integer query.defaultLimit),
        ("max_filter_depth", .integer query.maxFilterDepth),
        ("default_sort", .array (query.defaultSort.map .string)),
        ("preview_length", .integer query.previewLength)])]

/-- Whether all numbers are integers that can be written. -/
def isWritable (configuration : Configuration) : Bool :=
  let query := configuration.query
  [query.defaultLimit, query.maxFilterDepth, query.previewLength].all
      fun value =>
    Toml.isInteger value

/-- The sections as they are written, with an empty line between them. -/
def print (configuration : Configuration) : List Char :=
  Text.joinWith ['\n'] (configuration.sections.map fun part =>
    Toml.printSection part.1 part.2)

/-- The text of a configuration, if it can be written. -/
def toChars? (configuration : Configuration) : Option (List Char) :=
  if configuration.isWritable then some configuration.print else none

/-! ## Files -/

/-- Why a configuration could not be saved. -/
inductive SaveError where
  /-- A number is too great to be written. -/
  | outOfRange
  /-- The file could not be written. -/
  | unwritable (cause : Storage.FileError)
  deriving DecidableEq, Repr

/-- The wording of the reason. -/
def SaveError.message : SaveError -> String
  | .outOfRange => "out-of-range value for u64 type"
  | .unwritable cause => cause.message

variable {m : Type -> Type} [Monad m]

/-- Load a configuration from a file; the standard one stands for a file that is
none. -/
def load (files : Storage.Files m) (path : String) : m Configuration := do
  match ← files.readText path with
  | .ok text => return (ofChars? text).getD standard
  | .error _ => return standard

/-- Load the configuration of the usual file, if there is one. -/
def loadUsual (files : Storage.Files m) (path : Option String) :
    m Configuration := do
  match path with
  | none => return standard
  | some path =>
      if ← files.leadsSomewhere path then load files path else return standard

/-- Make the directories in front of a file. -/
def makeRoom (files : Storage.Files m) (path : String) :
    m (Except Storage.FileError Unit) :=
  match Storage.Path.parent? path.toList with
  | some directory => files.makeDirectories (String.ofList directory)
  | none => return .ok ()

/-- Save a configuration to a file, in a directory that is made if it is not
there. -/
def save (files : Storage.Files m) (path : String)
    (configuration : Configuration) :
    m (Except SaveError Unit) := do
  match ← makeRoom files path with
  | .error cause => return .error (.unwritable cause)
  | .ok () =>
      match configuration.toChars? with
      | none => return .error .outOfRange
      | some text =>
          match ← files.write path (Text.Utf8.encode text) with
          | .ok () => return .ok ()
          | .error cause => return .error (.unwritable cause)

end Configuration
end MailSearch
