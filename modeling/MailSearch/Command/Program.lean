import MailSearch.Command.Arguments
import MailSearch.Configuration
import MailSearch.Json.Printer
import MailSearch.Report
import MailSearch.Store.Loading

/-!
# The program

What each task reads, what it prints and how it fails.  A program runs on any
access to files, so that it runs on the files of a machine and on a folder that
is a value alike.
-/

namespace MailSearch
namespace Command

/-- What surrounds a program that runs. -/
structure Surroundings (m : Type -> Type) where
  /-- The access to files. -/
  files : Storage.Files m
  /-- All of the standard input. -/
  input : m (List UInt8)
  /-- The usual file of the configuration, if there is one. -/
  configurationFile : Option String
  /-- The usual directory of the log, if there is one. -/
  logDirectory : Option String

/-- What comes of a program. -/
structure Outcome where
  /-- The exit code. -/
  code : Nat
  /-- What is printed. -/
  output : List Char
  /-- What is printed as an error. -/
  diagnostic : List Char
  deriving DecidableEq, Repr

/-- Why a task failed. -/
inductive Failure where
  /-- There is no snapshot at the path. -/
  | noSnapshot (path : String)
  /-- The snapshot does not load. -/
  | badSnapshot (path : String) (cause : Query.Error)
  /-- A file cannot be read. -/
  | unreadable (path : String) (cause : Storage.FileError)
  /-- The standard input cannot be read. -/
  | badInput (cause : Storage.FileError)
  /-- A file is not JSON. -/
  | notJson (path : String)
  /-- A file does not hold rules. -/
  | notRules (path : String) (cause : Json.DecodeError)
  /-- The query has no answer. -/
  | noAnswer (cause : Query.Error)
  /-- There is no usual file of the configuration. -/
  | noConfigurationFile
  /-- The configuration cannot be written. -/
  | notSaved (cause : Configuration.SaveError)

/-- The wording of a failure. -/
def Failure.message : Failure -> String
  | .noSnapshot path => "File not found: " ++ path
  | .badSnapshot path _ => "Failed to load snapshot " ++ path
  | .unreadable path _ => "Failed to read " ++ path
  | .badInput cause => cause.message
  | .notJson path => "Invalid JSON in " ++ path
  | .notRules path _ => "Invalid rules in " ++ path
  | .noAnswer cause => cause.kind.name ++ ": " ++ cause.message
  | .noConfigurationFile => "Could not determine config file path"
  | .notSaved cause => cause.message

namespace Outcome

/-- Success with a text to print. -/
def printed (text : List Char) : Outcome :=
  ⟨0, text, []⟩

/-- A task that failed. -/
def failed (failure : Failure) : Outcome :=
  ⟨1, [], ("Error: " ++ failure.message ++ "\n").toList⟩

/-- A program that broke down in the middle of a task; what it says of that is
left out. -/
def brokenDown : Outcome :=
  ⟨101, [], []⟩

/-- A program whose arguments are wrong. -/
def misused (misuse : Misuse) : Outcome :=
  ⟨2, [], ("error: " ++ misuse.message ++ "\n").toList⟩

end Outcome

variable {m : Type -> Type} [Monad m]

/-- Load the account that the snapshot at a path describes. -/
def openAccount (surroundings : Surroundings m) (path : String) :
    ExceptT (Stop Failure) m Store.Account := do
  if !(← (surroundings.files.leadsSomewhere path : m _)) then
    throw (.failed (.noSnapshot path))
  match ← ((Store.loadAccount surroundings.files path).run : m _) with
  | .ok account => return account
  | .error (.failed cause) => throw (.failed (.badSnapshot path cause))
  | .error .brokenDown => throw .brokenDown

/-- The path that stands for the standard input. -/
def inputPath : List Char :=
  ['-']

/-- The text at a path, or that of the standard input. -/
def readSource (surroundings : Surroundings m) (path : String) :
    ExceptT (Stop Failure) m (List Char) := do
  if Storage.Path.trimEnd path.toList = inputPath then
    match Text.Utf8.decode? (← (surroundings.input : m _)) with
    | some text => return text
    | none => throw (.failed (.badInput .notText))
  else
    match ← (surroundings.files.readText path : m _) with
    | .ok text => return text
    | .error cause => throw (.failed (.unreadable path cause))

/-- The value at a path, or that of the standard input. -/
def readValue (surroundings : Surroundings m) (path : String) :
    ExceptT (Stop Failure) m Json := do
  match Json.read? (← readSource surroundings path) with
  | some value => return value.sortKeys
  | none => throw (.failed (.notJson path))

/-- A request with another limit; what is no object stays as it is. -/
def withLimit (limit : Option Nat) (request : Json) : Json :=
  match limit, request with
  | some limit, .obj members =>
      .obj (Json.insertMember "limit" (.nat limit) members)
  | _, request => request

/--
The answer of an account to a request.  It is asked for by the principal that is
given, or else by the one that the request names, or else by the owner.
-/
def answer (settings : Query.Settings) (account : Store.Account)
    (principal : Option String)
    (value : Json) : Except Query.Error (Attempt Query.Answer) := do
  let engine := account.engine settings
  let request ← engine.decode value
  engine.execute ((principal.or request.accountId).getD account.owner) request

/-- A value on lines of its own. -/
def printJson (value : Json) : List Char :=
  Json.indented 0 value ++ ['\n']

/-- Answer a request. -/
def runQuery (surroundings : Surroundings m) (settings : Query.Settings)
    (snapshot request : String) (principal : Option String) (limit : Option Nat)
      (json : Bool) :
    ExceptT (Stop Failure) m (List Char) := do
  let account ← openAccount surroundings snapshot
  let value ← readValue surroundings request
  match answer settings account principal (withLimit limit value) with
  | .error cause => throw (.failed (.noAnswer cause))
  | .ok none => throw .brokenDown
  | .ok (some answer) =>
      return if json then printJson answer.toJson
        else Report.table account answer

/-- Say where rules send messages. -/
def runRules (surroundings : Surroundings m) (snapshot rules : String)
    (json : Bool) :
    ExceptT (Stop Failure) m (List Char) := do
  let account ← openAccount surroundings snapshot
  match Query.Rule.listOfJson (← readValue surroundings rules) with
  | .error cause => throw (.failed (.notRules rules cause))
  | .ok rules =>
      let routes := Report.routes account rules
      return if json then printJson (Report.routesJson routes)
        else Report.routing rules.length routes

/-- Show a configuration, or save it to the usual file. -/
def runConfiguration (surroundings : Surroundings m)
    (configuration : Configuration)
    (save : Bool) : ExceptT (Stop Failure) m (List Char) := do
  if save then
    match surroundings.configurationFile with
    | none => throw (.failed .noConfigurationFile)
    | some path =>
        match ← (configuration.save surroundings.files path : m _) with
        | .ok () =>
            return ("  Configuration written to " ++ path ++ "\n").toList
        | .error cause => throw (.failed (.notSaved cause))
  else
    match configuration.toChars? with
    | some text => return text
    | none => throw (.failed (.notSaved .outOfRange))

/-- Perform a task under a configuration. -/
def perform (surroundings : Surroundings m) (configuration : Configuration) :
    Task -> ExceptT (Stop Failure) m (List Char)
  | .query snapshot request principal limit json =>
      runQuery surroundings configuration.query snapshot request principal
        limit json
  | .rules snapshot rules json => runRules surroundings snapshot rules json
  | .configuration save => runConfiguration surroundings configuration save

/-- The configuration of an invocation: that of the file it names, or else that
of the usual file. -/
def configurationOf (surroundings : Surroundings m) (invocation : Invocation) :
    m Configuration :=
  match invocation.configuration with
  | some path => Configuration.load surroundings.files path
  | none =>
      Configuration.loadUsual surroundings.files surroundings.configurationFile

/--
Begin the log: an empty file, unless there is one, in a directory that is made
if it is not there.  A log that cannot be begun is done without.
-/
def beginLog (surroundings : Surroundings m) (configuration : Configuration) :
    m Unit := do
  match configuration.cacheDir.or surroundings.logDirectory with
  | none => return
  | some directory =>
      match ← surroundings.files.makeDirectories directory with
      | .ok () =>
          let _ ← surroundings.files.create (Configuration.logFile directory)
      | .error _ => return

/-- Run the program. -/
def run (surroundings : Surroundings m) (arguments : List String) :
    m Outcome := do
  match Invocation.ofArguments arguments with
  | .error misuse => return .misused misuse
  | .ok invocation =>
      let configuration ← configurationOf surroundings invocation
      beginLog surroundings configuration
      match ← (perform surroundings configuration invocation.task).run with
      | .ok text => return .printed text
      | .error (.failed failure) => return .failed failure
      | .error .brokenDown => return .brokenDown

end Command
end MailSearch
