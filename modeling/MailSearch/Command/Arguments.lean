import MailSearch.Text.Occurrence

/-!
# Arguments

The arguments of the command line: a word that says what to do, the files to do
it with, and options before, between or behind them.  The options in front of
the word and those behind it are counted apart, and the latter come first.
-/

namespace MailSearch
namespace Command

/-- What the program is to do. -/
inductive Task where
  /-- Answer the request in a file from the snapshot in another one. -/
  | query (snapshot request : String) (principal : Option String)
      (limit : Option Nat)
      (json : Bool)
  /-- Say where the rules in a file send the messages of a snapshot. -/
  | rules (snapshot rules : String) (json : Bool)
  /-- Show the configuration, or save it. -/
  | configuration (save : Bool)
  deriving DecidableEq, Repr

/-- A task together with what holds for all tasks. -/
structure Invocation where
  /-- What to do. -/
  task : Task
  /-- The file of the configuration, if one is given. -/
  configuration : Option String
  /-- How often more detailed logging was asked for. -/
  verbosity : Nat
  deriving DecidableEq, Repr

/-- An option of the command line. -/
inductive Switch where
  | configuration
  | principal
  | limit
  | json
  | save
  | verbose
  deriving DecidableEq, Repr

namespace Switch

/-- All options. -/
def all : List Switch :=
  [.configuration, .principal, .limit, .json, .save, .verbose]

/-- The name of an option behind two dashes. -/
def name : Switch -> String
  | .configuration => "config"
  | .principal => "principal"
  | .limit => "limit"
  | .json => "json"
  | .save => "write"
  | .verbose => "verbose"

/-- The letter of an option behind one dash. -/
def letter? : Switch -> Option Char
  | .principal => some 'p'
  | .limit => some 'l'
  | .verbose => some 'v'
  | _ => none

/-- Whether a value belongs to the option. -/
def takesValue : Switch -> Bool
  | .configuration => true
  | .principal => true
  | .limit => true
  | _ => false

end Switch

/-- What is wrong with the arguments. -/
inductive Misuse where
  | noTask
  | unknownTask (word : String)
  | unknownOption (text : String)
  | repeatedOption (switch : Switch)
  | strayOption (switch : Switch)
  | strayValue (switch : Switch)
  | missingValue (switch : Switch)
  | badLimit (text : String)
  | fileCount (wanted found : Nat)
  deriving DecidableEq, Repr

/-- The wording of what is wrong. -/
def Misuse.message : Misuse -> String
  | .noTask => "a command is required: query, rules or config"
  | .unknownTask word => "unrecognized command '" ++ word ++ "'"
  | .unknownOption text => "unexpected argument '" ++ text ++ "'"
  | .repeatedOption switch =>
      "the argument '--" ++ switch.name ++ "' cannot be used multiple times"
  | .strayOption switch => "unexpected argument '--" ++ switch.name ++ "'"
  | .strayValue switch => "unexpected value for '--" ++ switch.name ++ "'"
  | .missingValue switch => "a value is required for '--" ++ switch.name ++ "'"
  | .badLimit text => "invalid value '" ++ text ++ "' for '--limit'"
  | .fileCount wanted found =>
      toString wanted ++ " files are required, and " ++ toString found ++
        " are given"

/-- The arguments as far as they were read. -/
structure Given where
  /-- The words that are no options, the last one first. -/
  words : List String
  /-- The options in front of the first word with their values, the last one
  first. -/
  leading : List (Switch × String)
  /-- The options since the first word, or since the start, with their values,
  the last one first. -/
  switches : List (Switch × String)

namespace Given

/-- The arguments before the first one. -/
def empty : Given :=
  ⟨[], [], []⟩

/-- Whether an option was given on this side of the first word. -/
def has (given : Given) (switch : Switch) : Bool :=
  given.switches.any fun entry => entry.1 == switch

/-- The value of an option; behind the first word it counts more than in front
of it. -/
def value? (given : Given) (switch : Switch) : Option String :=
  (given.switches.lookup switch).or (given.leading.lookup switch)

/-- How often an option was given, on the side of the first word that counts. -/
def count (given : Given) (switch : Switch) : Nat :=
  let side := if given.has switch then given.switches else given.leading
  (side.filter fun entry => entry.1 == switch).length

/--
Add an option, which may be repeated on one side of the first word only if it
asks for more detailed logging.
-/
def add (given : Given) (switch : Switch) (value : String) :
    Except Misuse Given :=
  if given.has switch && switch != .verbose then .error (.repeatedOption switch)
  else .ok { given with switches := (switch, value) :: given.switches }

/-- Add a word; the options in front of the first one are put aside. -/
def addWord (given : Given) (word : String) : Given :=
  if given.words.isEmpty then ⟨[word], given.switches, []⟩
  else { given with words := word :: given.words }

end Given

/-- The options in one argument, of which the last one may lack its value. -/
structure Switches where
  /-- The options that are complete, with their values. -/
  complete : List (Switch × String)
  /-- The option whose value is the next argument. -/
  open? : Option Switch

/-- Read an option behind two dashes, with its value behind an equals sign if
there is one. -/
def longSwitch (text : List Char) : Except Misuse Switches :=
  let (name, value?) :=
    match Text.cutFirst '=' text with
    | some (name, value) => (name, some (String.ofList value))
    | none => (text, none)
  match Switch.all.find? fun switch => switch.name.toList == name with
  | none => .error (.unknownOption ("--" ++ String.ofList text))
  | some switch =>
      match switch.takesValue, value? with
      | true, some value => .ok ⟨[(switch, value)], none⟩
      | true, none => .ok ⟨[], some switch⟩
      | false, some _ => .error (.strayValue switch)
      | false, none => .ok ⟨[(switch, "")], none⟩

/-- Read options behind one dash; what follows an option with a value is its
value. -/
def shortSwitches : List Char -> Except Misuse Switches
  | [] => .ok ⟨[], none⟩
  | letter :: rest =>
      match Switch.all.find? fun switch => switch.letter? == some letter with
      | none => .error (.unknownOption (String.ofList ['-', letter]))
      | some switch =>
          if switch.takesValue then
            match rest with
            | [] => .ok ⟨[], some switch⟩
            | '=' :: value => .ok ⟨[(switch, String.ofList value)], none⟩
            | value => .ok ⟨[(switch, String.ofList value)], none⟩
          else
            (shortSwitches rest).map fun others =>
              { others with complete := (switch, "") :: others.complete }

/-- Whether an argument is an option: it starts with a dash and is no dash
alone. -/
def isSwitch (argument : String) : Bool :=
  match argument.toList with
  | '-' :: _ :: _ => true
  | _ => false

/-- Read the options in an argument; `none` if it is a word. -/
def switches? (argument : String) : Option (Except Misuse Switches) :=
  match argument.toList with
  | '-' :: '-' :: name => some (longSwitch name)
  | '-' :: letter :: rest => some (shortSwitches (letter :: rest))
  | _ => none

/-- Read arguments.  Behind two dashes alone all arguments are words. -/
def readArguments (given : Given) : List String -> Except Misuse Given
  | [] => .ok given
  | argument :: rest =>
      if argument = "--" then .ok (rest.foldl Given.addWord given)
      else
        match switches? argument with
        | none => readArguments (given.addWord argument) rest
        | some (.error misuse) => .error misuse
        | some (.ok found) =>
            match found.complete.foldlM
              (fun given entry => given.add entry.1 entry.2) given with
            | .error misuse => .error misuse
            | .ok given =>
                match found.open?, rest with
                | none, rest => readArguments given rest
                | some switch, [] => .error (.missingValue switch)
                | some switch, value :: rest =>
                    if isSwitch value then .error (.missingValue switch)
                    else
                      match given.add switch value with
                      | .error misuse => .error misuse
                      | .ok given => readArguments given rest

/-- Read a number of at most 64 bits. -/
def limit? (text : String) : Option Nat :=
  let digits :=
    match text.toList with
    | '+' :: rest => rest
    | text => text
  if digits.isEmpty || !digits.all Char.isDigit then none
  else
    let value :=
      digits.foldl (fun value c => value * 10 + (c.toNat - '0'.toNat)) 0
    if value < 0x10000000000000000 then some value else none

/-- The options that belong to all tasks, and may stand in front of the first
word. -/
def general : List Switch :=
  [.configuration, .verbose]

/-- Refuse options that neither belong to a task nor to all tasks. -/
def only (given : Given) (allowed : List Switch) : Except Misuse Unit :=
  let strayLeading := given.leading.find? fun entry => !general.contains entry.1
  let stray := given.switches.find? fun entry =>
    !(general ++ allowed).contains entry.1
  match strayLeading.or stray with
  | some entry => .error (.strayOption entry.1)
  | none => .ok ()

/-- The task that the arguments name. -/
def taskOf (given : Given) : Except Misuse Task := do
  match given.words.reverse with
  | [] => throw .noTask
  | "query" :: files => do
      only given [.principal, .limit, .json]
      let limit ←
        match given.value? .limit with
        | none => pure none
        | some text =>
            match limit? text with
            | some limit => pure (some limit)
            | none => throw (.badLimit text)
      match files with
      | [snapshot, request] =>
          return .query snapshot request (given.value? .principal) limit
            (given.has .json)
      | _ => throw (.fileCount 2 files.length)
  | "rules" :: files => do
      only given [.json]
      match files with
      | [snapshot, rules] => return .rules snapshot rules (given.has .json)
      | _ => throw (.fileCount 2 files.length)
  | "config" :: files => do
      only given [.save]
      match files with
      | [] => return .configuration (given.has .save)
      | _ => throw (.fileCount 0 files.length)
  | word :: _ => throw (.unknownTask word)

/-- Read the arguments of the command line. -/
def Invocation.ofArguments (arguments : List String) :
    Except Misuse Invocation := do
  let given ← readArguments .empty arguments
  let task ← taskOf given
  return {
    task := task
    configuration := given.value? .configuration
    verbosity := given.count .verbose }

end Command
end MailSearch
