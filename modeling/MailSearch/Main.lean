import MailSearch.Command.Program

/-!
# The command line

The program on the files of the machine, with its standard input, its output and
its environment.
-/

namespace MailSearch

/-- Why an access to a file of the machine failed. -/
def fileError : IO.Error -> Storage.FileError
  | .noFileOrDirectory _ _ _ => .missing
  | other => .other (toString other)

/-- Run an access to a file of the machine. -/
def attempt {α : Type} (access : IO α) : IO (Except Storage.FileError α) := do
  try
    return .ok (← access)
  catch error =>
    return .error (fileError error)

/-- Access to the files of the machine. -/
def machineFiles : Storage.Files IO where
  read path := attempt do
    return (← IO.FS.readBinFile path).toList
  leadsSomewhere path := do
    return (← attempt (IO.FS.realPath path)).isOk
  makeDirectories path := attempt do
    if !path.isEmpty then IO.FS.createDirAll path
  create path := attempt do
    let _ ← IO.FS.Handle.mk path .append
  write path bytes := attempt (IO.FS.writeBinFile path ⟨bytes.toArray⟩)

/-- A directory for the program: one in the directory that is set, or in one of
the home directory. -/
def usualDirectory (setting home : String) : IO (Option String) := do
  if let some directory ← IO.getEnv setting then
    return some (directory ++ "/mailquery")
  return (← IO.getEnv "HOME").map fun directory =>
    directory ++ home ++ "/mailquery"

/-- The usual file of the configuration: the one that is set, or one in a usual
directory. -/
def usualConfigurationFile : IO (Option String) := do
  if let some path ← IO.getEnv "MAILQUERY_CONFIG" then return some path
  return (← usualDirectory "XDG_CONFIG_HOME" "/.config").map fun directory =>
    directory ++ "/config.toml"

/-- The surroundings on the machine. -/
def machine : IO (Command.Surroundings IO) := do
  return {
    files := machineFiles
    input := do return (← (← IO.getStdin).readBinToEnd).toList
    configurationFile := ← usualConfigurationFile
    logDirectory := ← usualDirectory "XDG_CACHE_HOME" "/.cache" }

end MailSearch

/-- Run the program on the machine. -/
def main (arguments : List String) : IO UInt32 := do
  let outcome ← MailSearch.Command.run (← MailSearch.machine) arguments
  IO.print (String.ofList outcome.output)
  IO.eprint (String.ofList outcome.diagnostic)
  return UInt32.ofNat outcome.code
