import SqlToolkit.CommandLine.Arguments
import SqlToolkit.CommandLine.Commands
import Std.Time.Format
/-!
The program for migrations. It touches no files: standard input holds the names of the files in the
folder of the migrations, one on each line, and after an empty line the text of the configuration,
if there is one. The text of a new file is printed after the lines of the command.
-/

namespace SqlToolkit.CommandLine

/-- The place of a database where there is none: no driver is there to open a session with. -/
structure NoDatabase where

instance : Database NoDatabase where
  connect config _ := throw (.missingPackage config.driver)
  answer _ _ := throw Link.missingSession
  control _ _ := throw Link.missingSession

def usage : String :=
  "usage: quarry [-c FILE] [-d NAME] [-p FOLDER] [--env NAME] [-v] COMMAND\n\ncommands:\n" ++
    String.join (Verb.all.map fun verb => "  " ++ verb.name ++ "\n")

def ArgumentError.message : ArgumentError → String
  | help | nothing => usage
  | version => "quarry 0.1.0"
  | noCommand => "a command is missing"
  | unknownCommand word => "unknown command: " ++ word
  | unknownArgument word => "unknown argument: " ++ word
  | missingName => "the name of the migration is missing"
  | invalidValue flag => "invalid value for --" ++ flag.long
  | repeated flag => "--" ++ flag.long ++ " is given twice"
  | excessValue flag => "--" ++ flag.long ++ " takes no value"

def ArgumentError.isRequest : ArgumentError → Bool
  | help | version => true
  | _ => false

/-- The names of files, and the text of the configuration behind an empty line. -/
def readInput (lines : List String) : List String × Option String :=
  match lines.span (· != "") with
  | (names, []) => (names, none)
  | (names, _ :: text) => (names, some ("\n".intercalate text))

/-- What the program prints: its lines and the texts of new files, or why it failed. -/
def output (options : Options) (input : List String) (now : Moment) : Except String (List String) :=
  let (names, config) := readInput input
  let folder := [options.path]
  match DatabaseConfig.ofFile config with
  | .error error => .error error.message
  | .ok config =>
      let files := ({ folders := [[], folder] } : FileTree).addEmpty folder names
      let workspace : Workspace NoDatabase := { connections := .make config ⟨⟩, files }
      match options.lines {} folder now workspace with
      | .error error _ => .error error.message
      | .ok lines after => .ok (lines ++ (after.files.files.drop files.files.length).map (·.2))

partial def readLines (input : IO.FS.Stream) (lines : List String) : IO (List String) := do
  let line ← input.getLine
  if line.isEmpty then return lines.reverse
  readLines input ((if line.endsWith "\n" then (line.dropEnd 1).toString else line) :: lines)

def readClock : IO Moment := do
  let now ← Std.Time.PlainDateTime.now
  return ⟨⟨now.date.year, now.date.month.val.toNat, now.date.day.val.toNat⟩,
    ⟨now.time.hour.val.toNat, now.time.minute.val.toNat, now.time.second.val.toNat⟩⟩

end SqlToolkit.CommandLine

open SqlToolkit.CommandLine in
def main (arguments : List String) : IO UInt32 := do
  match Options.ofArguments arguments with
  | .error error =>
      if error.isRequest then
        IO.println error.message
        return 0
      IO.eprintln error.message
      return 2
  | .ok options =>
      match output options (← readLines (← IO.getStdin) []) (← readClock) with
      | .ok lines =>
          lines.forM IO.println
          return 0
      | .error message =>
          IO.eprintln message
          return 1
