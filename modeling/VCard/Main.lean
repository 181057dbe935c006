import VCard.Cli
/-! The program: reads its command line, the files it names, and carries out
the command (see `Cli`). -/
namespace VCard

namespace Cli

/-- The text of a file, undecodable bytes replaced; none when it cannot be read. -/
def readText? (path : String) : IO (Option String) := do
  try
    let bytes ← IO.FS.readBinFile path
    return some (Encoding.decodeUtf8 bytes.toList)
  catch _ =>
    return none

/-- Prints an outcome, writes its files, and gives its exit code. -/
def perform (o : Outcome) : IO UInt32 := do
  for (path, text) in o.writes do
    IO.FS.writeFile path text
  IO.print o.out
  IO.eprint o.err
  return o.code

/-- Carries out a command. -/
def execute : Command → IO UInt32
  | .help => do IO.print usage; return 0
  | .initConfig path => do
    let present ← (readText? path).map Option.isSome
    perform (initConfig path present)
  | .convert o => do
    let config ← match o.config with
      | some p => readText? p
      | none => pure none
    match ← readText? o.input with
    | some text => perform (convert o text config)
    | none => perform { err := "Could not read " ++ o.input ++ ": no such file\n", code := 2 }
  | .validate input version configPath => do
    let config ← match configPath with
      | some p => readText? p
      | none => pure none
    match ← readText? input with
    | some text => perform (validate input version text config)
    | none => perform { err := "Could not read " ++ input ++ ": no such file\n", code := 2 }
  | .inspect input configPath => do
    let config ← match configPath with
      | some p => readText? p
      | none => pure none
    match ← readText? input with
    | some text => perform (inspect input text config)
    | none => perform { err := "Could not read " ++ input ++ ": no such file\n", code := 2 }

end Cli

end VCard

/-- Runs the command line. -/
def main (args : List String) : IO UInt32 := do
  match VCard.Cli.parseArgs args with
  | .ok cmd => VCard.Cli.execute cmd
  | .error msg => do
    IO.eprint (VCard.Cli.usage ++ "\nError: " ++ msg ++ "\n")
    return 2
