/-
This file is the command line of the program: it hands the arguments, the
environment and the settings file to the library and prints what comes of it. A
run that starts goes on until the standard input ends.
-/

import ServerMonitor.Api.Service
import ServerMonitor.Launch.Basic

namespace ServerMonitor.Launch

/-- What the program says when it is asked for help. -/
def helpText : String :=
  "Storage server monitoring agent\n\n" ++
  s!"Usage: {programName} [OPTIONS]\n\n" ++
  "Options:\n" ++
  "  -f <FILE>                    Settings file (JSON); defaults apply when omitted\n" ++
  "      --log-level <LOG_LEVEL>  Threshold (off, error, warn, info, debug, trace)\n" ++
  "  -h, --help                   Print help\n" ++
  "  -V, --version                Print version"

/-- The text of a file, read from the disk. -/
def textOfFile (path : String) : IO (Except FileFault String) := do
  try
    let bytes ← IO.FS.readBinFile path
    return (String.fromUTF8? bytes).elim (.error .notText) .ok
  catch
    | .noFileOrDirectory .. => return .error .missing
    | .inappropriateType .. => return .error .isDirectory
    | _ => return .error .missing

/-- Prints the messages of a level that is let through. -/
def announce (outcome : Outcome) (notice : Notice) : IO Unit := do
  if outcome.threshold.shows notice.level then
    IO.eprintln s!"{notice.level.name} {notice.text}"

/-- Waits for the end of the standard input. -/
partial def awaitEnd (input : IO.FS.Stream) : IO Unit := do
  unless (← input.getLine).isEmpty do
    awaitEnd input

/-- Calls the program and goes through its run. -/
def run (arguments : List String) : IO UInt32 := do
  let environment : Environment :=
    ⟨← IO.getEnv "AGENT_PORT", ← IO.getEnv "AGENT_ADDR", ← IO.getEnv "AGENT_LOG_LEVEL"⟩
  let path := ((Arguments.read arguments).toOption.bind (·.file)).getD ""
  let reading ← textOfFile path
  let outcome := call arguments environment fun _ => reading
  match outcome with
  | .interrupted .help => IO.println helpText
  | .interrupted .version => IO.println versionText
  | .interrupted .misuse => IO.eprintln s!"error: unusable arguments\n\n{helpText}"
  | .refused _ error =>
    outcome.notices.forM (announce outcome)
    IO.eprintln ("Error: " ++ error.message "not the JSON of settings")
  | .collapsed _ _ =>
    outcome.notices.forM (announce outcome)
    IO.eprintln "a queue of this length cannot be made"
  | .started _ _ =>
    for notice in outcome.notices do
      if notice = .interrupted then awaitEnd (← IO.getStdin)
      announce outcome notice
  return UInt32.ofNat outcome.exitCode

end ServerMonitor.Launch

def main (arguments : List String) : IO UInt32 := ServerMonitor.Launch.run arguments
