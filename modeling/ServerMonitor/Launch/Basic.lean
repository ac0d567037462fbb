/-
This file models a call of the program: from its arguments, the environment and
the files it may read to its exit code. A run that starts goes on until it is
interrupted and then shuts down.
-/

import ServerMonitor.Agent.Start
import ServerMonitor.Api.Body
import ServerMonitor.Launch.Arguments
import ServerMonitor.Settings.File

namespace ServerMonitor.Launch

/-- The name under which the program is called. -/
def programName : String := "storage-agent"

/-- What the program says when it is asked for its version. -/
def versionText : String := s!"{programName} {version}"

/-! ### Messages -/

/-- What a run says about itself. -/
inductive Notice
  | called
  | configured
  /-- The hub ended because nobody feeds it any more. -/
  | hubClosed
  | listening (address : String)
  | interrupted
  /-- A task had no time to end by itself. -/
  | aborting
  | stopped
deriving DecidableEq

namespace Notice

def level : Notice → LogLevel
  | called => .trace
  | configured => .debug
  | hubClosed | listening _ | interrupted | stopped => .info
  | aborting => .warn

def text : Notice → String
  | called => "started"
  | configured => "settings read"
  | hubClosed => "hub closed"
  | listening address => s!"listening on {address}"
  | interrupted => "received interrupt"
  | aborting => "task still running, aborting"
  | stopped => "agent stopped"

end Notice

/-! ### Calls -/

/-- How far a call gets. -/
inductive Outcome
  /-- It was ended by its arguments. -/
  | interrupted (interruption : Interruption)
  /-- The settings file was refused. -/
  | refused (threshold : LogLevel) (error : Settings.FileError)
  /-- A queue that the settings ask for cannot be made. -/
  | collapsed (threshold : LogLevel) (settings : Settings)
  | started (threshold : LogLevel) (settings : Settings)

/-- The level that counts: of the arguments, or else of the environment if it names one. -/
def threshold (arguments : Arguments) (environment : Environment) : LogLevel :=
  (arguments.logLevel.or (environment.logLevel.bind LogLevel.ofText?)).getD .info

/-- The settings of a call; `readText` reads the text of a file. -/
def settings (arguments : Arguments) (environment : Environment)
    (readText : String → Except FileFault String) : Except Settings.FileError Settings :=
  match arguments.file with
  | some path => Settings.ofReading environment path (readText path)
  | none => .ok (Settings.default environment)

/-- Calls the program. -/
def call (arguments : List String) (environment : Environment)
    (readText : String → Except FileFault String) : Outcome :=
  match Arguments.read arguments with
  | .error interruption => .interrupted interruption
  | .ok arguments =>
    let threshold := threshold arguments environment
    match settings arguments environment readText with
    | .error error => .refused threshold error
    | .ok settings =>
      if settings.canStart then .started threshold settings else .collapsed threshold settings

namespace Outcome

/-- The exit code of a call whose run, if it starts, is interrupted. -/
def exitCode : Outcome → Nat
  | interrupted .misuse => 2
  | interrupted _ => 0
  | refused _ _ => 1
  | collapsed _ _ => 101
  | started _ _ => 0

/-- What is said on the way to the outcome, whether it is let through or not. A hub that runs when
another queue cannot be made is left alone and ends. -/
def notices : Outcome → List Notice
  | interrupted _ => []
  | refused _ _ => [.called]
  | collapsed _ settings =>
    [.called, .configured] ++ if settings.canStartHub then [.hubClosed] else []
  | started _ settings =>
    [.called, .configured, .listening settings.listenAddress, .interrupted] ++
      (if settings.shutdownGrace = 0 then [.aborting] else []) ++ [.stopped]

/-- The threshold of messages. -/
def threshold : Outcome → LogLevel
  | interrupted _ => .off
  | refused threshold _ | collapsed threshold _ | started threshold _ => threshold

/-- The messages that are let through. -/
def shown (outcome : Outcome) : List Notice :=
  outcome.notices.filter fun notice => outcome.threshold.shows notice.level

/-- The levels of the messages that are let through, each once. -/
def shownLevels (outcome : Outcome) : List LogLevel :=
  LogLevel.all.filter fun level => outcome.shown.any fun notice => notice.level = level

end Outcome

end ServerMonitor.Launch
