/-
This file reads settings from a file: the text is read, understood and checked,
and each of these may fail with a message of its own.
-/

import ServerMonitor.Settings.Basic
import ServerMonitor.Settings.Directory

namespace ServerMonitor.Settings

/-- Why a settings file is refused. -/
inductive FileError
  | unreadable (path : String) (fault : FileFault)
  | unparsable
  | invalid (violation : Violation)
deriving DecidableEq

/-- The message of an error; `detail` stands for what the reader says about a text that is no
JSON of the right shape. -/
def FileError.message (detail : String) : FileError → String
  | unreadable path fault => s!"failed to read config file {path}: {fault.message}"
  | unparsable => s!"invalid configuration file provided: {detail}"
  | invalid violation => s!"invalid configuration: {violation.message}"

/-- The settings that a text holds, if they are valid. -/
def ofText (environment : Environment) (text : String) : Except FileError Settings :=
  match (schema environment).ofText text with
  | .error _ => .error .unparsable
  | .ok settings =>
    match settings.violation? with
    | some violation => .error (.invalid violation)
    | none => .ok settings

/-- The settings that come of reading the file at a path. -/
def ofReading (environment : Environment) (path : String) (reading : Except FileFault String) :
    Except FileError Settings :=
  match reading with
  | .error fault => .error (.unreadable path fault)
  | .ok text => ofText environment text

/-- The settings in the file at a path. -/
def ofFile (environment : Environment) (directory : Directory) (path : String) :
    Except FileError Settings :=
  ofReading environment path (directory.readText path)

end ServerMonitor.Settings
