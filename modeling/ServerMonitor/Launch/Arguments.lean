/-
This file reads the arguments with which the program is called. They are read
from left to right; the first one that asks for help or for the version, or that
is wrong, ends the reading.
-/

import ServerMonitor.Launch.LogLevel

namespace ServerMonitor.Launch

structure Arguments where
  /-- The path of the settings file. -/
  file : Option String
  logLevel : Option LogLevel
deriving DecidableEq, Inhabited

/-- Why the program does not run with the arguments it was given. -/
inductive Interruption
  | help
  | version
  | misuse
deriving DecidableEq

/-- An option that takes a value. -/
inductive Setting
  | file
  | logLevel
deriving DecidableEq

namespace Arguments

def none : Arguments := ⟨.none, .none⟩

/-- Whether an argument can be the value of the option before it. -/
def isValue (argument : String) : Bool :=
  argument = "-" || argument.toList.head? ≠ some '-'

/-- Gives an option its value; each can be given once. -/
def set (arguments : Arguments) (setting : Setting) (value : String) :
    Except Interruption Arguments :=
  match setting with
  | .file =>
    if arguments.file.isSome then .error .misuse else .ok { arguments with file := some value }
  | .logLevel =>
    match arguments.logLevel, LogLevel.ofText? value with
    | .none, some level => .ok { arguments with logLevel := some level }
    | _, _ => .error .misuse

/-- What a single argument says. -/
inductive Word
  | stop (interruption : Interruption)
  /-- The end of the options. -/
  | endOfOptions
  | assign (setting : Setting) (value : String)
  /-- An option whose value is the next argument. -/
  | expect (setting : Setting)

/-- The meaning of an argument that is no value of another one. -/
def wordOf (argument : String) : Word :=
  match argument.toList with
  | ['-', '-'] => .endOfOptions
  | '-' :: '-' :: long =>
    if long = "help".toList then .stop .help
    else if long = "version".toList then .stop .version
    else if long = "log-level".toList then .expect .logLevel
    else if "log-level=".toList.isPrefixOf long then
      .assign .logLevel (String.ofList (long.drop "log-level=".length))
    else .stop .misuse
  | '-' :: 'h' :: _ => .stop .help
  | '-' :: 'V' :: _ => .stop .version
  | ['-', 'f'] => .expect .file
  | '-' :: 'f' :: '=' :: value => .assign .file (String.ofList value)
  | '-' :: 'f' :: value => .assign .file (String.ofList value)
  | _ => .stop .misuse

/-- Reads the remaining arguments. -/
def readOn (arguments : Arguments) : List String → Except Interruption Arguments
  | [] => .ok arguments
  | argument :: rest =>
    match wordOf argument with
    | .stop interruption => .error interruption
    | .endOfOptions => if rest.isEmpty then .ok arguments else .error .misuse
    | .assign setting value => do (← arguments.set setting value).readOn rest
    | .expect setting =>
      match rest with
      | value :: rest =>
        if isValue value then do (← arguments.set setting value).readOn rest else .error .misuse
      | [] => .error .misuse

/-- Reads the arguments of a call. -/
def read (arguments : List String) : Except Interruption Arguments := none.readOn arguments

end Arguments

end ServerMonitor.Launch
