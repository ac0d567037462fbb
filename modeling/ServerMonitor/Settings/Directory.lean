/-
This file models the directory in which the agent is started and reads the
texts of files by their paths. Only the files of that directory are known; the
directories above it exist and hold nothing else.
-/

namespace ServerMonitor

/-- Why a file cannot be read. -/
inductive FileFault
  | missing
  | isDirectory
  | notDirectory
  | nameTooLong
  | nulInName
  | notText
deriving DecidableEq

def FileFault.message : FileFault → String
  | missing => "No such file or directory (os error 2)"
  | isDirectory => "Is a directory (os error 21)"
  | notDirectory => "Not a directory (os error 20)"
  | nameTooLong => "File name too long (os error 36)"
  | nulInName => "file name contained an unexpected NUL byte"
  | notText => "stream did not contain valid UTF-8"

/-- A directory with its files. -/
structure Directory where
  files : List (String × ByteArray)

namespace Directory

def empty : Directory := ⟨[]⟩

/-- The longest name of a directory entry in bytes. -/
def longestName : Nat := 255

/-- The length in bytes at which a path is too long. -/
def pathLimit : Nat := 4096

/-- Where a path has led so far. -/
inductive Place
  | here
  /-- In a directory above. -/
  | above
  | file (content : ByteArray)

/-- Follows one part of a path. -/
def follow (directory : Directory) (place : Place) (part : String) : Except FileFault Place :=
  match place with
  | .file _ => .error .notDirectory
  | place =>
    if part = "" ∨ part = "." then .ok place
    else if part = ".." then .ok .above
    else if longestName < part.utf8ByteSize then .error .nameTooLong
    else
      match place, directory.files.lookup part with
      | .here, some content => .ok (.file content)
      | _, _ => .error .missing

/-- What stands at a path. -/
def find (directory : Directory) (path : String) : Except FileFault Place :=
  if path.toList.contains '\x00' then .error .nulInName
  else if path = "" then .error .missing
  else if pathLimit ≤ path.utf8ByteSize then .error .nameTooLong
  else
    let start := if path.toList.head? = some '/' then Place.above else Place.here
    (path.splitOn "/").foldlM directory.follow start

/-- The text of the file at a path. -/
def readText (directory : Directory) (path : String) : Except FileFault String := do
  match ← directory.find path with
  | .file content => (String.fromUTF8? content).elim (.error .notText) .ok
  | _ => .error .isDirectory

end Directory

end ServerMonitor
