/-
This file writes a text between double quotes for diagnostics: quotes,
backslashes and the common controls have short escapes, and every other
unprintable character is written by its code point.
-/

import ServerMonitor.Text.Decimal
import ServerMonitor.Text.Printable

namespace ServerMonitor.Text

/-- How one character stands in a quoted text. -/
def quotedCharacter (character : Char) : List Char :=
  match character with
  | '\x00' => ['\\', '0']
  | '\t' => ['\\', 't']
  | '\r' => ['\\', 'r']
  | '\n' => ['\\', 'n']
  | '"' => ['\\', '"']
  | '\\' => ['\\', '\\']
  | _ =>
    if isPrintable character then [character]
    else ['\\', 'u', '\x7b'] ++ hexadecimal character.toNat ++ ['\x7d']

def quoted (text : String) : String :=
  String.ofList ('"' :: text.toList.flatMap quotedCharacter ++ ['"'])

/-- Several quoted texts as a bracketed list. -/
def quotedList (texts : List String) : String :=
  "[" ++ ", ".intercalate (texts.map quoted) ++ "]"

end ServerMonitor.Text
