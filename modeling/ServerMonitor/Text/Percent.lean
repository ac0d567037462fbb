/-
This file decodes texts in which a percent sign and two hexadecimal digits stand
for a byte. A percent sign without two digits stands for itself.
-/

import ServerMonitor.Text.Decimal

namespace ServerMonitor.Text

/-- The byte that two hexadecimal digits denote. -/
def hexByte? (high low : UInt8) : Option UInt8 := do
  let first ← hexValue? (Char.ofNat high.toNat)
  let second ← hexValue? (Char.ofNat low.toNat)
  some (UInt8.ofNat (first * 16 + second))

/-- The bytes that percent-encoded bytes stand for. -/
def percentDecode : List UInt8 → List UInt8
  | byte :: high :: low :: rest =>
    if byte = 0x25 then
      match hexByte? high low with
      | some decoded => decoded :: percentDecode rest
      | none => byte :: percentDecode (high :: low :: rest)
    else byte :: percentDecode (high :: low :: rest)
  | bytes => bytes

/-- The text that a percent-encoded text stands for, if it is one. -/
def percentDecoded? (text : String) : Option String :=
  String.fromUTF8? ⟨(percentDecode text.toUTF8.toList).toArray⟩

end ServerMonitor.Text
