/-
This file reads internet addresses. Octets are decimal without leading zeros; a
long address has groups of up to four hexadecimal digits, may leave out one run
of groups at a double colon, and may end in the octets of a short one.
-/

import ServerMonitor.Address.Basic

namespace ServerMonitor.Address

open Text

/-- An octet of up to three digits without leading zeros, and the rest. -/
def readOctet? (characters : List Char) : Option (UInt8 × List Char) :=
  let (digits, rest) := spanDigits characters
  let leadingZero := digits.head? = some '0' && 1 < digits.length
  if digits = [] ∨ 3 < digits.length ∨ leadingZero ∨ 256 ≤ ofDigits digits then none
  else some (UInt8.ofNat (ofDigits digits), rest)

/-- The rest behind an expected mark. -/
def afterMark? (mark : Char) (characters : List Char) : Option (List Char) :=
  match characters with
  | first :: rest => if first = mark then some rest else none
  | [] => none

/-- Four octets with dots between them, and the rest. -/
def readOctets? (characters : List Char) : Option (Vector UInt8 4 × List Char) := do
  let (first, rest) ← readOctet? characters
  let (second, rest) ← readOctet? (← afterMark? '.' rest)
  let (third, rest) ← readOctet? (← afterMark? '.' rest)
  let (fourth, rest) ← readOctet? (← afterMark? '.' rest)
  some (#v[first, second, third, fourth], rest)

/-- A group of up to four hexadecimal digits, and the rest. -/
def readGroup? (characters : List Char) : Option (UInt16 × List Char) :=
  let digits := characters.takeWhile fun character => (hexValue? character).isSome
  if digits = [] ∨ 4 < digits.length then none
  else
    let value := digits.foldl (fun value digit => value * 16 + (hexValue? digit).getD 0) 0
    some (UInt16.ofNat value, characters.drop digits.length)

/-- What a run of groups consists of, whether it ends in octets, and the rest. -/
structure GroupRun where
  groups : List UInt16
  endsInOctets : Bool
  rest : List Char

/-- Up to `room` groups with colons between them; octets stand for the last two groups. -/
def readGroups (leading : Bool) : (room : Nat) → List Char → GroupRun
  | 0, characters => ⟨[], false, characters⟩
  | room + 1, characters =>
    match (if leading then some characters else afterMark? ':' characters) with
    | none => ⟨[], false, characters⟩
    | some start =>
      match (if room = 0 then none else readOctets? start) with
      | some (octets, rest) =>
        let pair (high low : UInt8) : UInt16 := high.toUInt16 <<< 8 ||| low.toUInt16
        ⟨[pair octets[0] octets[1], pair octets[2] octets[3]], true, rest⟩
      | none =>
        match readGroup? start with
        | none => ⟨[], false, characters⟩
        | some (group, rest) =>
          let further := readGroups false room rest
          { further with groups := group :: further.groups }

/-- Exactly eight groups. -/
def ofGroups? (groups : List UInt16) : Option Address :=
  if size : groups.toArray.size = 8 then some (long ⟨groups.toArray, size⟩) else none

/-- A whole text as a long address. The double colon stands for at least one group, and octets
cannot stand before it. -/
def readLong? (characters : List Char) : Option Address := do
  let head := readGroups true 8 characters
  if head.groups.length = 8 then
    if head.rest = [] then ofGroups? head.groups else none
  else if head.endsInOctets then none
  else
    let afterColons ← afterMark? ':' (← afterMark? ':' head.rest)
    let tail := readGroups true (7 - head.groups.length) afterColons
    let zeros := List.replicate (8 - head.groups.length - tail.groups.length) 0
    if tail.rest = [] then ofGroups? (head.groups ++ zeros ++ tail.groups) else none

/-- The address that a whole text names. -/
def read? (text : String) : Option Address :=
  match readOctets? text.toList with
  | some (octets, rest) => if rest = [] then some (short octets) else none
  | none => readLong? text.toList

end ServerMonitor.Address
