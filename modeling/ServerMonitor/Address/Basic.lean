/-
This file models internet addresses of both families and writes them in their
usual form: the longest run of zero groups is left out of the long ones, and a
short address mapped into a long one keeps its dots.
-/

import ServerMonitor.Text.Decimal

namespace ServerMonitor

inductive Address
  /-- Four octets. -/
  | short (octets : Vector UInt8 4)
  /-- Eight groups of 16 bits. -/
  | long (groups : Vector UInt16 8)
deriving DecidableEq

namespace Address

open Text

/-- The short address of zeros, which stands for every interface. -/
def unspecified : Address := short #v[0, 0, 0, 0]

instance : Inhabited Address := ⟨unspecified⟩

/-- Parts with a mark between them. -/
def joined (mark : Char) (parts : List (List Char)) : List Char := [mark].intercalate parts

def writtenOctets (octets : List UInt8) : List Char :=
  joined '.' (octets.map fun octet => decimal octet.toNat)

def writtenGroups (groups : List UInt16) : List Char :=
  joined ':' (groups.map fun group => hexadecimal group.toNat)

/-- The length of the run of zeros that a list starts with. -/
def zeroRun (groups : List UInt16) : Nat := (groups.takeWhile (· = 0)).length

/-- The first of the longest runs of zeros, as start and length. -/
def longestZeroRun (groups : List UInt16) : Nat × Nat :=
  (List.range groups.length).foldl
    (fun best start =>
      let length := zeroRun (groups.drop start)
      if best.2 < length then (start, length) else best)
    (0, 0)

/-- The octets of a short address mapped into a long one. -/
def mappedOctets? (groups : List UInt16) : Option (List UInt8) :=
  match groups with
  | [0, 0, 0, 0, 0, 0xffff, high, low] =>
    some [(high >>> 8).toUInt8, high.toUInt8, (low >>> 8).toUInt8, low.toUInt8]
  | _ => none

def writtenLong (groups : List UInt16) : List Char :=
  match mappedOctets? groups with
  | some octets => [':', ':', 'f', 'f', 'f', 'f', ':'] ++ writtenOctets octets
  | none =>
    let (start, length) := longestZeroRun groups
    if 1 < length then
      writtenGroups (groups.take start) ++ [':', ':'] ++
        writtenGroups (groups.drop (start + length))
    else writtenGroups groups

def written : Address → String
  | short octets => String.ofList (writtenOctets octets.toList)
  | long groups => String.ofList (writtenLong groups.toList)

/-- An address with a port; brackets keep a long address apart from it. -/
def writtenWithPort (address : Address) (port : UInt16) : String :=
  let shown := match address with
    | short _ => address.written
    | long _ => "[" ++ address.written ++ "]"
  shown ++ ":" ++ String.ofList (decimal port.toNat)

end Address

end ServerMonitor
