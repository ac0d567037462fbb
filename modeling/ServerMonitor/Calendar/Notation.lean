/-
This file writes and reads instants as text. Writing follows RFC 3339 with
years outside four digits signed; reading is lenient: blanks may stand around
the numbers, fields may have one digit, the offset may be written in several
ways, and the result is the instant in universal time.
-/

import ServerMonitor.Calendar.Instant
import ServerMonitor.Text.Blank
import ServerMonitor.Text.Decimal

namespace ServerMonitor.Instant

open Text

/-! ### Writing -/

/-- A year: four digits, or a sign and at least four. -/
def writtenYear (year : Int) : List Char :=
  if 0 ≤ year ∧ year ≤ 9999 then paddedDecimal 4 year.toNat
  else (if year < 0 then '-' else '+') :: paddedDecimal 4 year.natAbs

/-- The fraction of a second in as few of 0, 3, 6 and 9 digits as hold it. -/
def writtenFraction (nanosecond : Nat) : List Char :=
  if nanosecond = 0 then []
  else if nanosecond % 1000000 = 0 then '.' :: paddedDecimal 3 (nanosecond / 1000000)
  else if nanosecond % 1000 = 0 then '.' :: paddedDecimal 6 (nanosecond / 1000)
  else '.' :: paddedDecimal 9 nanosecond

/-- The time of day; a leap second is written as second 60. -/
def writtenTime (instant : Instant) : List Char :=
  let leap := nanosecondsPerSecond ≤ instant.nanosecond
  let second := if leap then instant.second % 60 + 1 else instant.second % 60
  let fraction := if leap then instant.nanosecond - nanosecondsPerSecond else instant.nanosecond
  paddedDecimal 2 (instant.second / 3600) ++ ':' :: paddedDecimal 2 (instant.second / 60 % 60) ++
    ':' :: paddedDecimal 2 second ++ writtenFraction fraction

/-- Date and time without an offset. -/
def writtenClock (instant : Instant) : List Char :=
  writtenYear instant.date.year ++ '-' :: paddedDecimal 2 instant.date.month ++
    '-' :: paddedDecimal 2 instant.date.day ++ 'T' :: instant.writtenTime

/-- An instant as a text that ends in the letter for universal time. -/
def written (instant : Instant) : String := String.ofList (instant.writtenClock ++ ['Z'])

/-- An instant as a text that ends in a numeric offset of zero. -/
def writtenWithOffset (instant : Instant) : String :=
  String.ofList (instant.writtenClock ++ ['+', '0', '0', ':', '0', '0'])

/-! ### Reading -/

/-- A number of at most `width` digits behind any blanks, and the rest. -/
def readNumber? (width : Nat) (characters : List Char) : Option (Nat × List Char) :=
  let start := skipBlanks characters
  let digits := (spanDigits start).1.take width
  if digits = [] then none else some (ofDigits digits, start.drop digits.length)

/-- A year behind any blanks: at most four digits, or a sign and any number of them. -/
def readYear? (characters : List Char) : Option (Int × List Char) :=
  match skipBlanks characters with
  | '-' :: rest => readSigned rest (-1)
  | '+' :: rest => readSigned rest 1
  | start => (readNumber? 4 start).map fun (year, rest) => ((year : Int), rest)
where
  readSigned (characters : List Char) (sign : Int) : Option (Int × List Char) :=
    let (digits, rest) := spanDigits characters
    if digits = [] then none else some (sign * ofDigits digits, rest)

/-- A mark behind any blanks. -/
def skipMark? (mark : Char) (characters : List Char) : Option (List Char) :=
  match skipBlanks characters with
  | first :: rest => if first = mark then some rest else none
  | [] => none

/-- An optional fraction of a second: nine digits count, further ones are passed over. -/
def readFraction? (characters : List Char) : Option (Nat × List Char) :=
  match characters with
  | '.' :: rest =>
    let (digits, after) := spanDigits rest
    let kept := digits.take 9
    if digits = [] then none
    else some (ofDigits kept * Nat.pow 10 (9 - kept.length), after)
  | _ => some (0, characters)

/-- Two decimal digits. -/
def readPair? (characters : List Char) : Option (Nat × List Char) :=
  match characters with
  | tens :: units :: rest =>
    if tens.isDigit && units.isDigit then some (ofDigits [tens, units], rest) else none
  | _ => none

/-- A numeric offset after its sign: two digits of hours, colons or blanks, and two digits of
minutes; the seconds it denotes are less than a day. -/
def readOffset? (sign : Int) (characters : List Char) : Option (Int × List Char) := do
  let (hours, afterHours) ← readPair? characters
  let separated := afterHours.dropWhile fun character => character = ':' || isBlank character
  let (minutes, rest) ← readPair? separated
  if hours < 24 ∧ minutes < 60 then some (sign * (hours * 3600 + minutes * 60 : Nat), rest)
  else none

/-- The offset from universal time: a letter, a name or hours and minutes. -/
def readZone? (characters : List Char) : Option (Int × List Char) :=
  match characters with
  | first :: second :: third :: rest =>
    if [first, second, third].map Char.toLower = ['u', 't', 'c'] then some (0, rest)
    else readSignedZone first (second :: third :: rest)
  | first :: rest => readSignedZone first rest
  | [] => none
where
  readSignedZone (first : Char) (rest : List Char) : Option (Int × List Char) :=
    if first = 'Z' ∨ first = 'z' then some (0, rest)
    else if first = '+' then readOffset? 1 rest
    else if first = '-' ∨ first = '\u2212' then readOffset? (-1) rest
    else none

/-- A date in three numbers, and the rest. -/
def readDate? (characters : List Char) : Option ((Int × Nat × Nat) × List Char) := do
  let (year, afterYear) ← readYear? characters
  let (month, afterMonth) ← readNumber? 2 (← skipMark? '-' afterYear)
  let (day, afterDay) ← readNumber? 2 (← skipMark? '-' afterMonth)
  some ((year, month, day), afterDay)

/-- A time of day as a second of the day and a nanosecond, and the rest. Second 60 is the leap
second that follows second 59. -/
def readTime? (characters : List Char) : Option ((Nat × Nat) × List Char) := do
  let (hour, afterHour) ← readNumber? 2 characters
  let (minute, afterMinute) ← readNumber? 2 (← skipMark? ':' afterHour)
  let (second, afterSecond) ← readNumber? 2 (← skipMark? ':' afterMinute)
  let (fraction, rest) ← readFraction? afterSecond
  if hour < 24 ∧ minute < 60 ∧ second ≤ 60 then
    let start := hour * 3600 + minute * 60
    if second = 60 then some ((start + 59, nanosecondsPerSecond + fraction), rest)
    else some ((start + second, fraction), rest)
  else none

/-- One mark stands between date and time. -/
def skipSeparator? (characters : List Char) : Option (List Char) :=
  match characters with
  | first :: rest => if first = 'T' ∨ first = 't' ∨ first = ' ' then some rest else none
  | [] => none

/-- The instant that a text names. -/
def read? (text : String) : Option Instant := do
  let ((year, month, day), afterDate) ← readDate? text.toList
  let ((second, nanosecond), afterTime) ← readTime? (← skipSeparator? afterDate)
  let (ahead, rest) ← readZone? (skipBlanks afterTime)
  if skipBlanks rest = [] then
    let date ← Date.ofParts? year month day
    ofLocal? date second nanosecond ahead
  else none

end ServerMonitor.Instant
