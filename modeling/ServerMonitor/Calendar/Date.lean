/-
This file models days of the proleptic Gregorian calendar. A date always names
a day that exists, inside the years the program can represent.
-/

namespace ServerMonitor

/-! ### Lengths of months -/

def isLeapYear (year : Int) : Bool :=
  year % 4 = 0 && (year % 100 ≠ 0 || year % 400 = 0)

/-- The number of days of a month; zero for a month that does not exist. -/
def daysInMonth (year : Int) (month : Nat) : Nat :=
  match month with
  | 2 => if isLeapYear year then 29 else 28
  | 4 | 6 | 9 | 11 => 30
  | 1 | 3 | 5 | 7 | 8 | 10 | 12 => 31
  | _ => 0

/-- The years of representable dates. -/
def firstYear : Int := -262143

def lastYear : Int := 262142

/-- Whether the three numbers name a representable day. A month that does not exist has no
days, so its bounds need no mention. -/
def isDay (year : Int) (month day : Nat) : Bool :=
  firstYear ≤ year && year ≤ lastYear && 1 ≤ day && day ≤ daysInMonth year month

/-! ### Dates -/

structure Date where
  year : Int
  month : Nat
  day : Nat
  inCalendar : isDay year month day = true
deriving DecidableEq

namespace Date

def ofParts? (year : Int) (month day : Nat) : Option Date :=
  if valid : isDay year month day = true then some ⟨year, month, day, valid⟩ else none

/-- The day before, unless it lies before the first representable year. -/
def previous? (date : Date) : Option Date :=
  if 1 < date.day then ofParts? date.year date.month (date.day - 1)
  else if 1 < date.month then
    ofParts? date.year (date.month - 1) (daysInMonth date.year (date.month - 1))
  else ofParts? (date.year - 1) 12 31

/-- The day after, unless it lies beyond the last representable year. -/
def next? (date : Date) : Option Date :=
  if date.day < daysInMonth date.year date.month then
    ofParts? date.year date.month (date.day + 1)
  else if date.month < 12 then ofParts? date.year (date.month + 1) 1
  else ofParts? (date.year + 1) 1 1

/-- The first day of 1970. -/
def epoch : Date := ⟨1970, 1, 1, by decide⟩

/-- The number of a day, consecutive days having consecutive numbers. Years are counted from March,
so that the leap day comes last. -/
def dayNumber (date : Date) : Int :=
  let year := if date.month ≤ 2 then date.year - 1 else date.year
  let month := (date.month + 9) % 12
  365 * year + year / 4 - year / 100 + year / 400 + ((153 * month + 2) / 5 + date.day : Nat)

end Date

end ServerMonitor
