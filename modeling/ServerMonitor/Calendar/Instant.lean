/-
This file models instants of universal time as a date, a second of that day and
a nanosecond. A leap second is the last second of a minute with a nanosecond
count beyond a thousand million.
-/

import ServerMonitor.Calendar.Date

namespace ServerMonitor

def secondsPerDay : Nat := 86400

def nanosecondsPerSecond : Nat := 1000000000

/-- Whether a second of the day and a nanosecond name a time: only the last second of a minute
can be a leap second. Neither a clock nor a text that is read yields a leap second anywhere else. -/
def isTime (second nanosecond : Nat) : Bool :=
  second < secondsPerDay &&
    (nanosecond < nanosecondsPerSecond ||
      (nanosecond < 2 * nanosecondsPerSecond && second % 60 = 59))

structure Instant where
  date : Date
  second : Nat
  nanosecond : Nat
  valid : isTime second nanosecond = true
deriving DecidableEq

namespace Instant

/-- The first instant of 1970. -/
def epoch : Instant := ⟨Date.epoch, 0, 0, by decide⟩

instance : Inhabited Instant := ⟨epoch⟩

def ofParts? (date : Date) (second nanosecond : Nat) : Option Instant :=
  if valid : isTime second nanosecond = true then some ⟨date, second, nanosecond, valid⟩ else none

/-- The instant at which a clock ahead of universal time by the given seconds, less than a day,
shows the given local date and time. -/
def ofLocal? (date : Date) (second nanosecond : Nat) (ahead : Int) : Option Instant :=
  let shifted : Int := second - ahead
  if shifted < 0 then
    date.previous?.bind fun day => ofParts? day (shifted + secondsPerDay).toNat nanosecond
  else if (secondsPerDay : Int) ≤ shifted then
    date.next?.bind fun day => ofParts? day (shifted - secondsPerDay).toNat nanosecond
  else ofParts? date shifted.toNat nanosecond

/-- The whole seconds from an earlier instant to a later one. -/
def secondsSince (later earlier : Instant) : Int :=
  let nanoseconds (instant : Instant) : Int :=
    (instant.date.dayNumber * secondsPerDay + instant.second) * nanosecondsPerSecond +
      instant.nanosecond
  (nanoseconds later - nanoseconds earlier).tdiv nanosecondsPerSecond

end Instant

end ServerMonitor
