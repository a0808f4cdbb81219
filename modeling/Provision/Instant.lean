import Provision.Text.Decimal

/-!
Points in time by the calendar and the clock of UTC. A second that the clock inserts is kept as the
second before it, with nanoseconds of a thousand million and more.
-/

set_option autoImplicit false

namespace Provision

namespace Calendar

def isLeap (year : Int) : Bool := year % 4 = 0 && (year % 100 ≠ 0 || year % 400 = 0)

def daysIn (year : Int) : Nat → Nat
  | 2 => if isLeap year then 29 else 28
  | 4 | 6 | 9 | 11 => 30
  | _ => 31

def firstYear : Int := -262143
def lastYear : Int := 262142

/-- Days from the first of March of year 0 to the first of March of a year. -/
def daysToMarch (year : Int) : Int := 365 * year + year / 4 - year / 100 + year / 400

/-- Days from the first of March to the first of a month, January and February following December. -/
def daysToMonth (month : Nat) : Int := ((153 * ((month + 9) % 12) + 2) / 5 : Nat)

/-- The number of a day, counted from the first of March of year 0. -/
def dayNumber (year : Int) (month day : Nat) : Int :=
  daysToMarch (if month ≤ 2 then year - 1 else year) + daysToMonth month + day - 1

/-- The date of a day by its number: eras of 400 years, then the year in the era, then the day in it. -/
def ofDayNumber (n : Int) : Int × Nat × Nat :=
  let era := n / 146097
  let d := (n % 146097).toNat
  let y := (d - d / 1460 + d / 36524 - d / 146096) / 365
  let rest := d - (365 * y + y / 4 - y / 100)
  let m := (5 * rest + 2) / 153
  let month := if m < 10 then m + 3 else m - 9
  (era * 400 + y + (if month ≤ 2 then 1 else 0), month, rest - (153 * m + 2) / 5 + 1)

def epoch : Int := dayNumber 1970 1 1

end Calendar

/-- The parts of a point in time lie in their ranges; only the last second of a minute can be followed
by an inserted one. -/
structure Instant.Valid (year : Int) (month day hour minute second nano : Nat) : Prop where
  years : Calendar.firstYear ≤ year ∧ year ≤ Calendar.lastYear
  months : 1 ≤ month ∧ month ≤ 12
  days : 1 ≤ day ∧ day ≤ Calendar.daysIn year month
  hours : hour < 24
  minutes : minute < 60
  seconds : second < 60
  nanos : nano < 1000000000 ∨ (second = 59 ∧ nano < 2000000000)

instance (year : Int) (month day hour minute second nano : Nat) :
    Decidable (Instant.Valid year month day hour minute second nano) :=
  decidable_of_iff
    ((Calendar.firstYear ≤ year ∧ year ≤ Calendar.lastYear) ∧ (1 ≤ month ∧ month ≤ 12)
      ∧ (1 ≤ day ∧ day ≤ Calendar.daysIn year month) ∧ hour < 24 ∧ minute < 60 ∧ second < 60
      ∧ (nano < 1000000000 ∨ (second = 59 ∧ nano < 2000000000)))
    ⟨fun ⟨a, b, c, d, e, f, g⟩ => ⟨a, b, c, d, e, f, g⟩, fun ⟨a, b, c, d, e, f, g⟩ => ⟨a, b, c, d, e, f, g⟩⟩

structure Instant where
  year : Int
  month : Nat
  day : Nat
  hour : Nat
  minute : Nat
  second : Nat
  nano : Nat
  valid : Instant.Valid year month day hour minute second nano
  deriving DecidableEq

namespace Instant

def of? (year : Int) (month day hour minute second nano : Nat) : Option Instant :=
  if h : Valid year month day hour minute second nano then
    some ⟨year, month, day, hour, minute, second, nano, h⟩
  else none

/-- The point in time so many nanoseconds after the beginning of 1970. -/
def ofNanos? (n : Int) : Option Instant :=
  let seconds := n / 1000000000
  let (year, month, day) := Calendar.ofDayNumber (Calendar.epoch + seconds / 86400)
  let clock := (seconds % 86400).toNat
  of? year month day (clock / 3600) (clock / 60 % 60) (clock % 60) (n % 1000000000).toNat

def dayBefore (year : Int) (month day : Nat) : Int × Nat × Nat :=
  if 1 < day then (year, month, day - 1)
  else if 1 < month then (year, month - 1, Calendar.daysIn year (month - 1))
  else (year - 1, 12, 31)

def dayAfter (year : Int) (month day : Nat) : Int × Nat × Nat :=
  if day < Calendar.daysIn year month then (year, month, day + 1)
  else if month < 12 then (year, month + 1, 1)
  else (year + 1, 1, 1)

/-- The point in time at which a clock that is `minutes` ahead shows a date and time. -/
def ofLocal? (minutes : Int) (t : Instant) : Option Instant :=
  let clock : Int := t.hour * 60 + t.minute - minutes
  let (year, month, day) :=
    if clock < 0 then dayBefore t.year t.month t.day
    else if clock < 1440 then (t.year, t.month, t.day)
    else dayAfter t.year t.month t.day
  let clock := (clock % 1440).toNat
  of? year month day (clock / 60) (clock % 60) t.second t.nano

def clock (t : Instant) : Nat := t.hour * 3600 + t.minute * 60 + t.second

def dayNumber (t : Instant) : Int := Calendar.dayNumber t.year t.month t.day

/-- Nanoseconds since a fixed day, inserted seconds not counted. -/
def nanos (t : Instant) : Int := (t.dayNumber * 86400 + t.clock) * 1000000000 + t.nano

/-- Whole seconds that an inserted second adds to the time from `b` to `a`, by the time of day. -/
def inserted (a b : Instant) : Int :=
  if a.clock > b.clock then (if b.nano ≥ 1000000000 then 1 else 0)
  else if a.clock < b.clock then (if a.nano ≥ 1000000000 then -1 else 0)
  else 0

def since (a b : Instant) : Int := a.nanos - b.nanos + inserted a b * 1000000000

end Instant

end Provision
