import Provision.Instant
import Provision.Text.Blank

set_option autoImplicit false

namespace Provision.Instant

def writeYear (year : Int) : List Char :=
  if 0 ≤ year && year ≤ 9999 then Decimal.padded 4 year.toNat
  else (if year < 0 then '-' else '+') :: Decimal.padded 4 year.natAbs

/-- The fraction of a second in the fewest groups of three digits. -/
def writeFraction (nano : Nat) : List Char :=
  if nano = 0 then []
  else if nano % 1000000 = 0 then '.' :: Decimal.padded 3 (nano / 1000000)
  else if nano % 1000 = 0 then '.' :: Decimal.padded 6 (nano / 1000)
  else '.' :: Decimal.padded 9 nano

def write (t : Instant) : List Char :=
  let leap := t.nano / 1000000000
  writeYear t.year ++ '-' :: Decimal.padded 2 t.month ++ '-' :: Decimal.padded 2 t.day
    ++ 'T' :: Decimal.padded 2 t.hour ++ ':' :: Decimal.padded 2 t.minute
    ++ ':' :: Decimal.padded 2 (t.second + leap) ++ writeFraction (t.nano % 1000000000) ++ ['Z']

def text (t : Instant) : String := String.ofList t.write

def skipBlanks (cs : List Char) : List Char := cs.dropWhile Blank.isBlank

def number (width : Nat) (cs : List Char) : Option (Nat × List Char) :=
  let ds := (cs.take width).takeWhile Decimal.isDigit
  if ds.isEmpty then none else some (Decimal.value ds, cs.drop ds.length)

def spaced (width : Nat) (cs : List Char) : Option (Nat × List Char) := number width (skipBlanks cs)

/-- A year; with a sign it may have any number of digits. -/
def readYear (cs : List Char) : Option (Int × List Char) :=
  match skipBlanks cs with
  | '-' :: rest => (number rest.length rest).map fun r => (-r.1, r.2)
  | '+' :: rest => (number rest.length rest).map fun r => (r.1, r.2)
  | rest => (number 4 rest).map fun r => (r.1, r.2)

def mark (c : Char) (cs : List Char) : Option (List Char) :=
  match skipBlanks cs with
  | d :: rest => if d = c then some rest else none
  | [] => none

def between : List Char → Option (List Char)
  | c :: rest =>
    if c = 'T' || c = 't' || c = ' ' then some rest else none
  | [] => none

/-- Nanoseconds from the digits behind a point; those after the ninth are cut. -/
def readFraction : List Char → Option (Nat × List Char)
  | '.' :: rest =>
    let ds := rest.takeWhile Decimal.isDigit
    if ds.isEmpty then none
    else
      let used := ds.take 9
      some (Decimal.value used * Nat.pow 10 (9 - used.length), rest.drop ds.length)
  | cs => some (0, cs)

def twoDigits : List Char → Option (Nat × List Char)
  | a :: b :: rest =>
    if Decimal.isDigit a && Decimal.isDigit b then some (Decimal.value [a, b], rest) else none
  | _ => none

def hoursMinutes (cs : List Char) : Option (Int × List Char) := do
  let (h, cs) ← twoDigits cs
  let (m, cs) ← twoDigits (cs.dropWhile fun c => c = ':' || Blank.isBlank c)
  if h < 24 && m < 60 then some (((h * 60 + m : Nat) : Int), cs) else none

def readOffset (cs : List Char) : Option (Int × List Char) :=
  if (cs.take 3).map Char.toUpper = ['U', 'T', 'C'] then some (0, cs.drop 3)
  else match cs with
    | [] => none
    | c :: rest =>
      if c = 'Z' || c = 'z' then some (0, rest)
      else if c = '+' then hoursMinutes rest
      else if c = '-' || c = Char.ofNat 0x2212 then (hoursMinutes rest).map fun r => (-r.1, r.2)
      else none

def read? (cs : List Char) : Option Instant := do
  let (year, cs) ← readYear cs
  let cs ← mark '-' cs
  let (month, cs) ← spaced 2 cs
  let cs ← mark '-' cs
  let (day, cs) ← spaced 2 cs
  let cs ← between cs
  let (hour, cs) ← spaced 2 cs
  let cs ← mark ':' cs
  let (minute, cs) ← spaced 2 cs
  let cs ← mark ':' cs
  let (second, cs) ← spaced 2 cs
  let (nano, cs) ← readFraction cs
  let (offset, cs) ← readOffset (skipBlanks cs)
  if skipBlanks cs ≠ [] then none
  else
    let (second, nano) := if second = 60 then (59, nano + 1000000000) else (second, nano)
    let t ← of? year month day hour minute second nano
    ofLocal? offset t

def ofText? (s : String) : Option Instant := read? s.toList

end Provision.Instant
