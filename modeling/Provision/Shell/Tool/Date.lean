import Provision.Instant
import Provision.Shell.Tool.Lines

set_option autoImplicit false

namespace Provision.Shell.Tool

def now : Int := 1594728000

def weekdays : List String := ["Thursday", "Friday", "Saturday", "Sunday", "Monday", "Tuesday", "Wednesday"]

def months : List String :=
  ["January", "February", "March", "April", "May", "June", "July", "August", "September", "October", "November", "December"]

def filled (fill : Option Char) (width n : Nat) : String :=
  let digits := toString n
  match fill with
  | some c => String.ofList (List.replicate (width - digits.length) c) ++ digits
  | none => digits

def dateField (seconds : Int) (nano : Nat) (flag : Option Char) (letter : Char) : Option String :=
  let (year, month, day) := Calendar.ofDayNumber (Calendar.epoch + seconds / 86400)
  let clock := (seconds % 86400).toNat
  let (hour, minute, second) := (clock / 3600, clock / 60 % 60, clock % 60)
  let weekday := (weekdays[((seconds / 86400) % 7).toNat]?).getD ""
  let fromSunday := (((seconds / 86400) + 4) % 7).toNat
  let month' := (months[month - 1]?).getD ""
  let short (s : String) : String := String.ofList (s.toList.take 3)
  let fill (usual : Char) : Option Char := match flag with
    | some '-' => none
    | some '_' => some ' '
    | some '0' => some '0'
    | _ => some usual
  let two (n : Nat) : String := filled (fill '0') 2 n
  let blank (n : Nat) : String := filled (fill ' ') 2 n
  let half := if hour % 12 = 0 then 12 else hour % 12
  let dayOfYear := (Calendar.dayNumber year month day - Calendar.dayNumber year 1 1 + 1).toNat
  let time := two hour ++ ":" ++ two minute ++ ":" ++ two second
  let cased (s : String) : String := if flag = some '^' then s.toUpper else s
  match letter with
  | 'Y' => some (filled (fill '0') 4 year.toNat)
  | 'C' => some (two (year.toNat / 100))
  | 'y' => some (two (year.toNat % 100))
  | 'm' => some (two month)
  | 'd' => some (two day)
  | 'e' => some (blank day)
  | 'H' => some (two hour)
  | 'I' => some (two half)
  | 'k' => some (blank hour)
  | 'l' => some (blank half)
  | 'M' => some (two minute)
  | 'S' => some (two second)
  | 'N' => some (String.ofList (Decimal.padded 9 nano))
  | 's' => some (toString seconds)
  | 'F' => some (toString year ++ "-" ++ two month ++ "-" ++ two day)
  | 'T' => some time
  | 'R' => some (two hour ++ ":" ++ two minute)
  | 'r' => some (two half ++ ":" ++ two minute ++ ":" ++ two second ++ (if hour < 12 then " AM" else " PM"))
  | 'D' | 'x' => some (two month ++ "/" ++ two day ++ "/" ++ two (year.toNat % 100))
  | 'X' => some time
  | 'c' => some (short weekday ++ " " ++ short month' ++ " " ++ blank day ++ " " ++ time ++ " " ++ toString year)
  | 'a' => some (cased (short weekday))
  | 'A' => some (cased weekday)
  | 'b' | 'h' => some (cased (short month'))
  | 'B' => some (cased month')
  | 'j' => some (filled (fill '0') 3 dayOfYear)
  | 'u' => some (toString (if fromSunday = 0 then 7 else fromSunday))
  | 'w' => some (toString fromSunday)
  | 'U' => some (two ((dayOfYear + 6 - fromSunday) / 7))
  | 'W' => some (two ((dayOfYear + 6 - (fromSunday + 6) % 7) / 7))
  | 'p' => some (if hour < 12 then "AM" else "PM")
  | 'P' => some (if hour < 12 then "am" else "pm")
  | 'Z' => some "UTC"
  | 'z' => some "+0000"
  | 'n' => some "\n"
  | 't' => some "\t"
  | '%' => some "%"
  | _ => none

def dateText (seconds : Int) (nano : Nat) : Nat → List Char → String
  | 0, _ => ""
  | _, [] => ""
  | fuel + 1, '%' :: c :: rest =>
    let (flag, letter, after) : Option Char × Char × List Char :=
      if "-_0^#".toList.contains c then (some c, rest.headD '%', rest.drop 1) else (none, c, rest)
    if letter = ':' && after.head? = some 'z' then "+00:00" ++ dateText seconds nano fuel (after.drop 1)
    else
      let text := (dateField seconds nano flag letter).getD (String.ofList ('%' :: c :: (if flag.isSome then [letter] else [])))
      text ++ dateText seconds nano fuel after
  | fuel + 1, c :: rest => String.singleton c ++ dateText seconds nano fuel rest

def clock? (s : String) : Option Nat :=
  match (s.splitOn ":").map natural? with
  | [some h, some m] => if h < 24 && m < 60 then some (h * 3600 + m * 60) else none
  | [some h, some m, some n] => if h < 24 && m < 60 && n < 61 then some (h * 3600 + m * 60 + n) else none
  | _ => none

def dateOf? (s : String) : Option (Int × Nat) :=
  let day? (t : String) : Option Int :=
    match (t.splitOn "-").map natural? with
    | [some y, some m, some d] =>
      if 1 ≤ m && m ≤ 12 && 1 ≤ d && d ≤ Calendar.daysIn y m then some (Calendar.dayNumber y m d - Calendar.epoch) else none
    | _ => none
  if s.startsWith "@" then
    (decimal? (String.ofList (s.toList.drop 1))).map fun (n, places) =>
      let unit : Int := Nat.pow 10 places
      (n / unit, (n % unit * Nat.pow 10 (9 - min places 9)).toNat)
  else if s = "now" || s.isEmpty then some (now, 0)
  else
    let bare := String.ofList (s.toList.filter (· ≠ 'Z'))
    match ((bare.replace "T" " ").splitOn " ").filter fun w => w ≠ "" && w ≠ "UTC" && w ≠ "+0000" with
    | [day] => (day? day).map fun n => (n * 86400, 0)
    | [day, time] => (day? day).bind fun n => (clock? time).map fun c => (n * 86400 + Int.ofNat c, 0)
    | _ => none

def date : Tool := withOptions "date"
    { flags := "uR", valued := "drs", words := ["utc", "universal", "rfc-email"]
      valuedWords := ["date", "reference", "iso-8601"] } (fun g d =>
  let usual := "%a %b %e %H:%M:%S %Z %Y"
  let given := (g.value? ["d", "date"]).getD "now"
  match g.operands.find? fun a => !a.startsWith "+", dateOf? given with
  | some bad, _ => (1, d.complain ("date: invalid date " ++ quoted bad))
  | none, none => (1, d.complain ("date: invalid date " ++ quoted given))
  | none, some (seconds, nano) =>
    let format := match g.operands with
      | a :: _ => a.toList.drop 1
      | [] => (if g.has ["R", "rfc-email"] then "%a, %d %b %Y %H:%M:%S %z" else usual).toList
    (0, d.say (dateText seconds nano (format.length + 1) format ++ "\n")))

end Provision.Shell.Tool
