import Provision.Toml
import Provision.Instant

set_option autoImplicit false

namespace Provision.Toml

/-- Digits of a base with single underscores between them; none if it is anything else. -/
def digits? (isDigit : Char → Bool) : List Char → Option (List Char)
  | [] => none
  | [c] => if isDigit c then some [c] else none
  | c :: '_' :: rest => if isDigit c then (digits? isDigit rest).map (c :: ·) else none
  | c :: rest => if isDigit c then (digits? isDigit rest).map (c :: ·) else none

def digitOf (c : Char) : Nat :=
  if Decimal.isDigit c then c.toNat - 48 else if c.isLower then c.toNat - 87 else c.toNat - 55

def valueIn (base : Nat) (cs : List Char) : Nat := cs.foldl (fun n c => n * base + digitOf c) 0

def whole? (cs : List Char) : Option (List Char) := do
  let ds ← digits? Decimal.isDigit cs
  match ds with
  | '0' :: _ :: _ => none
  | _ => some ds

def signed : List Char → Bool × List Char
  | '-' :: cs => (true, cs)
  | '+' :: cs => (false, cs)
  | cs => (false, cs)

def integer? (cs : List Char) : Option Int :=
  let isHex (c : Char) : Bool := Decimal.isDigit c || ('a' ≤ c && c ≤ 'f') || ('A' ≤ c && c ≤ 'F')
  match cs with
  | '0' :: 'x' :: rest => (digits? isHex rest).map fun ds => (valueIn 16 ds : Int)
  | '0' :: 'o' :: rest => (digits? (fun c => '0' ≤ c && c ≤ '7') rest).map fun ds => (valueIn 8 ds : Int)
  | '0' :: 'b' :: rest => (digits? (fun c => c = '0' || c = '1') rest).map fun ds => (valueIn 2 ds : Int)
  | _ =>
    let (negative, rest) := signed cs
    (whole? rest).map fun ds => if negative then -(Decimal.value ds : Int) else Decimal.value ds

def fits (ds : List Char) (exponent : Int) : Bool :=
  let m := Decimal.value ds
  let size : Int := (Decimal.write m).length + exponent
  if m = 0 || size < 300 then true
  else if size > 320 then false
  else if 0 ≤ exponent then m * Nat.pow 10 exponent.toNat < Nat.pow 2 1024 - Nat.pow 2 970
  else m < (Nat.pow 2 1024 - Nat.pow 2 970) * Nat.pow 10 (-exponent).toNat

def exponent? (cs : List Char) : Option Int := do
  let (negative, rest) := signed cs
  let ds ← digits? Decimal.isDigit rest
  return if negative then -(Decimal.value ds : Int) else Decimal.value ds

def float? (cs : List Char) : Option Toml :=
  let rest := (signed cs).2
  if rest = ['i', 'n', 'f'] || rest = ['n', 'a', 'n'] then some (.float true)
  else do
    let isE (c : Char) : Bool := c = 'e' || c = 'E'
    let mantissa := rest.takeWhile fun c => !isE c
    let exponent ← match rest.dropWhile fun c => !isE c with
      | [] => some 0
      | _ :: e => exponent? e
    let before ← whole? (mantissa.takeWhile (· ≠ '.'))
    let after ← match mantissa.dropWhile (· ≠ '.') with
      | [] => some []
      | _ :: f => digits? Decimal.isDigit f
    if after.isEmpty && !rest.any isE then none
    else return .float (fits (before ++ after) (exponent - after.length))

def fixed (width : Nat) (cs : List Char) : Option (Nat × List Char) :=
  let ds := cs.take width
  if ds.length = width && ds.all Decimal.isDigit then some (Decimal.value ds, cs.drop width) else none

def date? (cs : List Char) : Option (List Char) := do
  let (year, cs) ← fixed 4 cs
  match cs with
  | '-' :: cs =>
    let (month, cs) ← fixed 2 cs
    match cs with
    | '-' :: cs =>
      let (day, cs) ← fixed 2 cs
      if 1 ≤ month && month ≤ 12 && 1 ≤ day && day ≤ Calendar.daysIn year month then some cs else none
    | _ => none
  | _ => none

def time? (cs : List Char) : Option (List Char) := do
  let (hour, cs) ← fixed 2 cs
  match cs with
  | ':' :: cs =>
    let (minute, cs) ← fixed 2 cs
    if hour > 23 || minute > 59 then none
    else match cs with
      | ':' :: cs =>
        let (second, cs) ← fixed 2 cs
        if second > 60 then none
        else match cs with
          | '.' :: rest =>
            let ds := rest.takeWhile Decimal.isDigit
            if ds.isEmpty then none else some (rest.drop ds.length)
          | _ => some cs
      | _ => some cs
  | _ => none

def offset? : List Char → Option (List Char)
  | [] => some []
  | 'Z' :: rest => some rest
  | 'z' :: rest => some rest
  | c :: rest =>
    if c = '+' || c = '-' then do
      let (hours, cs) ← fixed 2 rest
      match cs with
      | ':' :: cs =>
        let (minutes, cs) ← fixed 2 cs
        if hours * 60 + minutes ≤ 1440 then some cs else none
      | _ => none
    else none

def moment? (cs : List Char) : Option Toml := do
  let rest ← match date? cs with
    | some [] => some []
    | some (c :: time) => if c = 'T' || c = 't' || c = ' ' then time? time >>= offset? else none
    | none => time? cs
  if rest.isEmpty then some .moment else none

def scalar? (cs : List Char) : Option Toml :=
  if cs = "true".toList then some (.bool true)
  else if cs = "false".toList then some (.bool false)
  else match moment? cs with
    | some t => some t
    | none => match integer? cs with
      | some n => some (.integer n)
      | none => float? cs

end Provision.Toml
