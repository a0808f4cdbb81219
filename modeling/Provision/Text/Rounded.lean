import Provision.Text.Decimal

set_option autoImplicit false

namespace Provision.Rounded

/-- A whole number of halves, quarters, … or a value without a place among the numbers. -/
inductive Value where
  | exact (isNegative : Bool) (num den : Nat)
  | infinite (isNegative : Bool)
  | none_
  deriving DecidableEq, Repr

def nearest (n d : Nat) : Nat :=
  let q := n / d
  let r := n % d
  if 2 * r < d then q else if 2 * r > d then q + 1 else q + q % 2

def Value.ofFloat (f : Float) : Value :=
  let bits := f.toBits.toNat
  let isNegative := bits >>> 63 = 1
  let exponent := (bits >>> 52) % (1 <<< 11)
  let low := bits % (1 <<< 52)
  if exponent = 2047 then (if low = 0 then .infinite isNegative else .none_)
  else
    let m := if exponent = 0 then low else low + (1 <<< 52)
    let e := if exponent = 0 then 1 else exponent
    if e ≥ 1075 then .exact isNegative (m <<< (e - 1075)) 1 else .exact isNegative m (1 <<< (1075 - e))

def pointed (keepPoint : Bool) (places : Nat) (digits : List Char) : List Char :=
  let whole := digits.take (digits.length - places)
  whole ++ (if places = 0 then (if keepPoint then ['.'] else []) else '.' :: digits.drop whole.length)

def fixed (keepPoint : Bool) (places num den : Nat) : List Char :=
  pointed keepPoint places (Decimal.padded (places + 1) (nearest (num * Nat.pow 10 places) den))

def magnitude (num den : Nat) : Int :=
  if num ≥ den then Int.ofNat ((Decimal.write (num / den)).length - 1)
  else -Int.ofNat ((Decimal.write ((den + num - 1) / num)).length - (if den % num = 0 && (Decimal.write (den / num)).tail.all (· = '0')
    && (Decimal.write (den / num)).head? = some '1' then 1 else 0))

/-- The first `n` digits of a fraction that is not zero, rounded, and the power of ten of the first. -/
def leading (n num den : Nat) : List Char × Int :=
  let scaled (e : Int) : Nat :=
    let shift := Int.ofNat n - 1 - e
    if shift ≥ 0 then nearest (num * Nat.pow 10 shift.toNat) den else nearest num (den * Nat.pow 10 (-shift).toNat)
  let e := magnitude num den
  let digits := Decimal.write (scaled e)
  if digits.length = n then (digits, e)
  else if digits.length > n then (Decimal.write (scaled (e + 1)), e + 1)
  else (Decimal.write (scaled (e - 1)), e - 1)

def exponentText (capital : Bool) (e : Int) : List Char :=
  (if capital then 'E' else 'e') :: (if e < 0 then '-' else '+') :: Decimal.padded 2 e.natAbs

def scientific (keepPoint capital : Bool) (places num den : Nat) : List Char :=
  if num = 0 then pointed keepPoint places (List.replicate (places + 1) '0') ++ exponentText capital 0
  else
    let (digits, e) := leading (places + 1) num den
    pointed keepPoint places digits ++ exponentText capital e

def trimmed (cs : List Char) : List Char :=
  if cs.contains '.' then
    let cs := (cs.reverse.dropWhile (· = '0')).reverse
    if cs.getLast? = some '.' then cs.dropLast else cs
  else cs

def shorter (keepZeros capital : Bool) (digits num den : Nat) : List Char :=
  let p := max 1 digits
  let e := if num = 0 then 0 else (leading p num den).2
  let cut (cs : List Char) : List Char := if keepZeros then cs else trimmed cs
  if e < -4 || e ≥ Int.ofNat p then
    let text := scientific keepZeros capital (p - 1) num den
    let tail := text.dropWhile fun c => c ≠ 'e' && c ≠ 'E'
    cut (text.take (text.length - tail.length)) ++ tail
  else cut (fixed keepZeros (Int.ofNat p - 1 - e).toNat num den)

def read? (cs : List Char) : Option (Float × List Char) :=
  let (isNegative, body) := match cs with
    | '-' :: rest => (true, rest)
    | '+' :: rest => (false, rest)
    | _ => (false, cs)
  let signed (f : Float) : Float := if isNegative then -f else f
  let lower := (String.ofList (body.take 3)).toLower
  let hexValue (c : Char) : Nat := if c.isDigit then c.toNat - 48 else c.toLower.toNat - 87
  let isHex (c : Char) : Bool := c.isDigit || ('a' ≤ c.toLower && c.toLower ≤ 'f')
  if lower = "inf" then some (signed (1.0 / 0.0), if (String.ofList (body.take 8)).toLower = "infinity" then body.drop 8 else body.drop 3)
  else if lower = "nan" then some (0.0 / 0.0, body.drop 3)
  else match body with
  | '0' :: x :: rest =>
    if (x = 'x' || x = 'X') && rest.head?.any isHex then
      let ds := rest.takeWhile isHex
      some (signed (Float.ofNat (ds.foldl (fun n c => n * 16 + hexValue c) 0)), rest.drop ds.length)
    else decimal signed body
  | _ => decimal signed body
where
  decimal (signed : Float → Float) (body : List Char) : Option (Float × List Char) :=
    let whole := body.takeWhile Char.isDigit
    let rest := body.drop whole.length
    let (part, rest) := match rest with
      | '.' :: more => (more.takeWhile Char.isDigit, more.dropWhile Char.isDigit)
      | _ => ([], rest)
    if whole.isEmpty && part.isEmpty then none
    else
      let (e, rest) : Int × List Char := match rest with
        | c :: more =>
          if c = 'e' || c = 'E' then
            let (sign, ds) : Int × List Char := match more with
              | '-' :: ds => (-1, ds)
              | '+' :: ds => (1, ds)
              | _ => (1, more)
            let digits := ds.takeWhile Char.isDigit
            if digits.isEmpty then (0, rest) else (sign * Decimal.value digits, ds.drop digits.length)
          else (0, rest)
        | [] => (0, rest)
      let e := e - Int.ofNat part.length
      let m := Decimal.value (whole ++ part)
      some (signed (if m = 0 then 0.0 else if e > 400 then 1.0 / 0.0 else if e < -1200 then 0.0
        else Float.ofScientific m (e < 0) e.natAbs), rest)

end Provision.Rounded
