import Provision.Json

set_option autoImplicit false

namespace Provision.Json

def isGap (c : Char) : Bool := c = ' ' || c = '\n' || c = '\t' || c = '\r'

def skipGaps (cs : List Char) : List Char := cs.dropWhile isGap

/-- A part of a quoted text: a character as it stands, or a 16-bit unit given by an escape. -/
inductive Unit16 where
  | char (c : Char)
  | unit (n : Nat)
  deriving DecidableEq, Repr

def hexValue? (c : Char) : Option Nat :=
  if '0' ≤ c && c ≤ '9' then some (c.toNat - 48)
  else if 'a' ≤ c && c ≤ 'f' then some (c.toNat - 87)
  else if 'A' ≤ c && c ≤ 'F' then some (c.toNat - 55)
  else none

def escape? : Char → Option Char
  | '"' => some '"'
  | '\\' => some '\\'
  | '/' => some '/'
  | 'b' => some (Char.ofNat 8)
  | 'f' => some (Char.ofNat 12)
  | 'n' => some '\n'
  | 'r' => some '\r'
  | 't' => some '\t'
  | _ => none

def units : List Char → Option (List Unit16 × List Char)
  | [] => none
  | '"' :: rest => some ([], rest)
  | '\\' :: 'u' :: a :: b :: c :: d :: rest => do
    let n := (← hexValue? a) * 4096 + (← hexValue? b) * 256 + (← hexValue? c) * 16 + (← hexValue? d)
    let (us, after) ← units rest
    return (.unit n :: us, after)
  | '\\' :: e :: rest => do
    let c ← escape? e
    let (us, after) ← units rest
    return (.char c :: us, after)
  | c :: rest =>
    if c.toNat < 32 || c = '\\' then none
    else do
      let (us, after) ← units rest
      return (.char c :: us, after)

/-- Text of the units, if every half of a surrogate pair stands with its other half. -/
def paired : List Unit16 → Option (List Char)
  | [] => some []
  | .char c :: rest => (paired rest).map (c :: ·)
  | .unit high :: .unit low :: rest =>
    if 0xD800 ≤ high && high < 0xDC00 then
      if 0xDC00 ≤ low && low < 0xE000 then
        (paired rest).map (Char.ofNat (0x10000 + (high - 0xD800) * 1024 + (low - 0xDC00)) :: ·)
      else none
    else if 0xDC00 ≤ high && high < 0xE000 then none
    else (paired (.unit low :: rest)).map (Char.ofNat high :: ·)
  | .unit n :: rest =>
    if 0xD800 ≤ n && n < 0xE000 then none else (paired rest).map (Char.ofNat n :: ·)

def bytesOf (n : Nat) : List UInt8 := (String.singleton (Char.ofNat n)).toUTF8.toList

def joinedBytes : List Unit16 → Option (List UInt8)
  | [] => some []
  | .char c :: rest => (joinedBytes rest).map (c.toNat.toUInt8 :: ·)
  | .unit high :: .unit low :: rest =>
    if 0xD800 ≤ high && high < 0xDC00 then
      if 0xDC00 ≤ low && low < 0xE000 then
        (joinedBytes rest).map (bytesOf (0x10000 + (high - 0xD800) * 1024 + (low - 0xDC00)) ++ ·)
      else none
    else if 0xDC00 ≤ high && high < 0xE000 then none
    else (joinedBytes (.unit low :: rest)).map (bytesOf high ++ ·)
  | .unit n :: rest =>
    if 0xD800 ≤ n && n < 0xE000 then none else (joinedBytes rest).map (bytesOf n ++ ·)

def decoded (us : List Unit16) : Option (List Char) :=
  (joinedBytes us).bind fun bytes => (String.fromUTF8? ⟨bytes.toArray⟩).map String.toList

def someDigits (cs : List Char) : Option (List Char × List Char) :=
  let ds := cs.takeWhile Decimal.isDigit
  if ds.isEmpty then none else some (ds, cs.dropWhile Decimal.isDigit)

def whole : List Char → Option (List Char × List Char)
  | '0' :: rest => some (['0'], rest)
  | cs => someDigits cs

def fraction : List Char → Option (List Char × List Char)
  | '.' :: rest => (someDigits rest).map fun r => ('.' :: r.1, r.2)
  | cs => some ([], cs)

def exponent : List Char → Option (List Char × List Char)
  | c :: rest =>
    if c = 'e' || c = 'E' then
      match rest with
      | '+' :: rest => (someDigits rest).map fun r => (c :: '+' :: r.1, r.2)
      | '-' :: rest => (someDigits rest).map fun r => (c :: '-' :: r.1, r.2)
      | _ => (someDigits rest).map fun r => (c :: r.1, r.2)
    else some ([], c :: rest)
  | [] => some ([], [])

def numeral (cs : List Char) : Option (List Char × List Char) := do
  let (sign, cs) : List Char × List Char := match cs with
    | '-' :: rest => (['-'], rest)
    | _ => ([], cs)
  let (w, cs) ← whole cs
  let (f, cs) ← fraction cs
  let (e, cs) ← exponent cs
  return (sign ++ w ++ f ++ e, cs)

/-! The values, with a function that gives the text of units. -/

mutual

def valueFrom (text : List Unit16 → Option (List Char)) : Nat → List Char → Option (Json × List Char)
  | 0, _ => none
  | fuel + 1, cs =>
    match skipGaps cs with
    | 'n' :: 'u' :: 'l' :: 'l' :: rest => some (.null, rest)
    | 't' :: 'r' :: 'u' :: 'e' :: rest => some (.bool true, rest)
    | 'f' :: 'a' :: 'l' :: 's' :: 'e' :: rest => some (.bool false, rest)
    | '"' :: rest => do
      let (us, after) ← units rest
      return (.string (text us), after)
    | '[' :: rest =>
      match skipGaps rest with
      | ']' :: after => some (.array [], after)
      | rest => do
        let (items, after) ← itemsFrom text fuel rest
        return (.array items, after)
    | '\x7b' :: rest =>
      match skipGaps rest with
      | '\x7d' :: after => some (.object [], after)
      | rest => do
        let (ms, after) ← membersFrom text fuel rest
        return (.object ms, after)
    | rest => do
      let (n, after) ← numeral rest
      return (.number n, after)

def itemsFrom (text : List Unit16 → Option (List Char)) : Nat → List Char → Option (List Json × List Char)
  | 0, _ => none
  | fuel + 1, cs => do
    let (j, rest) ← valueFrom text fuel cs
    match skipGaps rest with
    | ']' :: after => return ([j], after)
    | ',' :: more =>
      let (js, after) ← itemsFrom text fuel more
      return (j :: js, after)
    | _ => none

def membersFrom (text : List Unit16 → Option (List Char)) : Nat → List Char → Option (List (Option (List Char) × Json) × List Char)
  | 0, _ => none
  | fuel + 1, cs =>
    match skipGaps cs with
    | '"' :: rest => do
      let (us, rest) ← units rest
      match skipGaps rest with
      | ':' :: rest =>
        let (j, rest) ← valueFrom text fuel rest
        match skipGaps rest with
        | '\x7d' :: after => return ([(text us, j)], after)
        | ',' :: more =>
          let (ms, after) ← membersFrom text fuel more
          return ((text us, j) :: ms, after)
        | _ => none
      | _ => none
    | _ => none

end

def wholeFrom? (text : List Unit16 → Option (List Char)) (cs : List Char) : Option Json := do
  let (j, rest) ← valueFrom text (2 * cs.length + 2) cs
  if skipGaps rest = [] then some j else none

def read? (cs : List Char) : Option Json := wholeFrom? paired cs

/-- Reads one value from bytes. Those outside of the texts that are asked for need not make characters. -/
def readBytes? (data : ByteArray) : Option Json :=
  wholeFrom? decoded (data.toList.map fun b => Char.ofNat b.toNat)

end Provision.Json
