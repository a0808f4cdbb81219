import Provision.Shell.Tool.Lines
import Provision.Text.Regex.Reader

set_option autoImplicit false

namespace Provision.Shell.Tool

abbrev Reach := Nat × Option Nat

def reaches (what unit : String) (text : String) : Except String (List Reach) :=
  (text.splitOn ",").mapM fun part => do
    let number (s : String) : Except String Nat :=
      match natural? s with
      | some 0 => throw (what ++ " are numbered from 1")
      | some n => return n
      | none => throw ("invalid " ++ unit ++ " " ++ quoted part)
    match part.splitOn "-" with
    | [n] => if n.isEmpty then throw (what ++ " are numbered from 1") else return (← number n, some (← number n))
    | [a, b] =>
      if a.isEmpty && b.isEmpty then throw "invalid range with no endpoint: -"
      let low ← if a.isEmpty then pure 1 else number a
      if b.isEmpty then return (low, none)
      let high ← number b
      if high < low then throw "invalid decreasing range"
      return (low, some high)
    | _ => throw ("invalid " ++ unit ++ " " ++ quoted part)

def isWithin (rs : List Reach) (n : Nat) : Bool := rs.any fun r => r.1 ≤ n && r.2.all (n ≤ ·)

def divided (mark : UInt8) : List UInt8 → List (List UInt8)
  | [] => [[]]
  | b :: rest =>
    match divided mark rest with
    | [] => [[b]]
    | part :: more => if b = mark then [] :: part :: more else (b :: part) :: more

def taken (isTaken : Nat → Bool) : Nat → Bool → List UInt8 → List (List UInt8)
  | _, _, [] => []
  | n, joins, b :: rest =>
    if isTaken n then
      match joins, taken isTaken (n + 1) true rest with
      | _, part :: more => if isTaken (n + 1) && !rest.isEmpty then (b :: part) :: more else [b] :: part :: more
      | _, [] => [[b]]
    else taken isTaken (n + 1) false rest

def cut : Tool := withOptions "cut"
  { flags := "snz", valued := "bcfd", words := ["complement", "only-delimited"]
    valuedWords := ["output-delimiter", "fields", "bytes", "characters", "delimiter"] } fun g d =>
  let lists := g.options.filter fun o => ["b", "c", "f", "fields", "bytes", "characters"].contains o.1
  let delimiter := g.value? ["d", "delimiter"]
  match lists with
  | [] => misused "cut" "you must specify a list of bytes, characters, or fields" d
  | _ :: _ :: _ => misused "cut" "only one list may be specified" d
  | [(kind, text)] =>
    let byFields := kind = "f" || kind = "fields"
    if delimiter.isSome && !byFields then misused "cut" "an input delimiter may be specified only when operating on fields" d
    else if g.has ["s", "only-delimited"] && !byFields then
      misused "cut" "suppressing non-delimited lines makes sense\n\tonly when operating on fields" d
    else if delimiter.any fun t => t.utf8ByteSize > 1 then misused "cut" "the delimiter must be a single character" d
    else match (if byFields then reaches "fields" "field value" text
        else reaches "byte/character positions" "byte or character position" text) with
      | .error e => misused "cut" e d
      | .ok rs =>
        let mark := (delimiter.getD "\t").toUTF8.toList.headD 0
        let isTaken (n : Nat) : Bool := isWithin rs n != g.has ["complement"]
        let joint := g.value? ["output-delimiter"]
        let fieldsOf (l : List UInt8) : Option (List UInt8) :=
          let parts := divided mark l
          if parts.length = 1 then (if g.has ["s", "only-delimited"] then none else some l)
          else
            let kept := (List.range parts.length).filterMap fun i => if isTaken (i + 1) then parts[i]? else none
            some (((joint.map fun j => j.toUTF8.toList).getD [mark]).intercalate kept)
        let bytesOf (l : List UInt8) : Option (List UInt8) :=
          some (((joint.getD "").toUTF8.toList).intercalate (taken isTaken 1 false l))
        filter ("cut: " ++ ·) (fun data => ofLines ((linesOf data.toList).filterMap fun l =>
          ((if byFields then fieldsOf else bytesOf) (bare l)).map (· ++ [newline]))) g.operands d

/-! Sets of bytes. -/

def bytesOf (s : String) : List Char := s.toUTF8.toList.map fun b => Char.ofNat b.toNat

inductive SetItem where
  | bytes (bs : List Char)
  /-- A class that keeps its size, so that upper and lower case stand against each other. -/
  | named (name : String) (bs : List Char)
  | same (c : Char)
  /-- A character some times over; none stands for as often as needed. -/
  | times (c : Char) (n : Option Nat)

def setChar (cs : List Char) : Option (Char × List Char) :=
  match cs with
  | '\\' :: c :: rest =>
    let isOctal (c : Char) : Bool := '0' ≤ c && c ≤ '7'
    if isOctal c then
      let digits := ((c :: rest).take 3).takeWhile isOctal
      some (Char.ofNat (digits.foldl (fun n c => n * 8 + (c.toNat - 48)) 0 % 256), (c :: rest).drop digits.length)
    else
      let known := [('n', 10), ('t', 9), ('r', 13), ('a', 7), ('b', 8), ('f', 12), ('v', 11)]
      some (Char.ofNat ((known.lookup c).getD c.toNat), rest)
  | c :: rest => some (c, rest)
  | [] => none

def between (a b : Char) : List Char := (List.range (b.toNat + 1 - a.toNat)).map fun i => Char.ofNat (a.toNat + i)

def allBytes : List Char := (List.range 256).map Char.ofNat

def setItems : Nat → List Char → Except String (List SetItem)
  | 0, _ => .ok []
  | fuel + 1, cs =>
    match cs with
    | [] => .ok []
    | '[' :: ':' :: rest =>
      let name := String.ofList (rest.takeWhile (· ≠ ':'))
      match rest.drop name.length with
      | ':' :: ']' :: after =>
        match Text.Regex.asciiClass? name with
        | some p => do return .named name (allBytes.filter fun c => c.toNat < 128 && p c) :: (← setItems fuel after)
        | none => .error ("tr: invalid character class " ++ quoted name)
      | _ => do return .bytes ['['] :: (← setItems fuel (':' :: rest))
    | '[' :: '=' :: c :: '=' :: ']' :: after => do return .same c :: (← setItems fuel after)
    | '[' :: rest => do
      match setChar rest with
      | some (c, '*' :: more) =>
        let digits := more.takeWhile Char.isDigit
        match more.drop digits.length with
        | ']' :: after =>
          let n := if digits.head? = some '0' then digits.foldl (fun n c => n * 8 + (c.toNat - 48)) 0 else Decimal.value digits
          return .times c (if n = 0 then none else some n) :: (← setItems fuel after)
        | _ => return .bytes ['['] :: (← setItems fuel rest)
      | _ => plain fuel cs
    | _ => plain fuel cs
where
  plain (fuel : Nat) (cs : List Char) : Except String (List SetItem) := do
    match setChar cs with
    | none => return []
    | some (a, '-' :: rest) =>
      match setChar rest with
      | some (b, after) =>
        if b < a then throw ("tr: range-endpoints of " ++ quoted (String.ofList [a, '-', b]) ++ " are in reverse collating sequence order")
        return .bytes (between a b) :: (← setItems fuel after)
      | none => return [.bytes [a, '-']]
    | some (a, rest) => return .bytes [a] :: (← setItems fuel rest)

/-- The characters of a set; one that is repeated as often as needed fills it up to a size. -/
def spread (size : Nat) (items : List SetItem) : List Char :=
  let width (i : SetItem) : Nat := match i with
    | .bytes bs | .named _ bs => bs.length
    | .same _ => 1
    | .times _ n => n.getD 0
  let open_ := size - (items.map width).foldl (· + ·) 0
  items.flatMap fun i => match i with
    | .bytes bs | .named _ bs => bs
    | .same c => [c]
    | .times c n => List.replicate (n.getD open_) c

def withoutRepeats (isSqueezed : Char → Bool) : List Char → List Char
  | a :: b :: rest => if a = b && isSqueezed a then withoutRepeats isSqueezed (b :: rest) else a :: withoutRepeats isSqueezed (b :: rest)
  | cs => cs

def tr : Tool := fun args d =>
  withOptions "tr" { flags := "cCdst", words := ["complement", "delete", "squeeze-repeats", "truncate-set1"] } (fun g d =>
    let deletes := g.has ["d", "delete"]
    let squeezes := g.has ["s", "squeeze-repeats"]
    let single := (deletes && !squeezes) || (squeezes && !deletes && g.operands.length = 1)
    match g.operands with
    | [] => misused "tr" "missing operand" d
    | _ :: _ :: extra :: _ => misused "tr" ("extra operand " ++ quoted extra) d
    | [a, b] =>
      if single then misused "tr" ("extra operand " ++ quoted b
        ++ "\nOnly one string may be given when deleting without squeezing repeats.") d
      else run g deletes squeezes a (some b) d
    | [a] =>
      if single then run g deletes squeezes a none d
      else misused "tr" ("missing operand after " ++ quoted a ++ "\n" ++ (if deletes then
        "Two strings must be given when both deleting and squeezing repeats." else "Two strings must be given when translating.")) d) 1
    args d
where
  run (g : Given) (deletes squeezes : Bool) (a : String) (b : Option String) (d : Desk) : Nat × Desk :=
    let items (s : String) : Except String (List SetItem) := let cs := bytesOf s; setItems (cs.length + 1) cs
    match items a, items (b.getD "") with
    | .error e, _ | _, .error e => (1, d.complain e)
    | .ok first, .ok second =>
      let set := spread 0 first
      let set := if g.has ["c", "C", "complement"] then allBytes.filter fun c => !set.contains c else set
      let other := spread set.length second
      let set := if g.has ["t", "truncate-set1"] && b.isSome then set.take other.length else set
      let translates := !deletes && b.isSome
      let odd := second.findSome? fun
        | .named n _ => if n = "upper" || n = "lower" then
            (if first.any fun i => match i with | .named m _ => m = "upper" || m = "lower" | _ => false then none
             else some "tr: misaligned [:upper:] and/or [:lower:] construct")
          else some "tr: when translating, the only character classes that may appear in\nstring2 are 'upper' and 'lower'"
        | .same _ => some "tr: [=c=] expressions may not appear in string2 when translating"
        | _ => none
      match (if translates then (if other.isEmpty && !g.has ["t", "truncate-set1"] then
          some "tr: when not truncating set1, string2 must be non-empty" else odd) else none) with
      | some e => (1, d.complain e)
      | none =>
        -- of several places of a character, the last counts
        let table : List (Char × Char) := ((List.range set.length).filterMap fun i =>
          (set[i]?).bind fun c => ((other[i]?).or other.getLast?).map fun o => (c, o)).reverse
        let table : Array Char := (allBytes.map fun c => (table.lookup c).getD c).toArray
        let isIn : Array Bool := (allBytes.map set.contains).toArray
        let cs := d.input.toList.map fun b => Char.ofNat b.toNat
        let cs := if deletes then cs.filter fun c => !(isIn[c.toNat]?).getD false
          else if translates then cs.map fun c => (table[c.toNat]?).getD c else cs
        let squeezed := if b.isSome then other else set
        let isSqueezed : Array Bool := (allBytes.map squeezed.contains).toArray
        let cs := if squeezes then withoutRepeats (fun c => (isSqueezed[c.toNat]?).getD false) cs else cs
        (0, Desk.put { d with input := ByteArray.empty } ⟨(cs.map fun c => c.toNat.toUInt8).toArray⟩)

end Provision.Shell.Tool
