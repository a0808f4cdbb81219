import Provision.Text.Direction
import Provision.Text.Folding
import Provision.Text.Joining
import Provision.Url
import Provision.Url.Punycode

set_option autoImplicit false

namespace Provision.Url.Host

open Text

def splitAt (mark : Char) : List Char → List (List Char)
  | [] => [[]]
  | c :: cs =>
    if c = mark then [] :: splitAt mark cs
    else match splitAt mark cs with
      | [] => [[c]]
      | s :: rest => (c :: s) :: rest

def joinWith (mark : Char) : List (List Char) → List Char
  | [] => []
  | [s] => s
  | s :: rest => s ++ mark :: joinWith mark rest

def isForbidden (c : Char) : Bool :=
  c.toNat ≤ 32 || c.toNat = 127
    || ['%', '#', '/', ':', '<', '>', '?', '@', '[', '\\', ']', '^', '|'].contains c

def isMarked (label : List Char) : Bool := label.take 4 = "xn--".toList

def longestPlain : Nat := 1000
def longestMarked : Nat := 2000

def plain? (label : List Char) : Option (List Char) :=
  if isMarked label then do
    if label.length - 4 > longestMarked then none
    let text ← Punycode.decode? (label.drop 4)
    let isPlain := text.all fun c => Folding.fold? c = some [c]
    if text.all (·.toNat < 128) || !isPlain || Composition.compose text ≠ text then none else some text
  else some label

def isWritable (text : List Char) : Bool :=
  text.all (·.toNat < 128) || (!(text.head?.any Joining.isMark) && Joining.isJoined text)

def written? (label : List Char) : Option (List Char) :=
  if label.all (·.toNat < 128) then some label
  else if isMarked label || label.length > longestPlain then none
  else some ("xn--".toList ++ Punycode.encoded label)

def international? (cs : List Char) : Option (List Char) := do
  let folded := Composition.compose (← cs.mapM Folding.fold?).flatten
  if folded.any isForbidden then none
  let labels := splitAt '.' folded
  let texts ← labels.mapM plain?
  if !texts.all isWritable then none
  if texts.any Direction.isMixed && !texts.all Direction.isUniform then none
  return joinWith '.' (← labels.mapM written?)

def toAscii (bytes : List UInt8) : Except Error (List Char) :=
  let lower := bytes.map fun b => (Char.ofNat b.toNat).toLower
  let ascii? :=
    if bytes.all (· < 128) && !(splitAt '.' lower).any isMarked then
      if lower.any isForbidden then none else some lower
    else (String.fromUTF8? ⟨bytes.toArray⟩).bind fun s => international? s.toList
  match ascii? with
  | none => .error .domain
  | some [] => .error .emptyHost
  | some name => .ok name

def part? (cs : List Char) : Option Nat :=
  let inBase (base : Nat) (ds : List Char) : Option Nat :=
    ds.foldl (fun acc c => do
      let v ← hexValue? c
      if v < base then return (← acc) * base + v else none) (some 0)
  match cs with
  | '0' :: x :: rest => if x = 'x' || x = 'X' then inBase 16 rest else inBase 8 (x :: rest)
  | [] => none
  | _ => inBase 10 cs

def endsInNumber (labels : List (List Char)) : Bool :=
  let last := match labels.reverse with
    | [] :: l :: _ => l
    | [] :: [] => []
    | l :: _ => l
    | [] => []
  !last.isEmpty && (last.all Decimal.isDigit || (last.take 2 = ['0', 'x'] && (part? last).isSome))

def ipv4 (labels : List (List Char)) : Except Error Nat :=
  let labels := if labels.getLast? = some [] then labels.dropLast else labels
  match labels.mapM part? with
  | none => .error .ipv4
  | some parts =>
    match parts.reverse with
    | [] => .error .ipv4
    | last :: before =>
      if parts.length > 4 || before.any (· > 255) || last ≥ Nat.pow 256 (5 - parts.length) then .error .ipv4
      else .ok (last + (before.reverse.zipIdx).foldl (fun n (v, i) => n + v * Nat.pow 256 (3 - i)) 0)

def writeIpv4 (n : Nat) : List Char :=
  joinWith '.' ([n / 16777216, n / 65536 % 256, n / 256 % 256, n % 256].map Decimal.write)

/-- The 16-bit groups of one side of a numeric address of eight groups. Only at its very end may two of them
be written as four decimal numbers. -/
def groups? (atEnd : Bool) (cs : List Char) : Option (List Nat) :=
  if cs.isEmpty then some []
  else
    let parts := splitAt ':' cs
    let hex (p : List Char) : Option (List Nat) :=
      if p.isEmpty || p.length > 4 then none
      else (p.mapM hexValue?).map fun ds => [ds.foldl (fun n d => n * 16 + d) 0]
    let dotted (p : List Char) : Option (List Nat) := do
      let parts ← ((splitAt '.' p).mapM fun d =>
        if d.isEmpty || d.length > 3 || (d.length > 1 && d.head? = some '0') || !d.all Decimal.isDigit then none
        else if Decimal.value d > 255 then none else some (Decimal.value d))
      match parts with
      | [a, b, c, d] => some [a * 256 + b, c * 256 + d]
      | _ => none
    let group (p : List Char × Nat) : Option (List Nat) :=
      if p.1.contains '.' then (if atEnd && p.2 + 1 = parts.length then dotted p.1 else none) else hex p.1
    (parts.zipIdx.mapM group).map List.flatten

def ipv6 (cs : List Char) : Except Error (List Nat) :=
  let rec cut : List Char → List Char × Option (List Char)
    | ':' :: ':' :: rest => ([], some rest)
    | c :: rest => let (a, b) := cut rest; (c :: a, b)
    | [] => ([], none)
  match cut cs with
  | (all, none) =>
    match groups? true all with
    | some gs => if gs.length = 8 then .ok gs else .error .ipv6
    | none => .error .ipv6
  | (before, some after) =>
    match groups? false before, groups? true after with
    | some a, some b =>
      if a.length + b.length < 8 then .ok (a ++ List.replicate (8 - a.length - b.length) 0 ++ b) else .error .ipv6
    | _, _ => .error .ipv6

def writeHex (n : Nat) : List Char := Nat.toDigits 16 n

/-- The start and length of the longest run of zero groups, if it is longer than one. -/
def longestRun (gs : List Nat) : Option (Nat × Nat) :=
  let runs := (List.range gs.length).map fun i => (i, ((gs.drop i).takeWhile (· = 0)).length)
  let best := runs.foldl (fun (b : Nat × Nat) r => if r.2 > b.2 then r else b) (0, 0)
  if best.2 > 1 then some best else none

def writeIpv6 (gs : List Nat) : List Char :=
  let side (gs : List Nat) : List Char := joinWith ':' (gs.map writeHex)
  '[' :: (match longestRun gs with
    | some (i, n) => side (gs.take i) ++ ':' :: ':' :: side (gs.drop (i + n))
    | none => side gs) ++ [']']

def read (cs : List Char) : Except Error (List Char) :=
  match cs with
  | '[' :: rest =>
    if rest.getLast? = some ']' then (ipv6 rest.dropLast).map writeIpv6 else .error .ipv6
  | _ =>
    match toAscii (unescape cs) with
    | .error e => .error e
    | .ok ascii =>
      let labels := splitAt '.' ascii
      if endsInNumber labels then (ipv4 labels).map writeIpv4 else .ok ascii

def isForbiddenOpaque (c : Char) : Bool :=
  c.toNat = 0 || [' ', '#', '/', ':', '<', '>', '?', '@', '[', '\\', ']', '^', '|'].contains c

def readOpaque (cs : List Char) : Except Error (List Char) :=
  match cs with
  | '[' :: rest =>
    if rest.getLast? = some ']' then (ipv6 rest.dropLast).map writeIpv6 else .error .ipv6
  | _ => if cs.any isForbiddenOpaque then .error .character else .ok (escape [] cs)

end Provision.Url.Host
