import Provision.Text.Decimal

set_option autoImplicit false

namespace Provision.Text

structure Entry where
  lo : Nat
  hi : Nat
  step : Nat
  value : List Char
  deriving DecidableEq, Repr

abbrev Table := Array Entry

def hexValue (c : Char) : Nat := if c.toNat ≤ 57 then c.toNat - 48 else c.toNat - 87

def ofHex (cs : List Char) : Nat := cs.foldl (fun n c => n * 16 + hexValue c) 0

namespace Entry

def read (last : Nat) (token : List Char) : Entry :=
  let place := token.takeWhile (· ≠ ':')
  let value := (token.drop place.length).drop 1
  let gap := place.takeWhile fun c => c ≠ '.' && c ≠ ';'
  let lo := last + ofHex gap
  match place.drop gap.length with
  | '.' :: reach => ⟨lo, lo + ofHex reach, 1, value⟩
  | ';' :: reach => ⟨lo, lo + ofHex reach, 2, value⟩
  | _ => ⟨lo, lo, 1, value⟩

def holds (e : Entry) (n : Nat) : Bool := e.lo ≤ n && n ≤ e.hi && (n - e.lo) % e.step = 0

end Entry

namespace Table

def read (lines : List String) : Table :=
  (lines.flatMap fun l => l.splitOn " ").foldl (fun (t : Table) token =>
    t.push (Entry.read ((t.back?.map Entry.hi).getD 0) token.toList)) #[]

/-- How many entries start at a code point or before it, if that lies between `lo` and `hi`. -/
def count (t : Table) (n : Nat) : Nat → Nat → Nat → Nat
  | 0, lo, _ => lo
  | fuel + 1, lo, hi =>
    if hi ≤ lo then lo
    else
      let mid := (lo + hi) / 2
      if (t[mid]?.map Entry.lo).any (· ≤ n) then count t n fuel (mid + 1) hi else count t n fuel lo mid

def find? (t : Table) (n : Nat) : Option Entry :=
  match t.count n t.size 0 t.size with
  | 0 => none
  | k + 1 => t[k]?.filter fun e => e.holds n

def contains (t : Table) (n : Nat) : Bool := (t.find? n).isSome

end Table

def numbers (value : List Char) : List Nat :=
  if value.isEmpty then [] else ((String.ofList value).splitOn ",").map fun s => ofHex s.toList

end Provision.Text
