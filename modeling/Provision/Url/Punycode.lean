set_option autoImplicit false

namespace Provision.Url.Punycode

def threshold (k bias : Nat) : Nat := max 1 (min 26 (k - bias))

def digit (d : Nat) : Char := if d < 26 then Char.ofNat (97 + d) else Char.ofNat (22 + d)

def digitsOf (bias : Nat) : Nat → Nat → Nat → List Char
  | 0, _, _ => []
  | fuel + 1, k, q =>
    let t := threshold k bias
    if q < t then [digit q]
    else digit (t + (q - t) % (36 - t)) :: digitsOf bias fuel (k + 36) ((q - t) / (36 - t))

def shrink : Nat → Nat → Nat → Nat
  | 0, _, k => k
  | fuel + 1, delta, k => if delta > 455 then shrink fuel (delta / 35) (k + 36) else k + 36 * delta / (delta + 38)

def adapt (delta count : Nat) (first : Bool) : Nat :=
  let d := if first then delta / 700 else delta / 2
  shrink 64 (d + d / count) 0

structure Progress where
  out : List Char
  delta : Nat
  bias : Nat
  count : Nat

def passOver (basic m : Nat) (st : Progress) (c : Char) : Progress :=
  if c.toNat < m then { st with delta := st.delta + 1 }
  else if c.toNat = m then
    ⟨st.out ++ digitsOf st.bias 64 36 st.delta, 0, adapt st.delta (st.count + 1) (st.count = basic), st.count + 1⟩
  else st

def encoded (label : List Char) : List Char :=
  let basic := label.filter fun c => c.toNat < 128
  let points := ((label.filter fun c => c.toNat ≥ 128).map Char.toNat).mergeSort.eraseDups
  let start : Progress := ⟨basic ++ (if basic.isEmpty then [] else ['-']), 0, 72, basic.length⟩
  (points.foldl (fun (st, n) m =>
    let st := { st with delta := st.delta + (m - n) * (st.count + 1) }
    let st := label.foldl (passOver basic.length m) st
    ({ st with delta := st.delta + 1 }, m + 1)) (start, 128)).1.out

def digitValue? (c : Char) : Option Nat :=
  if 'a' ≤ c && c ≤ 'z' then some (c.toNat - 97)
  else if '0' ≤ c && c ≤ '9' then some (c.toNat - 22)
  else none

def difference? (bias : Nat) : List Char → Nat → Nat → Nat → Option (Nat × List Char)
  | [], _, _, _ => none
  | c :: rest, i, w, k => do
    let d ← digitValue? c
    let i := i + d * w
    if i > 0xFFFFFFFF then none
    else
      let t := threshold k bias
      if d < t then some (i, rest) else difference? bias rest i (w * (36 - t)) (k + 36)

def fill? : Nat → List Char → List Char → Nat → Nat → Nat → Option (List Char)
  | 0, _, _, _, _, _ => none
  | fuel + 1, cs, out, n, i, bias =>
    if cs.isEmpty then some out
    else do
      let (j, rest) ← difference? bias cs i 1 36
      let size := out.length + 1
      let point := n + j / size
      if point > 0x10FFFF || (0xD800 ≤ point && point < 0xE000) then none
      else
        let at_ := j % size
        fill? fuel rest (out.take at_ ++ Char.ofNat point :: out.drop at_) point (at_ + 1) (adapt (j - i) size (i = 0))

/-- Reads what `encoded` writes: what stands in front of the last hyphen is in the text as it is. -/
def decode? (cs : List Char) : Option (List Char) :=
  let tail := (cs.reverse.takeWhile (· ≠ '-')).reverse
  let basic := cs.take (cs.length - tail.length - 1)
  if basic.isEmpty then fill? (cs.length + 1) cs [] 128 0 72
  else fill? (tail.length + 1) tail basic 128 0 72

end Provision.Url.Punycode
