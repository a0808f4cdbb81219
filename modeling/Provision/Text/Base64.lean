set_option autoImplicit false

namespace Provision.Base64

def alphabet : List Char :=
  "ABCDEFGHIJKLMNOPQRSTUVWXYZabcdefghijklmnopqrstuvwxyz0123456789+/".toList

def sixBits (n : Nat) : Char := alphabet.getD (n % 64) 'A'

def encode : List UInt8 → List Char
  | [] => []
  | [a] =>
    let n := a.toNat * 65536
    [sixBits (n / 262144), sixBits (n / 4096), '=', '=']
  | [a, b] =>
    let n := a.toNat * 65536 + b.toNat * 256
    [sixBits (n / 262144), sixBits (n / 4096), sixBits (n / 64), '=']
  | a :: b :: c :: rest =>
    let n := a.toNat * 65536 + b.toNat * 256 + c.toNat
    sixBits (n / 262144) :: sixBits (n / 4096) :: sixBits (n / 64) :: sixBits n :: encode rest

def decode : List Char → List UInt8 × Bool
  | [] => ([], true)
  | a :: b :: c :: d :: rest =>
    let six (c : Char) : Option Nat := alphabet.idxOf? c
    match six a, six b, six c, six d with
    | some w, some x, some y, some z =>
      let n := w * 262144 + x * 4096 + y * 64 + z
      let (more, isWhole) := decode rest
      ((n / 65536).toUInt8 :: (n / 256).toUInt8 :: n.toUInt8 :: more, isWhole)
    | some w, some x, some y, none =>
      let n := w * 262144 + x * 4096 + y * 64
      if d = '=' && rest.isEmpty then ([(n / 65536).toUInt8, (n / 256).toUInt8], true) else ([], false)
    | some w, some x, none, none =>
      if c = '=' && d = '=' && rest.isEmpty then ([((w * 262144 + x * 4096) / 65536).toUInt8], true) else ([], false)
    | _, _, _, _ => ([], false)
  | cs =>
    -- a group that is not finished gives the bytes that it holds
    let values := cs.filterMap alphabet.idxOf?
    match values with
    | [w, x, y] => ([((w * 64 + x) / 16).toUInt8, ((x * 64 + y) / 4 % 256).toUInt8], false)
    | [w, x] => ([((w * 64 + x) / 16).toUInt8], false)
    | _ => ([], false)

end Provision.Base64
