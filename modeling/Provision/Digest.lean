set_option autoImplicit false

namespace Provision.Digest

def rootBetween (power n : Nat) : Nat → Nat → Nat → Nat
  | 0, low, _ => low
  | fuel + 1, low, high =>
    if high ≤ low + 1 then low
    else
      let middle := (low + high) / 2
      if middle.pow power ≤ n then rootBetween power n fuel middle high else rootBetween power n fuel low middle

def root (power n : Nat) : Nat := rootBetween power n (n.log2 + 2) 0 (1 <<< (n.log2 / power + 1))

def isPrime (n : Nat) : Bool := n ≥ 2 && (List.range n).all fun d => d < 2 || n % d ≠ 0

def primes (count : Nat) : List Nat := ((List.range 420).filter isPrime).take count

/-- Words are of some bits, and are filled into blocks of sixteen. -/
structure Width where
  bits : Nat
  deriving DecidableEq, Repr

namespace Width

def bytes (w : Width) : Nat := w.bits / 8
def mask (w : Width) (n : Nat) : Nat := n % (1 <<< w.bits)
def add (w : Width) (a b : Nat) : Nat := w.mask (a + b)
def complement (w : Width) (a : Nat) : Nat := (1 <<< w.bits) - 1 - a
def left (w : Width) (k a : Nat) : Nat := w.mask (a <<< k) ||| (a >>> (w.bits - k))
def right (w : Width) (k a : Nat) : Nat := (a >>> k) ||| w.mask (a <<< (w.bits - k))

end Width

def word32 : Width := ⟨32⟩
def word64 : Width := ⟨64⟩

def bigEndian (count n : Nat) : List UInt8 := (List.range count).map fun i => (n >>> (8 * (count - 1 - i))).toUInt8
def littleEndian (count n : Nat) : List UInt8 := (bigEndian count n).reverse

def ofBigEndian (bs : List UInt8) : Nat := bs.foldl (fun n b => n * 256 + b.toNat) 0

def padded (w : Width) (isLittle : Bool) (bs : List UInt8) : List UInt8 :=
  let block := 16 * w.bytes
  let tail := 2 * w.bytes
  let zeros := (block - (bs.length + 1 + tail) % block) % block
  bs ++ 128 :: List.replicate zeros 0 ++ (if isLittle then littleEndian else bigEndian) tail (8 * bs.length)

def chunks {α : Type} (size : Nat) : Nat → List α → List (List α)
  | 0, _ => []
  | fuel + 1, xs => if xs.isEmpty then [] else xs.take size :: chunks size fuel (xs.drop size)

def blocks (w : Width) (isLittle : Bool) (bs : List UInt8) : List (List Nat) :=
  let whole := padded w isLittle bs
  (chunks (16 * w.bytes) (whole.length + 1) whole).map fun b =>
    (chunks w.bytes 17 b).map fun word => ofBigEndian (if isLittle then word.reverse else word)

/-! Six shifts and a schedule of words. -/

def fractions (w : Width) (power : Nat) (ps : List Nat) : List Nat :=
  ps.map fun p => w.mask (root power (p <<< (power * w.bits)))

structure Family where
  width : Width
  rounds : Nat
  /-- Amounts by which words are turned, in four groups of three; the last of the latter two is a shift. -/
  turns : List (List Nat)

def family32 : Family := ⟨word32, 64, [[2, 13, 22], [6, 11, 25], [7, 18, 3], [17, 19, 10]]⟩
def family64 : Family := ⟨word64, 80, [[28, 34, 39], [14, 18, 41], [1, 8, 7], [19, 61, 6]]⟩

def Family.turned (f : Family) (group : Nat) (x : Nat) : Nat :=
  match f.turns[group]? with
  | some [a, b, c] => f.width.right a x ^^^ f.width.right b x ^^^ (if group < 2 then f.width.right c x else x >>> c)
  | _ => x

def constants32 : List Nat := fractions word32 3 (primes 64)
def constants64 : List Nat := fractions word64 3 (primes 80)

def Family.schedule (f : Family) (block : List Nat) : Array Nat :=
  (List.range (f.rounds - 16)).foldl (fun (ws : Array Nat) i =>
    let at_ (k : Nat) : Nat := (ws[i + k]?).getD 0
    ws.push (f.width.mask (f.turned 3 (at_ 14) + at_ 9 + f.turned 2 (at_ 1) + at_ 0))) block.toArray

def Family.compress (f : Family) (constants : List Nat) (state block : List Nat) : List Nat :=
  let w := f.width
  let after := (constants.zip (f.schedule block).toList).foldl (fun s (k, x) =>
    match s with
    | [a, b, c, d, e, g, h, i] =>
      let choice := (e &&& g) ^^^ (w.complement e &&& h)
      let majority := (a &&& b) ^^^ (a &&& c) ^^^ (b &&& c)
      let t := i + f.turned 1 e + choice + k + x
      [w.mask (t + f.turned 0 a + majority), a, b, c, w.mask (d + t), e, g, h]
    | s => s) state
  List.zipWith w.add state after

def Family.hash (f : Family) (constants start : List Nat) (length : Nat) (bs : List UInt8) : List UInt8 :=
  (((blocks f.width false bs).foldl (f.compress constants) start).flatMap (bigEndian f.width.bytes)).take length

def sha256 : List UInt8 → List UInt8 := family32.hash constants32 (fractions word32 2 (primes 8)) 32
def sha512 : List UInt8 → List UInt8 := family64.hash constants64 (fractions word64 2 (primes 8)) 64

def laterStart : List Nat := fractions word64 2 ((primes 16).drop 8)

def sha384 : List UInt8 → List UInt8 := family64.hash constants64 laterStart 48
def sha224 : List UInt8 → List UInt8 := family32.hash constants32 (laterStart.map word32.mask) 28

/-! Older forms. -/

def sha1Start : List Nat := [0x67452301, 0xefcdab89, 0x98badcfe, 0x10325476, 0xc3d2e1f0]

def sha1Block (state block : List Nat) : List Nat :=
  let w := word32
  let words : Array Nat := (List.range 64).foldl (fun (ws : Array Nat) i =>
    let at_ (k : Nat) : Nat := (ws[i + k]?).getD 0
    ws.push (w.left 1 (at_ 13 ^^^ at_ 8 ^^^ at_ 2 ^^^ at_ 0))) block.toArray
  let after := ((List.range 80).zip words.toList).foldl (fun s (i, x) =>
    match s with
    | [a, b, c, d, e] =>
      let (f, k) := if i < 20 then ((b &&& c) ||| (w.complement b &&& d), 0x5a827999)
        else if i < 40 then (b ^^^ c ^^^ d, 0x6ed9eba1)
        else if i < 60 then ((b &&& c) ||| (b &&& d) ||| (c &&& d), 0x8f1bbcdc)
        else (b ^^^ c ^^^ d, 0xca62c1d6)
      [w.mask (w.left 5 a + f + e + k + x), a, w.left 30 b, c, d]
    | s => s) state
  List.zipWith w.add state after

def sha1 (bs : List UInt8) : List UInt8 := ((blocks word32 false bs).foldl sha1Block sha1Start).flatMap (bigEndian 4)

def sines : List Nat :=
  [0xd76aa478, 0xe8c7b756, 0x242070db, 0xc1bdceee, 0xf57c0faf, 0x4787c62a,
   0xa8304613, 0xfd469501, 0x698098d8, 0x8b44f7af, 0xffff5bb1, 0x895cd7be,
   0x6b901122, 0xfd987193, 0xa679438e, 0x49b40821, 0xf61e2562, 0xc040b340,
   0x265e5a51, 0xe9b6c7aa, 0xd62f105d, 0x02441453, 0xd8a1e681, 0xe7d3fbc8,
   0x21e1cde6, 0xc33707d6, 0xf4d50d87, 0x455a14ed, 0xa9e3e905, 0xfcefa3f8,
   0x676f02d9, 0x8d2a4c8a, 0xfffa3942, 0x8771f681, 0x6d9d6122, 0xfde5380c,
   0xa4beea44, 0x4bdecfa9, 0xf6bb4b60, 0xbebfbc70, 0x289b7ec6, 0xeaa127fa,
   0xd4ef3085, 0x04881d05, 0xd9d4d039, 0xe6db99e5, 0x1fa27cf8, 0xc4ac5665,
   0xf4292244, 0x432aff97, 0xab9423a7, 0xfc93a039, 0x655b59c3, 0x8f0ccc92,
   0xffeff47d, 0x85845dd1, 0x6fa87e4f, 0xfe2ce6e0, 0xa3014314, 0x4e0811a1,
   0xf7537e82, 0xbd3af235, 0x2ad7d2bb, 0xeb86d391]

def md5Turns : List (List Nat) := [[7, 12, 17, 22], [5, 9, 14, 20], [4, 11, 16, 23], [6, 10, 15, 21]]

def md5Block (state block : List Nat) : List Nat :=
  let w := word32
  let words := block.toArray
  let after := ((List.range 64).zip sines).foldl (fun s (i, k) =>
    match s with
    | [a, b, c, d] =>
      let (f, j) := if i < 16 then ((b &&& c) ||| (w.complement b &&& d), i)
        else if i < 32 then ((d &&& b) ||| (w.complement d &&& c), (5 * i + 1) % 16)
        else if i < 48 then (b ^^^ c ^^^ d, (3 * i + 5) % 16)
        else (c ^^^ (b ||| w.complement d), (7 * i) % 16)
      let turn := (((md5Turns[i / 16]?).getD [])[i % 4]?).getD 0
      [d, w.add b (w.left turn (w.mask (a + f + k + (words[j]?).getD 0))), b, c]
    | s => s) state
  List.zipWith w.add state after

def md5 (bs : List UInt8) : List UInt8 :=
  ((blocks word32 true bs).foldl md5Block (sha1Start.take 4)).flatMap (littleEndian 4)

/-! Checks by remainders. -/

def crcStep (crc : Nat) (b : UInt8) : Nat :=
  (List.range 8).foldl (fun c _ =>
    let shifted := word32.mask (c <<< 1)
    if c ≥ 1 <<< 31 then shifted ^^^ 0x04c11db7 else shifted) (crc ^^^ (b.toNat <<< 24))

def lengthBytes : Nat → Nat → List UInt8
  | 0, _ => []
  | fuel + 1, n => if n = 0 then [] else n.toUInt8 :: lengthBytes fuel (n / 256)

def crc (bs : List UInt8) : Nat := word32.complement ((bs ++ lengthBytes 16 bs.length).foldl crcStep 0)

def hex (bs : List UInt8) : String :=
  String.ofList (bs.flatMap fun b => [Nat.digitChar (b.toNat / 16), Nat.digitChar (b.toNat % 16)])

end Provision.Digest
